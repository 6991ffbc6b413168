import FunnelDispenser.Device.LedDurations
import FunnelDispenser.Device.Setup

/-!
# The last writer of a pin

In the reporting branch the switch handler, the keep-alive routine and
`LedWatch` write the pins of the LEDs, in this order.  `LedWatch` writes all
of them in every call, so only the durations of commands reach the pins.
-/

namespace FunnelDispenser.Device

open StepRuns

section Writers

variable {F : Type} [DoubleArith F]

omit [DoubleArith F] in
theorem checkWifiReset_outputs (poll : SwitchPoll) (board : Board F) :
    (checkWifiReset poll board).outputs =
      { board.outputs with
        pins := (checkWifiReset poll board).outputs.pins } := by
  cases pressed : poll.pressed
  · simp only [checkWifiReset, pressed]
    rfl
  · by_cases full : 4 < board.wifiResetCount + 1
    · simp only [checkWifiReset, pressed, if_true, gt_iff_lt, full]
      rfl
    · simp only [checkWifiReset, pressed, if_true, gt_iff_lt, full]
      rfl

theorem readRtc_outputs (input : PassInput F) (device : Firmware F) :
    (readRtc input device).board.outputs =
      { device.board.outputs with
        pins := (readRtc input device).board.outputs.pins } := by
  rw [readRtc_eq]
  by_cases sampling : samples input device = true
  · simp only [sampling, if_true, sampleSensors_eq]
    rfl
  · simp only [sampling]
    rfl

/-- Up to the keep-alive routine a pass writes nothing but pins. -/
theorem enterBranch_outputs (input : PassInput F) (device : Firmware F) :
    (enterBranch input (readRtc input device)).board.outputs =
      { device.board.outputs with
        pins :=
          (enterBranch input (readRtc input device)).board.outputs.pins } := by
  have switch := checkWifiReset_outputs input.switchPoll
    (readRtc input device).board
  rw [readRtc_outputs] at switch
  exact switch

omit [DoubleArith F] in
/-- The keep-alive LED is toggled by a call at this clock value. -/
def toggles (currentMillis : BitVec 32) (outputs : Outputs) : Bool :=
  outputs.activeKeepAliveLed &&
    outputs.keepAliveLedInterval / 2 ≤
      currentMillis - outputs.keepAlivePreviousMillis

omit [DoubleArith F] in
theorem ledState_keepAliveLed (currentMillis : BitVec 32)
    (outputs : Outputs) :
    (keepAliveLed currentMillis outputs).ledState =
      (outputs.ledState ^^ toggles currentMillis outputs) := by
  unfold keepAliveLed toggles
  cases active : outputs.activeKeepAliveLed
  · rw [if_neg Bool.false_ne_true, Bool.false_and, Bool.xor_false]
  · by_cases due : outputs.keepAliveLedInterval / 2 ≤
        currentMillis - outputs.keepAlivePreviousMillis
    · rw [if_pos rfl, if_pos due, decide_eq_true due, Bool.true_and,
        Bool.xor_true]
      rfl
    · rw [if_pos rfl, if_neg due, decide_eq_false due, Bool.and_false,
        Bool.xor_false]

omit [DoubleArith F] in
theorem duration_keepAliveLed (led : Led) (currentMillis : BitVec 32)
    (outputs : Outputs) :
    led.duration (keepAliveLed currentMillis outputs) =
      led.duration outputs := by
  unfold keepAliveLed
  split
  · split
    · cases led <;> rfl
    · rfl
  · rfl

/-- Behind the three writers a pin shows the duration of its LED only. -/
theorem inBranch_pins_iff (led : Led) (input : PassInput F)
    (device : Firmware F) :
    (inBranch input device).board.outputs.pins led.pin = true ↔
      0 < (led.duration device.board.outputs).toInt := by
  have before : led.duration
        (enterBranch input (readRtc input device)).board.outputs =
      led.duration device.board.outputs := by
    rw [enterBranch_outputs]
    cases led <;> rfl
  have level := led.pins_ledWatch input.ledStartMillis input.ledEndMillis
    (keepAliveLed input.keepAliveMillis
      (enterBranch input (readRtc input device)).board.outputs)
  rw [duration_keepAliveLed, before] at level
  exact (Bool.coe_iff_coe.mpr level).trans decide_eq_true_iff

theorem inBranch_ledState (input : PassInput F) (device : Firmware F) :
    (inBranch input device).board.outputs.ledState =
      (device.board.outputs.ledState ^^
        toggles input.keepAliveMillis device.board.outputs) := by
  have before :
      ((enterBranch input (readRtc input device)).board.outputs.ledState ^^
        toggles input.keepAliveMillis
          (enterBranch input (readRtc input device)).board.outputs) =
      (device.board.outputs.ledState ^^
        toggles input.keepAliveMillis device.board.outputs) := by
    rw [enterBranch_outputs]
    rfl
  rw [← before, ← ledState_keepAliveLed]
  rfl

/-- The pass gets to the LED routines: a report is due and the chip is not
reset before them. -/
def drivesLedsNow (input : PassInput F) (device : Firmware F) : Bool :=
  let entered := enterBranch input (readRtc input device)
  reportDue (readRtc input device) &&
    !(entered.board.resetDevice && entered.resetCount = 20)

/-- Behind `LedWatch` the green pin shows the command or the keep-alive
state, and the red pin the switch or the command. -/
def WritersAgree (device : Firmware F) (input : PassInput F) : Prop :=
  drivesLedsNow input device = true →
    let after := (inBranch input device).board.outputs
    (after.pins greenLed = true ↔
      0 < device.board.outputs.greenLedDuration.toInt ∨
        after.ledState = true) ∧
    (after.pins redLed = true ↔
      input.switchPoll.pressed = true ∨
        0 < device.board.outputs.redLedDuration.toInt)

/-- Where the keep-alive state is on a command lights the green LED too, and
where the switch is pressed one lights the red LED. -/
def CommandsCover (device : Firmware F) (input : PassInput F) : Prop :=
  drivesLedsNow input device = true →
    ((device.board.outputs.ledState ^^
        toggles input.keepAliveMillis device.board.outputs) = true →
      0 < device.board.outputs.greenLedDuration.toInt) ∧
    (input.switchPoll.pressed = true →
      0 < device.board.outputs.redLedDuration.toInt)

instance (device : Firmware F) (input : PassInput F) :
    Decidable (WritersAgree device input) :=
  inferInstanceAs (Decidable (_ → _))

instance (device : Firmware F) (input : PassInput F) :
    Decidable (CommandsCover device input) :=
  inferInstanceAs (Decidable (_ → _))

theorem writersAgree_iff_commandsCover
    (device : Firmware F) (input : PassInput F) :
    WritersAgree device input ↔ CommandsCover device input := by
  have green :
      (inBranch input device).board.outputs.pins greenLed = true ↔
        0 < device.board.outputs.greenLedDuration.toInt :=
    inBranch_pins_iff .green input device
  have red :
      (inBranch input device).board.outputs.pins redLed = true ↔
        0 < device.board.outputs.redLedDuration.toInt :=
    inBranch_pins_iff .red input device
  unfold WritersAgree CommandsCover
  simp only [green, red, inBranch_ledState, iff_self_or, iff_or_self]

/-- In a run the writers agree behind every pass exactly when in every pass
the commands cover what the other two writers show. -/
theorem everyPass_writersAgree_iff (toInt : CMemory.Bytes → BitVec 32)
    (passes : List (PassInput F)) (device : Firmware F) :
    EveryStep (loop toInt) WritersAgree passes device ↔
      EveryStep (loop toInt) CommandsCover passes device :=
  everyStep_congr_of_invariant (fun _ => True) trivial
    (fun state input _ _ => writersAgree_iff_commandsCover state input)
    (fun _ _ _ _ _ _ _ => trivial)

end Writers

/-- The switch is pressed in the first pass of a device with no command. -/
theorem not_everyPass_writersAgree_pressed :
    (setup sampleBoot (samplePersistent sampleRecord)).LoopsWith
      fun device => ¬ EveryStep (loop fun _ => 0) WritersAgree
        [{ samplePass (sampleReadings 70 40 60) (sampleReadings 70 40 60)
            12000 .retry with
          switchPoll := ⟨true, .complete⟩ }] device := by
  decide +kernel

end FunnelDispenser.Device
