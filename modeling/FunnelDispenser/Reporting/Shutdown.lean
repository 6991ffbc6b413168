import FunnelDispenser.Reporting.Baseline

/-!
# What the device sleeps with

`loop()` puts every sensor to sleep and counts the wake before it calls
`Sleep_Mode`; `setup()` calls it with nothing of that done.  The count depends
on a variable in RAM that the report block zeroes even when it is left early.
-/

namespace FunnelDispenser.Reporting

open CMemory Config Device StepRuns Time

variable {F : Type} [DoubleArith F]

/-- A pass that was executed attempts a report. -/
def Reports (toInt : Bytes → BitVec 32) (passes : List (PassInput F))
    (device : Firmware F) : Prop :=
  ¬ EveryStep (loop toInt) (fun state pass => ¬ AttemptsReport state pass)
    passes device

omit [DoubleArith F] in
/-- The state in which the chip goes to deep sleep.  `before` is the counter
before this wake, `reported` and `rewritten` say what happened in it. -/
structure CompleteShutdown (before : BitVec 32) (reported rewritten : Prop)
    (final : Firmware F) : Prop where
  distance : final.board.outputs.pins shdnPin = false
  environment : final.board.bmeMode = .sleep
  battery : final.board.gaugeHibernating = true
  rewritten : rewritten
  counter : (reported ∧ final.rtcMemory.criticalFlag = 0) ∨
    final.rtcMemory.criticalFlag.toInt = before.toInt + 1

/-- Every deep sleep of a wake is a complete shutdown.  On the path through
`setup()` nothing is reported or written to RTC memory. -/
structure SleepsComplete (toInt : Bytes → BitVec 32)
    (persistent : Persistent F) (input : WakeInput F) : Prop where
  fromSetup : ∀ device, setup input.boot persistent = .sleeps device →
    CompleteShutdown persistent.rtcMemory.criticalFlag False False device
  fromLoop : ∀ device, setup input.boot persistent = .loops device →
    ∀ earlier pass middle,
      Reaches (loop toInt) input.passes device earlier pass middle →
      ∀ final, loop toInt pass middle = .halted (.deepSleep, final) →
        CompleteShutdown persistent.rtcMemory.criticalFlag
          (Reports toInt (earlier ++ [pass]) device)
          (pass.rtcWriteOk = true) final

omit [DoubleArith F] in
/-- The counter a pass counts on: the one in RTC memory, or the copy in RAM
when that cannot be read. -/
def countedOn (device : Firmware F) (pass : PassInput F) : BitVec 32 :=
  if pass.rtcReadOk then device.rtcMemory.criticalFlag
  else device.rtcData.criticalFlag

/-- The pass goes to sleep without a report: nothing is due, or there is no
hub to report to. -/
structure SleepsUnreported (device : Firmware F) (pass : PassInput F) :
    Prop where
  station : device.accessPoint = false
  idle : device.board.messagePending = false
  unreported :
    (reportingDue pass device = false ∧ device.runFlag = false) ∨
      (reportingDue pass device = true ∧
        resetsNow pass device = false ∧ device.hubConnected = false ∧
        pass.switchPoll.pressed = false)

/-- The condition on a pass.  A sleep without a report writes the counter of
before plus one, or 0 behind an earlier report; a report that leaves nothing
pending is written. -/
structure ShutsDown (before : BitVec 32) (reported : Prop)
    (device : Firmware F) (pass : PassInput F) : Prop where
  unreported : SleepsUnreported device pass →
    pass.rtcWriteOk = true ∧
      ((reported ∧ countedOn device pass + device.criticalFlag = 0) ∨
        (countedOn device pass + device.criticalFlag).toInt =
          before.toInt + 1)
  attempted : device.accessPoint = false → AttemptsReport device pass →
    pass.rtcWriteOk = true ∨ commandQueues pass.work = true ∨
      (pass.report.accepted = true ∧ pass.work.send = .retry)

/-- The condition on a wake: `setup()` does not give up on the clock, and
every pass meets the condition on it. -/
structure WakeShutsDown (toInt : Bytes → BitVec 32)
    (persistent : Persistent F) (input : WakeInput F) : Prop where
  clock : ∀ device, setup input.boot persistent ≠ .sleeps device
  passes : ∀ device, setup input.boot persistent = .loops device →
    ∀ earlier pass middle,
      Reaches (loop toInt) input.passes device earlier pass middle →
        ShutsDown persistent.rtcMemory.criticalFlag
          (Reports toInt earlier device) middle pass

section Asleep

variable {before : BitVec 32} {reported : Prop}
variable {pass : PassInput F} {device : Firmware F}

omit [DoubleArith F] in
/-- The last block switches everything off; what is left to see is whether
and what it writes. -/
theorem completeShutdown_asleep_iff :
    CompleteShutdown before reported (pass.rtcWriteOk = true)
        (asleep pass device) ↔
      pass.rtcWriteOk = true ∧
        ((reported ∧
            device.rtcData.criticalFlag + device.criticalFlag = 0) ∨
          (device.rtcData.criticalFlag + device.criticalFlag).toInt =
            before.toInt + 1) := by
  have off : (asleep pass device).board.outputs.pins shdnPin = false := by
    simp [asleep, Outputs.digitalWrite]
  have written : pass.rtcWriteOk = true →
      (asleep pass device).rtcMemory.criticalFlag =
        device.rtcData.criticalFlag + device.criticalFlag := by
    intro writes
    simp only [asleep, writes, if_true]
  constructor
  · intro complete
    have writes := complete.rewritten
    have counter := complete.counter
    rw [written writes] at counter
    exact ⟨writes, counter⟩
  · rintro ⟨writes, counter⟩
    refine ⟨off, rfl, rfl, writes, ?_⟩
    rw [written writes]
    exact counter

theorem comparedRecord_countedOn (station : device.accessPoint = false) :
    (comparedRecord pass device).criticalFlag = countedOn device pass := by
  cases reads : pass.rtcReadOk
  · simp [comparedRecord, samples, countedOn, reads]
  · rw [comparedRecord_criticalFlag station reads, countedOn, reads]
    rfl

end Asleep

section Pass

variable {toInt : Bytes → BitVec 32} {before : BitVec 32} {reported : Prop}
variable {pass : PassInput F} {device : Firmware F}

/-- What should hold of the state a pass goes to sleep in. -/
def PassSleepsComplete (toInt : Bytes → BitVec 32) (before : BitVec 32)
    (reported : Prop) (device : Firmware F) (pass : PassInput F) : Prop :=
  ∀ final, loop toInt pass device = .halted (.deepSleep, final) →
    CompleteShutdown before reported (pass.rtcWriteOk = true) final

private theorem passSleepsComplete_iff {final : Firmware F}
    (slept : loop toInt pass device = .halted (.deepSleep, final)) :
    PassSleepsComplete toInt before reported device pass ↔
      CompleteShutdown before reported (pass.rtcWriteOk = true) final := by
  constructor
  · intro complete
    exact complete final slept
  · intro complete other sleeps
    rw [slept] at sleeps
    cases sleeps
    exact complete

private theorem not_slept_accessPoint (mode : device.accessPoint = true)
    (final : Firmware F) :
    loop toInt pass device ≠ .halted (.deepSleep, final) := by
  intro slept
  rcases loop_accessPoint toInt pass mode with ⟨reset, ends⟩ | ends
  · rw [ends] at slept
    cases slept
  · rw [ends] at slept
    cases slept

private theorem complete_iff_of_unreported {final : Firmware F}
    {state : Firmware F} (sleeps : SleepsUnreported device pass)
    (ends : final = asleep pass state)
    (record : state.rtcData = comparedRecord pass device)
    (counter : state.criticalFlag = device.criticalFlag)
    (noReport : ¬ AttemptsReport device pass) :
    CompleteShutdown before (reported ∨ AttemptsReport device pass)
        (pass.rtcWriteOk = true) final ↔
      ShutsDown before reported device pass := by
  rw [ends, completeShutdown_asleep_iff, record, counter,
    comparedRecord_countedOn sleeps.station, or_iff_left noReport]
  constructor
  · intro counted
    exact ⟨fun _ => counted, fun _ attempts => absurd attempts noReport⟩
  · intro shuts
    exact shuts.unreported sleeps

private theorem complete_iff_of_attempt
    (station : device.accessPoint = false)
    (attempts : AttemptsReport device pass)
    (idle : (afterReport toInt pass device).board.messagePending = false) :
    CompleteShutdown before (reported ∨ AttemptsReport device pass)
        (pass.rtcWriteOk = true)
        (asleep pass (afterReport toInt pass device)) ↔
      ShutsDown before reported device pass := by
  have notAwake : ¬ (commandQueues pass.work = true ∨
      (pass.report.accepted = true ∧ pass.work.send = .retry)) := by
    rw [← pending_afterReport toInt attempts.opened, idle]
    exact Bool.false_ne_true
  have zero : (afterReport toInt pass device).rtcData.criticalFlag +
      (afterReport toInt pass device).criticalFlag = 0 := rfl
  rw [completeShutdown_asleep_iff, zero]
  constructor
  · rintro ⟨writes, _⟩
    refine ⟨fun sleeps => ?_, fun _ _ => Or.inl writes⟩
    rcases sleeps.unreported with ⟨skipped, _⟩ | ⟨_, _, unconnected, _⟩
    · rw [attempts.due] at skipped
      cases skipped
    · rw [attempts.connected] at unconnected
      cases unconnected
  · intro shuts
    exact ⟨(shuts.attempted station attempts).resolve_right notAwake,
      Or.inl ⟨Or.inr attempts, rfl⟩⟩

private theorem shutsDown_of_awake
    (awake : ∀ final, loop toInt pass device ≠ .halted (.deepSleep, final)) :
    ShutsDown before reported device pass where
  unreported sleeps := by
    have station := sleeps.station
    rcases sleeps.unreported with
      ⟨skipped, committed⟩ | ⟨due, notNow, unconnected, released⟩
    · exact absurd
        (loop_of_skipped toInt station committed sleeps.idle skipped)
        (awake _)
    · have idle : (inBranch pass device).board.messagePending = false := by
        rw [(inBranch_board pass device).messagePending, sleeps.idle,
          released]
        rfl
      exact absurd
        (loop_of_offline toInt station due notNow unconnected idle)
        (awake _)
  attempted station attempts := by
    right
    rw [← pending_afterReport toInt attempts.opened]
    by_contra idle
    exact absurd (loop_of_attempt station attempts
      (Bool.eq_false_of_not_eq_true idle)) (awake _)

/-- The sleep of a pass is complete exactly when it meets the condition. -/
theorem passSleepsComplete_iff_shutsDown :
    PassSleepsComplete toInt before (reported ∨ AttemptsReport device pass)
        device pass ↔
      ShutsDown before reported device pass := by
  by_cases sleeps : ∃ final,
      loop toInt pass device = .halted (.deepSleep, final)
  · obtain ⟨final, slept⟩ := sleeps
    have station : device.accessPoint = false := by
      rw [← Bool.not_eq_true]
      exact fun mode => not_slept_accessPoint mode final slept
    rw [passSleepsComplete_iff slept]
    cases fellAsleep_of_loop station slept with
    | quiet skipped committed idle ends =>
        apply complete_iff_of_unreported
          ⟨station, idle, Or.inl ⟨skipped, committed⟩⟩ ends
        · rw [readRtc_eq]
        · rw [readRtc_eq]
        · intro attempts
          rw [attempts.due] at skipped
          cases skipped
    | offline due unconnected idle ends =>
        rw [(inBranch_board pass device).messagePending,
          Bool.or_eq_false_iff] at idle
        have notNow : resetsNow pass device = false := by
          rw [← Bool.not_eq_true]
          intro now
          rw [loop_station_eq toInt pass station, due, now] at slept
          cases slept
        exact complete_iff_of_unreported
          ⟨station, idle.1, Or.inr ⟨due, notNow, unconnected, idle.2⟩⟩ ends
          (inBranch_rtcData pass device) (inBranch_criticalFlag pass device)
          (fun attempts => by
            rw [attempts.connected] at unconnected
            cases unconnected)
    | sends due connected opened free idle ends =>
        subst ends
        exact complete_iff_of_attempt station
          ⟨due, connected, opened, free⟩ idle
  · have awake : ∀ final,
        loop toInt pass device ≠ .halted (.deepSleep, final) :=
      fun final slept => sleeps ⟨final, slept⟩
    exact iff_of_true (fun final slept => absurd slept (awake final))
      (shutsDown_of_awake awake)

end Pass

section Setup

omit [DoubleArith F]

theorem shdn_controlLed {pin : Nat} (isLed : pin ≠ shdnPin) (turnOn : Bool)
    (outputs : Outputs) :
    (controlLed pin turnOn outputs).pins shdnPin = outputs.pins shdnPin := by
  rw [controlLed, Outputs.digitalWrite]
  exact Function.update_of_ne isLed.symm _ _

theorem shdn_showPressed (outputs : Outputs) :
    (showPressed outputs).pins shdnPin = outputs.pins shdnPin := by
  rw [showPressed, shdn_controlLed (by decide), shdn_controlLed (by decide),
    shdn_controlLed (by decide)]

theorem shdn_checkWifiReset (poll : SwitchPoll) (board : Board F) :
    (checkWifiReset poll board).outputs.pins shdnPin =
      board.outputs.pins shdnPin := by
  have isLed : redLed ≠ shdnPin := by decide
  have released := shdn_controlLed isLed false board.outputs
  unfold checkWifiReset
  cases poll.pressed
  · exact released
  · simp only [if_true]
    split
    · rw [shdn_showPressed, shdn_showPressed]
    · rw [shdn_showPressed]

theorem shdn_holdSwitch (polls : List SwitchPoll) (board : Board F) :
    (holdSwitch polls board).outputs.pins shdnPin =
      board.outputs.pins shdnPin := by
  induction polls generalizing board with
  | nil => rfl
  | cons poll rest inductionHypothesis =>
      rw [holdSwitch_cons, inductionHypothesis, shdn_checkWifiReset]

theorem shdn_associate {polls : List SwitchPoll} {state : Bool}
    {tries resetCount : Nat} {board : Board F} {finalCount : Nat}
    {final : Board F}
    (connected : associate polls state tries resetCount board =
      .connected finalCount final) :
    final.outputs.pins shdnPin = board.outputs.pins shdnPin := by
  induction polls generalizing state tries resetCount board with
  | nil =>
      cases connected
      rfl
  | cons poll rest inductionHypothesis =>
      rw [associate] at connected
      split at connected
      · cases connected
      · split at connected
        · cases connected
        · rw [inductionHypothesis connected, shdn_checkWifiReset,
            shdn_controlLed (by decide)]

theorem shdn_connect {input : ConnectInput} {board : Board F}
    {resetCount : Nat} {final : Board F}
    (connected : connect input board = .connected resetCount final) :
    final.outputs.pins shdnPin = board.outputs.pins shdnPin := by
  unfold connect at connected
  split at connected
  · cases connected
    rw [shdn_controlLed (by decide), shdn_controlLed (by decide)]
  · split at connected
    · cases connected
    · rename_i associated joined
      cases connected
      rw [shdn_controlLed (by decide), shdn_controlLed (by decide),
        shdn_controlLed (by decide), shdn_holdSwitch, shdn_associate joined]

theorem shdn_initBoard (input : SetupInput) (board : Board F) :
    (initBoard input board).outputs.pins shdnPin =
      board.outputs.pins shdnPin := by
  rw [← shdn_holdSwitch input.secondHold board]
  rfl

end Setup

omit [DoubleArith F] in
private theorem shdn_setupLoaded {input : SetupInput}
    {before device : Firmware F}
    (slept : setupLoaded input before = .sleeps device) :
    device.board.outputs.pins shdnPin =
      before.board.outputs.pins shdnPin := by
  unfold setupLoaded at slept
  simp only at slept
  split at slept
  · cases slept
  · split at slept
    · cases slept
    · rename_i connected joined
      split at slept
      · cases slept
        rw [shdn_connect joined, shdn_initBoard, shdn_holdSwitch]
      · cases slept

/-- `setup()` goes to sleep with the distance sensor switched on. -/
theorem shdn_of_setup_sleeps {input : SetupInput}
    {persistent : Persistent F} {device : Firmware F}
    (slept : setup input persistent = .sleeps device) :
    device.board.outputs.pins shdnPin = true := by
  have high : (bootDevice input persistent).board.outputs.pins shdnPin =
      true := by
    simp [bootDevice, Outputs.digitalWrite]
  unfold setup at slept
  simp only at slept
  split at slept
  · split at slept
    · cases slept
    · rw [shdn_setupLoaded slept, high]
    · rw [shdn_setupLoaded slept]
      exact high
  · cases slept

private theorem reports_concat {toInt : Bytes → BitVec 32}
    {earlier : List (PassInput F)} {pass : PassInput F}
    {device middle : Firmware F}
    (reached : run (loop toInt) earlier device = .again middle) :
    Reports toInt (earlier ++ [pass]) device ↔
      Reports toInt earlier device ∨ AttemptsReport middle pass := by
  rw [Reports, everyStep_concat reached, not_and_or, not_not, ← Reports]

/-- One wake sleeps completely exactly when it meets the condition. -/
theorem sleepsComplete_iff_wakeShutsDown (toInt : Bytes → BitVec 32)
    (persistent : Persistent F) (input : WakeInput F) :
    SleepsComplete toInt persistent input ↔
      WakeShutsDown toInt persistent input := by
  have step : ∀ {earlier : List (PassInput F)} {pass : PassInput F}
      {device middle : Firmware F},
      Reaches (loop toInt) input.passes device earlier pass middle →
        (PassSleepsComplete toInt persistent.rtcMemory.criticalFlag
            (Reports toInt (earlier ++ [pass]) device) middle pass ↔
          ShutsDown persistent.rtcMemory.criticalFlag
            (Reports toInt earlier device) middle pass) := by
    intro earlier pass device middle reached
    rw [reports_concat reached.2]
    exact passSleepsComplete_iff_shutsDown
  constructor
  · intro complete
    refine ⟨fun device slept => ?_, ?_⟩
    · have low := (complete.fromSetup device slept).distance
      rw [shdn_of_setup_sleeps slept] at low
      cases low
    · intro device loops earlier pass middle reached
      exact (step reached).mp
        (complete.fromLoop device loops earlier pass middle reached)
  · intro shuts
    refine ⟨fun device slept => absurd slept (shuts.clock device), ?_⟩
    intro device loops earlier pass middle reached
    exact (step reached).mpr
      (shuts.passes device loops earlier pass middle reached)

/-- Along a run of wakes every deep sleep is a complete shutdown exactly when
every wake meets the condition. -/
theorem everySleep_complete_iff (toInt : Bytes → BitVec 32)
    (wakes : List (WakeInput F)) (persistent : Persistent F) :
    EveryStep (cycle toInt) (SleepsComplete toInt) wakes persistent ↔
      EveryStep (cycle toInt) (WakeShutsDown toInt) wakes persistent :=
  everyStep_congr_of_invariant (fun _ => True) trivial
    (fun state input _ _ =>
      sleepsComplete_iff_wakeShutsDown toInt state input)
    (fun _ _ _ _ _ _ _ => trivial)

def silentBoot : SetupInput :=
  { sampleBoot with
    attempts := fun index =>
      ⟨6000 + 2000 * BitVec.ofNat 32 index, none, 1500, 1510, 1510,
        by omega, by omega⟩ }

private theorem silentBoot_clock :
    validateClock silentBoot.attempts = .sleeps 4 := by
  decide +kernel

/-- Without a time server the device sleeps with its distance sensor on. -/
theorem not_everySleep_complete_silent :
    ¬ EveryStep (cycle fun _ => 0) (SleepsComplete fun _ => 0)
      [⟨silentBoot, []⟩] (samplePersistent sampleRecord) := by
  rw [everyStep_singleton]
  intro complete
  obtain ⟨config, loaded, provisioned⟩ := sampleConfigFile_loads
  obtain ⟨device, slept⟩ :
      ∃ device, setup silentBoot (samplePersistent sampleRecord) =
        .sleeps device :=
    setup_sleeps (samplePersistent sampleRecord) rfl loaded rfl provisioned
      rfl silentBoot_clock
  have low := (complete.fromSetup device slept).distance
  rw [shdn_of_setup_sleeps slept] at low
  cases low

end FunnelDispenser.Reporting
