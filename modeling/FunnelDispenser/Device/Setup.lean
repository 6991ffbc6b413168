import FunnelDispenser.Device.LoopCases
import FunnelDispenser.Time.ClockValidation

/-!
# Boot and wake cycles

`setup()` runs after every reset and every deep sleep; only the record in RTC
memory and the file system survive from one wake to the next.
-/

namespace FunnelDispenser.Device

open CMemory Config StepRuns Time

/-- What survives a reset. -/
structure Persistent (F : Type) where
  rtcMemory : RtcData F
  configFile : Option Bytes
deriving DecidableEq, Repr

/-- What `connect()` meets: whether the station is connected already, the
switch sample of each round of the association loop, and the samples taken
while the switch is held down behind it. -/
structure ConnectInput where
  alreadyConnected : Bool
  attempts : List SwitchPoll
  holdPolls : List SwitchPoll
deriving DecidableEq, Repr

/-- What `setup()` reads from outside. -/
structure SetupInput where
  startMillis : BitVec 32
  mounts : Bool
  heap : HeapView
  firstHold : List SwitchPoll
  secondHold : List SwitchPoll
  ledMillis : BitVec 32
  batteryAnswers : Bool
  environmentAnswers : Bool
  distanceAnswers : Bool
  connect : ConnectInput
  attempts : Nat → Attempt
  hubCreated : Bool

section Setup

variable {F : Type} [DoubleArith F]

inductive ConnectEnd (F : Type) where
  | connected (resetCount : Nat) (board : Board F)
  | restarts (board : Board F)

omit [DoubleArith F] in
/-- The association loop, one poll for each round.  `tries` counts the
rounds, `state` is the level the green LED gets next. -/
def associate : List SwitchPoll → (state : Bool) → (tries resetCount : Nat) →
    Board F → ConnectEnd F
  | [], _, _, resetCount, board => .connected resetCount board
  | poll :: rest, state, tries, resetCount, board =>
      let polled := checkWifiReset poll
        { board with outputs := controlLed greenLed state board.outputs }
      let resets := countReset polled resetCount
      if polled.resetDevice && resets = 5 then
        .restarts { polled with resetDevice := false }
      else if tries + 1 > 240 then
        .restarts polled
      else
        associate rest (!state) (tries + 1) resets polled

/-- The board `connect()` leaves, whether it returns or restarts the chip. -/
def ConnectEnd.board : ConnectEnd F → Board F
  | .connected _ board => board
  | .restarts board => board

omit [DoubleArith F] in
def connect (input : ConnectInput) (board : Board F) : ConnectEnd F :=
  if input.alreadyConnected then
    .connected 0
      { board with
        outputs := controlLed 2 false (controlLed 2 true board.outputs) }
  else
    match associate input.attempts true 0 0 board with
    | .restarts restarting => .restarts restarting
    | .connected resetCount associated =>
        let held := holdSwitch input.holdPolls associated
        .connected resetCount
          { held with
            outputs :=
              controlLed blueLed false (controlLed blueLed true
                (controlLed greenLed false held.outputs)) }

/-- The arguments of `WiFi.begin`. -/
def beginArguments (config : Memory) : Bytes × Bytes :=
  (fieldText config ssidNameAddress, fieldText config ssidPassAddress)

/-- How `setup()` ends: it returns to `loop()`, or the chip sleeps, restarts
or stops at a fault. -/
inductive SetupEnd (F : Type) where
  | loops (device : Firmware F)
  | sleeps (device : Firmware F)
  | restarts (device : Firmware F)
  | faults

/-- What `setup()` leaves, unless it faults. -/
def SetupEnd.device : SetupEnd F → Option (Firmware F)
  | .loops device => some device
  | .sleeps device => some device
  | .restarts device => some device
  | .faults => none

/-- The variables `setup()` starts with. -/
def bootDevice (input : SetupInput) (persistent : Persistent F) :
    Firmware F where
  board :=
    { Board.powerUp persistent.configFile with
      outputs := Outputs.initial.digitalWrite shdnPin true }
  accessPoint := false
  runFlag := false
  criticalFlag := 1
  hubConnected := false
  previousSendMillis := input.startMillis
  resetCount := 0
  rtcData := ⟨DoubleArith.ofNat 0, DoubleArith.ofNat 0, DoubleArith.ofNat 0, 0⟩
  rtcMemory := persistent.rtcMemory
  reportingPasses := 0

omit [DoubleArith F] in
/-- A configuration that makes the device an access point. -/
def selectsAccessPoint (config : Memory) : Bool :=
  (fieldText config connectionStringAddress).length = 0 ||
    (fieldText config ssidNameAddress).length = 0

omit [DoubleArith F] in
/-- From the two hold loops to the sensors. -/
def initBoard (input : SetupInput) (board : Board F) : Board F :=
  let held := holdSwitch input.secondHold board
  { held with
    outputs := initLeds true greenLed 60000 input.ledMillis held.outputs
    sensors :=
      { distanceSensor := input.distanceAnswers
        environmentSensor := input.environmentAnswers
        batterySensor := input.batteryAnswers } }

/-- `setup()` returns, and what it leaves has the property. -/
def SetupEnd.LoopsWith (property : Firmware F → Prop) : SetupEnd F → Prop
  | .loops device => property device
  | _ => False

instance {property : Firmware F → Prop} [DecidablePred property]
    (ended : SetupEnd F) : Decidable (ended.LoopsWith property) :=
  match ended with
  | .loops device => inferInstanceAs (Decidable (property device))
  | .sleeps _ => isFalse id
  | .restarts _ => isFalse id
  | .faults => isFalse id

omit [DoubleArith F] in
theorem SetupEnd.LoopsWith.loops {property : Firmware F → Prop}
    {ended : SetupEnd F} (holds : ended.LoopsWith property) :
    ∃ device, ended = .loops device ∧ property device := by
  cases ended with
  | loops device => exact ⟨device, rfl, holds⟩
  | sleeps device => exact False.elim holds
  | restarts device => exact False.elim holds
  | faults => exact False.elim holds

/-- The part of `setup()` behind `loadConfig`. -/
def setupLoaded (input : SetupInput) (device : Firmware F) : SetupEnd F :=
  let held := holdSwitch input.firstHold device.board
  let ready := initBoard input held
  if selectsAccessPoint held.storage.config then
    .loops { device with board := ready, accessPoint := true }
  else
    match connect input.connect ready with
    | .restarts restarting => .restarts { device with board := restarting }
    | .connected resetCount connected =>
        match validateClock input.attempts with
        | .sleeps _ =>
            .sleeps { device with board := connected, resetCount := resetCount }
        | .online _ =>
            .loops
              { device with
                board := connected
                resetCount := resetCount
                hubConnected := input.hubCreated }

def setup (input : SetupInput) (persistent : Persistent F) : SetupEnd F :=
  let device := bootDevice input persistent
  if input.mounts then
    match loadConfig input.heap device.board.storage with
    | .fault => .faults
    | .failed => setupLoaded input device
    | .loaded config =>
        setupLoaded input
          { device with
            board :=
              { device.board with
                storage := { device.board.storage with config := config } } }
  else
    .loops device

/-- A run of `loop()` ends in deep sleep, in a state with the property. -/
def SleptWith (property : Firmware F → Prop) :
    Outcome (Firmware F) (PassEnd × Firmware F) → Prop
  | .halted (.deepSleep, final) => property final
  | _ => False

instance {property : Firmware F → Prop} [DecidablePred property]
    (outcome : Outcome (Firmware F) (PassEnd × Firmware F)) :
    Decidable (SleptWith property outcome) :=
  match outcome with
  | .halted (.deepSleep, final) => inferInstanceAs (Decidable (property final))
  | .halted (.reset, _) => isFalse id
  | .again _ => isFalse id

omit [DoubleArith F] in
theorem SleptWith.result {property : Firmware F → Prop}
    {outcome : Outcome (Firmware F) (PassEnd × Firmware F)}
    (slept : SleptWith property outcome) :
    ∃ final, outcome = .halted (.deepSleep, final) ∧ property final := by
  rcases outcome with next | ⟨_ | _, final⟩
  · exact False.elim slept
  · exact ⟨final, rfl, slept⟩
  · exact False.elim slept

/-- One wake: `setup()` and the passes of `loop()` behind it. -/
structure WakeInput (F : Type) where
  boot : SetupInput
  passes : List (PassInput F)

inductive WakeEnd (F : Type) where
  | asleep (device : Firmware F)
  | awake (device : Firmware F)
  | setupAsleep (device : Firmware F)
  | restarts
  | faults

def wake (toInt : Bytes → BitVec 32) (input : WakeInput F)
    (persistent : Persistent F) : WakeEnd F :=
  match setup input.boot persistent with
  | .sleeps device => .setupAsleep device
  | .restarts _ => .restarts
  | .faults => .faults
  | .loops device =>
      match run (loop toInt) input.passes device with
      | .again final => .awake final
      | .halted (.deepSleep, final) => .asleep final
      | .halted (.reset, _) => .restarts

omit [DoubleArith F] in
def RtcWorks (input : WakeInput F) : Prop :=
  ∀ pass ∈ input.passes, pass.rtcReadOk = true ∧ pass.rtcWriteOk = true

omit [DoubleArith F] in
def Firmware.persistent (device : Firmware F) : Persistent F :=
  ⟨device.rtcMemory, device.board.storage.configFile⟩

/-- A run of wakes: a device that fell asleep wakes up with what survived. -/
def cycle (toInt : Bytes → BitVec 32) (input : WakeInput F)
    (persistent : Persistent F) : Outcome (Persistent F) (WakeEnd F) :=
  match wake toInt input persistent with
  | .asleep final => .again final.persistent
  | .setupAsleep final => .again final.persistent
  | other => .halted other

/-- The variables the switch handler shares with `loop()`. -/
structure SwitchView where
  messagePending : Bool
  resetDevice : Bool
  wifiResetCount : Nat
deriving DecidableEq, Repr

omit [DoubleArith F] in
def Board.switchView (board : Board F) : SwitchView :=
  ⟨board.messagePending, board.resetDevice, board.wifiResetCount⟩

def SwitchView.poll (view : SwitchView) (poll : SwitchPoll) : SwitchView where
  messagePending := view.messagePending || poll.pressed
  resetDevice :=
    view.resetDevice || completesClear poll view.wifiResetCount
  wifiResetCount :=
    if completesClear poll view.wifiResetCount then 0
    else nextPressCount poll view.wifiResetCount

omit [DoubleArith F] in
theorem switchView_checkWifiReset (poll : SwitchPoll) (board : Board F) :
    (checkWifiReset poll board).switchView = board.switchView.poll poll := by
  rw [Board.switchView, checkWifiReset_eq]
  rfl

omit [DoubleArith F] in
theorem switchView_holdSwitch (polls : List SwitchPoll) (board : Board F) :
    (holdSwitch polls board).switchView =
      polls.foldl SwitchView.poll board.switchView := by
  induction polls generalizing board with
  | nil => rfl
  | cons poll rest inductionHypothesis =>
      rw [holdSwitch_cons, inductionHypothesis, switchView_checkWifiReset,
        List.foldl_cons]

omit [DoubleArith F] in
theorem associate_connected
    {polls : List SwitchPoll} {state : Bool} {tries resetCount : Nat}
    {board : Board F} {finalCount : Nat} {final : Board F}
    (connected : associate polls state tries resetCount board =
      .connected finalCount final) :
    final.switchView = polls.foldl SwitchView.poll board.switchView ∧
      final.hub = board.hub ∧ final.deviceData = board.deviceData ∧
      final.sensors = board.sensors := by
  induction polls generalizing state tries resetCount board with
  | nil =>
      cases connected
      exact ⟨rfl, rfl, rfl, rfl⟩
  | cons poll rest inductionHypothesis =>
      rw [associate] at connected
      split at connected
      · cases connected
      · split at connected
        · cases connected
        · have later := inductionHypothesis connected
          rw [switchView_checkWifiReset, checkWifiReset_hub,
            checkWifiReset_deviceData, checkWifiReset_sensors] at later
          exact later

def SetupInput.polls (input : SetupInput) : List SwitchPoll :=
  input.firstHold ++ input.secondHold ++
    if input.connect.alreadyConnected then []
    else input.connect.attempts ++ input.connect.holdPolls

omit [DoubleArith F] in
theorem connect_connected
    {input : ConnectInput} {board : Board F} {resetCount : Nat}
    {final : Board F}
    (connected : connect input board = .connected resetCount final) :
    final.switchView =
        (if input.alreadyConnected then []
          else input.attempts ++ input.holdPolls).foldl
          SwitchView.poll board.switchView ∧
      final.hub = board.hub ∧ final.deviceData = board.deviceData ∧
      final.sensors = board.sensors := by
  unfold connect at connected
  split at connected
  case isTrue already =>
    cases connected
    simp [already, Board.switchView]
  case isFalse fresh =>
    split at connected
    · cases connected
    · rename_i associatedCount associated joined
      cases connected
      obtain ⟨view, hub, data, sensors⟩ := associate_connected joined
      have held := switchView_holdSwitch input.holdPolls associated
      rw [view] at held
      simp only [fresh, Bool.false_eq_true, if_false, List.foldl_append]
      refine ⟨held, ?_, ?_, ?_⟩
      · simpa using hub
      · simpa using data
      · simpa using sensors

omit [DoubleArith F] in
theorem switchView_initBoard (input : SetupInput) (board : Board F) :
    (initBoard input board).switchView =
      input.secondHold.foldl SwitchView.poll board.switchView :=
  switchView_holdSwitch input.secondHold board

theorem SwitchView.foldl_released {polls : List SwitchPoll}
    (released : ∀ poll ∈ polls, poll.pressed = false) :
    polls.foldl SwitchView.poll ⟨false, false, 0⟩ = ⟨false, false, 0⟩ := by
  induction polls with
  | nil => rfl
  | cons poll rest inductionHypothesis =>
      have same : SwitchView.poll ⟨false, false, 0⟩ poll =
          ⟨false, false, 0⟩ := by
        simp [SwitchView.poll, completesClear, nextPressCount,
          released poll List.mem_cons_self]
      rw [List.foldl_cons, same]
      exact inductionHypothesis fun poll member =>
        released poll (List.mem_cons_of_mem _ member)

/-- What `loop()` can rely on when `setup()` has returned in station mode. -/
structure Booted (input : SetupInput) (persistent : Persistent F)
    (device : Firmware F) : Prop where
  runFlag : device.runFlag = false
  criticalFlag : device.criticalFlag = 1
  rtcMemory : device.rtcMemory = persistent.rtcMemory
  reportingPasses : device.reportingPasses = 0
  previousSendMillis : device.previousSendMillis = input.startMillis
  hub : device.board.hub = HubClient.initial
  station : device.accessPoint = false → input.mounts = true →
    device.board.switchView =
        input.polls.foldl SwitchView.poll ⟨false, false, 0⟩ ∧
      device.hubConnected = input.hubCreated ∧
      device.board.sensors =
        ⟨input.distanceAnswers, input.environmentAnswers,
          input.batteryAnswers⟩
  unmounted : input.mounts = false →
    device.board.switchView = ⟨false, false, 0⟩ ∧
      device.hubConnected = false ∧ device.board.sensors = ⟨true, true, true⟩

private theorem setupLoaded_booted
    {input : SetupInput} {persistent : Persistent F}
    {config : Memory} {device : Firmware F} (mounts : input.mounts = true)
    (loops : setupLoaded input
        { bootDevice input persistent with
          board :=
            { (bootDevice input persistent).board with
              storage := ⟨config, persistent.configFile⟩ } } =
      .loops device) :
    Booted input persistent device := by
  have unmounted : input.mounts = false →
      device.board.switchView = ⟨false, false, 0⟩ ∧
        device.hubConnected = false ∧
        device.board.sensors = ⟨true, true, true⟩ := by
    intro fails
    rw [mounts] at fails
    cases fails
  unfold setupLoaded at loops
  simp only at loops
  split at loops
  · cases loops
    refine ⟨rfl, rfl, rfl, rfl, rfl, ?_, ?_, unmounted⟩
    · simp [initBoard]
      rfl
    · intro station
      cases station
  · split at loops
    · cases loops
    · rename_i resetCount connected joined
      split at loops
      · cases loops
      · cases loops
        obtain ⟨view, hub, data, sensors⟩ := connect_connected joined
        refine ⟨rfl, rfl, rfl, rfl, rfl, ?_, fun _ _ => ⟨?_, rfl, ?_⟩,
          unmounted⟩
        · rw [hub]
          simp [initBoard]
          rfl
        · rw [view, switchView_initBoard, switchView_holdSwitch,
            SetupInput.polls, List.foldl_append, List.foldl_append]
          rfl
        · rw [sensors]
          rfl

theorem setup_booted
    {input : SetupInput} {persistent : Persistent F} {device : Firmware F}
    (loops : setup input persistent = .loops device) :
    Booted input persistent device := by
  unfold setup at loops
  simp only at loops
  split at loops
  case isTrue mounts =>
    split at loops
    · cases loops
    · exact setupLoaded_booted mounts loops
    · exact setupLoaded_booted mounts loops
  case isFalse fails =>
    cases loops
    refine ⟨rfl, rfl, rfl, rfl, rfl, rfl, ?_, fun _ => ⟨rfl, rfl, rfl⟩⟩
    intro _ mounts
    exact absurd mounts fails

/-- An undisturbed boot of a provisioned device ends in station mode. -/
theorem setup_station
    {input : SetupInput} (persistent : Persistent F) {config : Memory}
    {made : Nat} (mounts : input.mounts = true)
    (loaded : loadConfig input.heap ⟨zeroConfig, persistent.configFile⟩ =
      .loaded config)
    (noHold : input.firstHold = [])
    (provisioned : selectsAccessPoint config = false)
    (joined : input.connect.alreadyConnected = true)
    (clock : validateClock input.attempts = .online made) :
    ∃ device, setup input persistent = .loops device ∧
      device.accessPoint = false := by
  have stored : (bootDevice input persistent).board.storage =
      ⟨zeroConfig, persistent.configFile⟩ := rfl
  simp only [setup, mounts, stored, loaded, if_true, setupLoaded, noHold,
    holdSwitch, List.foldl_nil, provisioned, connect, joined, clock,
    Bool.false_eq_true, if_false]
  exact ⟨_, rfl, rfl⟩

/-- The same boot goes to sleep when it gives up on the clock. -/
theorem setup_sleeps
    {input : SetupInput} (persistent : Persistent F) {config : Memory}
    {made : Nat} (mounts : input.mounts = true)
    (loaded : loadConfig input.heap ⟨zeroConfig, persistent.configFile⟩ =
      .loaded config)
    (noHold : input.firstHold = [])
    (provisioned : selectsAccessPoint config = false)
    (joined : input.connect.alreadyConnected = true)
    (clock : validateClock input.attempts = .sleeps made) :
    ∃ device, setup input persistent = .sleeps device := by
  have stored : (bootDevice input persistent).board.storage =
      ⟨zeroConfig, persistent.configFile⟩ := rfl
  simp only [setup, mounts, stored, loaded, if_true, setupLoaded, noHold,
    holdSwitch, List.foldl_nil, provisioned, connect, joined, clock,
    Bool.false_eq_true, if_false]
  exact ⟨_, rfl⟩

end Setup

private theorem sampleDelays_ordered : 40 ≤ 50 ∧ 50 ≤ 50 := by
  omega

private theorem sampleDelays_prompt : 50 < 299000 := by
  omega

/-- A boot on the stored file with every sensor and the clock answering. -/
def sampleBoot : SetupInput where
  startMillis := 9000
  mounts := true
  heap := ⟨[], 0⟩
  firstHold := []
  secondHold := []
  ledMillis := 4000
  batteryAnswers := true
  environmentAnswers := true
  distanceAnswers := true
  connect := ⟨true, [], []⟩
  attempts := fun _ =>
    ⟨6000, some (List.replicate 40 0 ++ [0xE0, 0x9C, 0xE7, 0x40] ++
      List.replicate 4 0), 40, 50, 50, sampleDelays_ordered,
      sampleDelays_prompt⟩
  hubCreated := true

def sampleConfigFile : Bytes :=
  bytesOf "\x7b\"CS\":\"hub\",\"SN\":\"net\",\"SP\":\"secret12\"\x7d"

def samplePersistent {F : Type} (record : RtcData F) : Persistent F :=
  ⟨record, some sampleConfigFile⟩

@[simp]
theorem samplePersistent_rtcMemory {F : Type} (record : RtcData F) :
    (samplePersistent record).rtcMemory = record :=
  rfl

private theorem sampleConfigFile_parses :
    (match loadConfig sampleBoot.heap ⟨zeroConfig, some sampleConfigFile⟩ with
      | .loaded config => selectsAccessPoint config
      | _ => true) = false := by
  decide +kernel

theorem sampleConfigFile_loads :
    ∃ config,
      loadConfig sampleBoot.heap ⟨zeroConfig, some sampleConfigFile⟩ =
          .loaded config ∧
        selectsAccessPoint config = false := by
  have loads := sampleConfigFile_parses
  split at loads
  · rename_i config loaded
    exact ⟨config, loaded, loads⟩
  · cases loads

private theorem sampleBoot_clock :
    validateClock sampleBoot.attempts = .online 1 := by
  decide +kernel

/-- The sample boot ends in station mode, whatever the record. -/
theorem setup_sampleBoot {F : Type} [DoubleArith F] (record : RtcData F) :
    ∃ device, setup sampleBoot (samplePersistent record) = .loops device ∧
      device.accessPoint = false := by
  obtain ⟨config, loaded, provisioned⟩ := sampleConfigFile_loads
  exact setup_station (samplePersistent record) rfl loaded rfl provisioned
    rfl sampleBoot_clock

/-- A record of 10 cm, 70 °F and 40 % right after a report. -/
def sampleRecord : RtcData ℚ := ⟨10, 70, 40, 0⟩

section SamplePass

variable {F : Type} [DoubleArith F]

/-- The readings of a sample pass, with this range in millimetres. -/
def sampleReadings (temperature humidity : F) (range : UInt8) :
    SensorReadings F :=
  ⟨⟨range, 0⟩, temperature, humidity, 80, 95⟩

def sampleReport (readings : SensorReadings F) : ReportInput F :=
  ⟨readings, bytesOf "2019-06-01T12:00:00", 20000, true, true⟩

/-- A pass without a switch press or a cloud command.  It samples `readings`
and `again` for the report; `send` is the fate of the head message. -/
def samplePass (readings again : SensorReadings F) (millis : BitVec 32)
    (send : SendOutcome) : PassInput F where
  rtcReadOk := true
  sample := readings
  currentMillis := millis
  switchPoll := ⟨false, .complete⟩
  keepAliveMillis := millis
  ledStartMillis := millis
  ledEndMillis := millis
  portal := none
  report := sampleReport again
  work := ⟨send, [], none, ⟨sampleReport again, .complete⟩⟩
  rtcWriteOk := true

end SamplePass

end FunnelDispenser.Device
