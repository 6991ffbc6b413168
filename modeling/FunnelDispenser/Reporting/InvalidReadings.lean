import FunnelDispenser.Device.Commands
import FunnelDispenser.Reporting.Baseline

/-!
# Range readings with an error status

`GetDistance` stores the range before it looks at the status, and the status
steers only the log.  Two runs that differ in the ranges of failed
measurements are compared pass by pass.
-/

namespace FunnelDispenser.Reporting

open CMemory Device StepRuns

/-- `VL6180X_ERROR_NONE`. -/
def errorNone : UInt8 := 0

/-- Another range byte for a measurement, which differs only when the
measurement failed. -/
structure OtherRange (measured : RangeMeasurement) where
  range : UInt8
  valid : measured.status = errorNone → range = measured.range

/-- Both bytes give the same number of whole centimetres. -/
def OtherRange.SameCentimetres {measured : RangeMeasurement}
    (other : OtherRange measured) : Prop :=
  other.range.toNat / 10 = measured.range.toNat / 10

instance {measured : RangeMeasurement} (other : OtherRange measured) :
    Decidable other.SameCentimetres :=
  inferInstanceAs (Decidable (_ = _))

section WithRange

variable {F : Type}

/-- The readings with this byte in the place of the range. -/
def withRange (range : UInt8) (readings : SensorReadings F) :
    SensorReadings F :=
  { readings with range := { readings.range with range := range } }

def reportWithRange (range : UInt8) (input : ReportInput F) :
    ReportInput F :=
  { input with readings := withRange range input.readings }

def commandWithRange (range : UInt8) (input : CommandInput F) :
    CommandInput F :=
  { input with report := reportWithRange range input.report }

def workWithRange (range : UInt8) (input : DoWorkInput F) : DoWorkInput F :=
  { input with command := commandWithRange range input.command }

variable [DoubleArith F] {range : UInt8}

theorem getDistance_withRange {readings : SensorReadings F}
    (same : range.toNat / 10 = readings.range.range.toNat / 10)
    (board : Board F) :
    getDistance (withRange range readings) board =
      getDistance readings board := by
  simp only [getDistance, withRange, same]

theorem sampleSensors_withRange {readings : SensorReadings F}
    (same : range.toNat / 10 = readings.range.range.toNat / 10)
    (board : Board F) :
    sampleSensors (withRange range readings) board =
      sampleSensors readings board :=
  getDistance_withRange same _

theorem takeReadings_withRange {readings : SensorReadings F}
    {board : Board F}
    (same : board.sensors.distanceSensor = true →
      range.toNat / 10 = readings.range.range.toNat / 10) :
    takeReadings (withRange range readings) board =
      takeReadings readings board := by
  have distances :
      (if board.sensors.distanceSensor then
        getDistance (withRange range readings) board else board) =
      if board.sensors.distanceSensor then getDistance readings board
      else board := by
    split
    · exact getDistance_withRange (same ‹_›) board
    · rfl
  rw [takeReadings, distances]
  rfl

theorem sendData_withRange {input : ReportInput F} {board : Board F}
    (same : board.sensors.distanceSensor = true →
      range.toNat / 10 = input.readings.range.range.toNat / 10) :
    sendData (reportWithRange range input) board = sendData input board := by
  rw [sendData, reportMessage]
  change queueMessage input (composeDeviceStateMessage _ _ _ _
    (takeReadings (withRange range input.readings) board).deviceData)
      (takeReadings (withRange range input.readings) board) = _
  rw [takeReadings_withRange same]
  rfl

def commandMeasures (sensors : SensorFlags) (message : CloudMessage) : Bool :=
  (message.content = some sendDataBody && sensors.distanceSensor) ||
    message.content = some displayDistanceBody

theorem commanded_withRange {input : CommandInput F}
    {message : CloudMessage} {board : Board F}
    (same : commandMeasures board.sensors message = true →
      range.toNat / 10 = input.report.readings.range.range.toNat / 10) :
    commanded (commandWithRange range input) message board =
      commanded input message board := by
  by_cases known : KnownBody message
  · obtain ⟨body, inTable, content⟩ := known
    rw [← commandTable_bodies input] at inTable
    obtain ⟨command, member, rfl⟩ := List.mem_map.mp inTable
    have withEffect : ∀ effect : Board F → Board F,
        (command.1, command.2.1, effect) ∈
            commandTable (commandWithRange range input) →
        effect board = command.2.2 board →
        commanded (commandWithRange range input) message board =
          commanded input message board := by
      intro effect otherMember equal
      rw [commanded_of_known member content,
        commanded_of_known otherMember content]
      exact congrArg (Prod.mk command.2.1) equal
    simp only [commandTable, List.mem_cons, List.not_mem_nil, or_false]
      at member
    rcases member with rfl | rfl | rfl | rfl | rfl | rfl | rfl | rfl | rfl
    · refine withEffect (sendData (reportWithRange range input.report))
        (by simp [commandTable, commandWithRange]) ?_
      apply sendData_withRange
      intro answers
      exact same (by simp [commandMeasures, content, answers])
    · exact withEffect id (by simp [commandTable]) rfl
    · exact withEffect printEnvironment (by simp [commandTable]) rfl
    · refine withEffect
        (getDistance (withRange range input.report.readings))
        (by simp [commandTable, commandWithRange, reportWithRange]) ?_
      apply getDistance_withRange
      exact same (by simp [commandMeasures, content])
    · exact withEffect _ (by simp [commandTable, commandWithRange]) rfl
    · exact withEffect _ (by simp [commandTable]) rfl
    · exact withEffect _ (by simp [commandTable]) rfl
    · exact withEffect id (by simp [commandTable]) rfl
    · exact withEffect id (by simp [commandTable]) rfl
  · rw [commanded_of_unknown _ known, commanded_of_unknown _ known]

/-- The cloud message of this call makes it measure the distance. -/
def workMeasures (sensors : SensorFlags) (input : DoWorkInput F) : Bool :=
  match input.message with
  | some message => commandMeasures sensors message
  | none => false

theorem doWork_withRange (toInt : Bytes → BitVec 32)
    {input : DoWorkInput F} {board : Board F}
    (same : workMeasures board.sensors input = true →
      range.toNat / 10 = input.command.report.readings.range.range.toNat / 10) :
    doWork toInt (workWithRange range input) board =
      doWork toInt input board := by
  have event : (doEvent (workWithRange range input)
      { board with
        hub := { board.hub with doWorkCalls := board.hub.doWorkCalls + 1 } }) =
      doEvent input
        { board with
          hub :=
            { board.hub with doWorkCalls := board.hub.doWorkCalls + 1 } } :=
    rfl
  have sensors := (doEvent_effect input
    { board with
      hub :=
        { board.hub with doWorkCalls := board.hub.doWorkCalls + 1 } }).sensors
  rw [doWork, event, doWork]
  generalize doEvent input
    { board with
      hub := { board.hub with doWorkCalls := board.hub.doWorkCalls + 1 } } =
    evented at sensors
  unfold doMessages
  cases handled : input.message with
  | none => simp only [workWithRange, handled]
  | some message =>
      have commands : commanded (commandWithRange range input.command)
          message evented = commanded input.command message evented := by
        apply commanded_withRange
        intro measures
        rw [sensors] at measures
        exact same (by simpa only [workMeasures, handled] using measures)
      simp only [workWithRange, handled]
      rw [receiveMessageCallback_eq, receiveMessageCallback_eq, commands]
      rfl

end WithRange

/-- A pass, and what its failed measurements give in the second run. -/
structure TwinPass (F : Type) where
  first : PassInput F
  sample : OtherRange first.sample.range
  report : OtherRange first.report.readings.range
  command : OtherRange first.work.command.report.readings.range

section Twin

variable {F : Type}

/-- The same pass in the second run. -/
def TwinPass.second (twin : TwinPass F) : PassInput F :=
  { twin.first with
    sample := withRange twin.sample.range twin.first.sample
    report := reportWithRange twin.report.range twin.first.report
    work := workWithRange twin.command.range twin.first.work }

variable [DoubleArith F]

/-- Both runs decide alike, and the pass ends the wake without using the
sample: nothing is due, or the chip resets, or there is no hub to report
to. -/
structure EndsUnused (device : Firmware F) (twin : TwinPass F) : Prop where
  decision :
    reportingDue twin.second device = reportingDue twin.first device
  unused : reportingDue twin.first device = true →
    resetsNow twin.first device = true ∨
      (device.hubConnected = false ∧ twin.first.switchPoll.pressed = false)

/-- Every failed measurement a pass takes in station mode gives the same
number of centimetres in both runs, or is a sample that is not used. -/
structure StationAlike (device : Firmware F) (twin : TwinPass F) : Prop where
  sample : samples twin.first device = true →
    twin.sample.SameCentimetres ∨ EndsUnused device twin
  report : AttemptsReport device twin.first →
    device.board.sensors.distanceSensor = true →
      twin.report.SameCentimetres
  command : ServicesHub device twin.first → device.hubConnected = true →
    workMeasures device.board.sensors twin.first.work = true →
      twin.command.SameCentimetres

instance (device : Firmware F) (twin : TwinPass F) :
    Decidable (EndsUnused device twin) :=
  decidable_of_iff
    (reportingDue twin.second device = reportingDue twin.first device ∧
      (reportingDue twin.first device = true →
        resetsNow twin.first device = true ∨
          (device.hubConnected = false ∧
            twin.first.switchPoll.pressed = false)))
    ⟨fun ⟨decision, unused⟩ => ⟨decision, unused⟩,
      fun ends => ⟨ends.decision, ends.unused⟩⟩

instance (device : Firmware F) (twin : TwinPass F) :
    Decidable (StationAlike device twin) :=
  decidable_of_iff
    ((samples twin.first device = true →
        twin.sample.SameCentimetres ∨ EndsUnused device twin) ∧
      (AttemptsReport device twin.first →
        device.board.sensors.distanceSensor = true →
          twin.report.SameCentimetres) ∧
      (ServicesHub device twin.first → device.hubConnected = true →
        workMeasures device.board.sensors twin.first.work = true →
          twin.command.SameCentimetres))
    ⟨fun ⟨sample, report, command⟩ => ⟨sample, report, command⟩,
      fun alike => ⟨alike.sample, alike.report, alike.command⟩⟩

/-- An access point takes no measurements. -/
def MeasuresAlike (device : Firmware F) (twin : TwinPass F) : Prop :=
  device.accessPoint = false → StationAlike device twin

instance (device : Firmware F) (twin : TwinPass F) :
    Decidable (MeasuresAlike device twin) :=
  inferInstanceAs (Decidable (_ = _ → _))

theorem readRtc_second {device : Firmware F} {twin : TwinPass F}
    (same : samples twin.first device = true →
      twin.sample.SameCentimetres) :
    readRtc twin.second device = readRtc twin.first device := by
  have sampling : samples twin.second device = samples twin.first device :=
    rfl
  have record : comparedRecord twin.second device =
      comparedRecord twin.first device := rfl
  rw [readRtc_eq, readRtc_eq, sampling, record]
  split
  · have board : sampleSensors twin.second.sample device.board =
        sampleSensors twin.first.sample device.board :=
      sampleSensors_withRange (same ‹_›) device.board
    rw [board]
  · rfl

section Same

variable (toInt : Bytes → BitVec 32)
variable {device : Firmware F} {twin : TwinPass F}

private theorem inBranch_second
    (same : samples twin.first device = true →
      twin.sample.SameCentimetres) :
    inBranch twin.second device = inBranch twin.first device := by
  rw [inBranch, readRtc_second same]
  rfl

private theorem afterReport_second (alike : StationAlike device twin)
    (same : samples twin.first device = true →
      twin.sample.SameCentimetres)
    (attempts : AttemptsReport device twin.first) :
    afterReport toInt twin.second device =
      afterReport toInt twin.first device := by
  have board := inBranch_board twin.first device
  have sent : sendReport twin.second
      (commitBaseline (inBranch twin.first device)) =
        sendReport twin.first
          (commitBaseline (inBranch twin.first device)) := by
    have data : sendData twin.second.report
        (commitBaseline (inBranch twin.first device)).board =
          sendData twin.first.report
            (commitBaseline (inBranch twin.first device)).board := by
      apply sendData_withRange
      intro answers
      change (inBranch twin.first device).board.sensors.distanceSensor =
        true at answers
      rw [board.sensors] at answers
      exact alike.report attempts answers
    rw [sendReport, data]
    rfl
  have services : ServicesHub device twin.first :=
    ⟨attempts.due, resetsNow_of_opened _ attempts.opened attempts.free,
      fun _ => attempts.free⟩
  have work : doWork toInt twin.second.work
      (sendReport twin.first
        (commitBaseline (inBranch twin.first device))).board =
        doWork toInt twin.first.work
          (sendReport twin.first
            (commitBaseline (inBranch twin.first device))).board := by
    apply doWork_withRange
    intro measures
    apply alike.command services attempts.connected
    have sensors : (sendReport twin.first (commitBaseline
        (inBranch twin.first device))).board.sensors =
          device.board.sensors := by
      rw [← board.sensors, sendReport, sendData_eq, takeReadings_eq]
      rfl
    rw [← sensors]
    exact measures
  rw [afterReport, afterReport, inBranch_second same, sent, serviceHub,
    serviceHub, work]

private theorem serviceHub_second (alike : StationAlike device twin)
    (services : ServicesHub device twin.first)
    (connected : device.hubConnected = true) :
    serviceHub toInt twin.second (inBranch twin.first device) =
      serviceHub toInt twin.first (inBranch twin.first device) := by
  have work : doWork toInt twin.second.work
      (inBranch twin.first device).board =
        doWork toInt twin.first.work (inBranch twin.first device).board := by
    apply doWork_withRange
    intro measures
    rw [(inBranch_board twin.first device).sensors] at measures
    exact alike.command services connected measures
  rw [serviceHub, serviceHub, work]

/-- With the same centimetres everywhere the passes are the same. -/
theorem loop_second (station : device.accessPoint = false)
    (alike : StationAlike device twin)
    (same : samples twin.first device = true →
      twin.sample.SameCentimetres) :
    loop toInt twin.second device = loop toInt twin.first device := by
  have read := readRtc_second same
  have branch := inBranch_second same
  have due : reportingDue twin.second device =
      reportingDue twin.first device := by
    rw [← reportDue_readRtc _ station, ← reportDue_readRtc _ station, read]
  have now : resetsNow twin.second device = resetsNow twin.first device :=
    rfl
  have opened : windowOpen twin.second device =
      windowOpen twin.first device := rfl
  have ends : sleepBlock twin.second = sleepBlock twin.first := rfl
  have resets : resetting twin.second device =
      resetting twin.first device := by
    rw [resetting, read]
    rfl
  have offline : afterOffline twin.second device =
      afterOffline twin.first device := by
    rw [afterOffline, branch]
    rfl
  rw [loop_station_eq toInt _ station, loop_station_eq toInt _ station, due,
    now, opened, ends, resets, offline, branch, read]
  cases isDue : reportingDue twin.first device
  · simp only [Bool.false_eq_true, if_false]
  · cases isNow : resetsNow twin.first device
    · cases connected : device.hubConnected
      · simp only [Bool.false_eq_true, if_false]
      · cases isOpen : windowOpen twin.first device
        · have services : ServicesHub device twin.first :=
            ⟨isDue, isNow, fun opens => by rw [isOpen] at opens; cases opens⟩
          rw [serviceHub_second toInt alike services connected]
          simp only [Bool.false_eq_true, if_false]
        · cases held : device.board.resetDevice
          · rw [afterReport_second toInt alike same
              ⟨isDue, connected, isOpen, held⟩]
            simp only [Bool.false_eq_true, if_true, if_false]
          · simp only [if_true]
    · simp only [if_true]

omit [DoubleArith F] in
private theorem portalBranch_second (device : Firmware F) :
    servePortal twin.second (driveLeds twin.second
        (enterBranch twin.second device)) =
      servePortal twin.first (driveLeds twin.first
        (enterBranch twin.first device)) :=
  rfl

theorem loop_second_accessPoint (mode : device.accessPoint = true) :
    loop toInt twin.second device = loop toInt twin.first device := by
  have read : readRtc twin.second device = readRtc twin.first device := by
    apply readRtc_second
    intro sampling
    simp [samples, mode] at sampling
  have stillMode : (readRtc twin.first device).accessPoint = true := by
    rw [readRtc_eq]
    exact mode
  rw [loop, loop, read, reportingBranch_accessPoint _ _ stillMode,
    reportingBranch_accessPoint _ _ stillMode, portalBranch_second]
  rfl

end Same

omit [DoubleArith F] in
def sleepsIn : Outcome (Firmware F) (PassEnd × Firmware F) → Bool
  | .halted (.deepSleep, _) => true
  | _ => false

/-- The decision of a pass, the baseline it leaves in RTC memory and the
distances of the messages queued so far. -/
structure PassView (F : Type) where
  reports : Bool
  sleeps : Bool
  rtcMemory : RtcData F
  distances : List F
deriving DecidableEq

def observePass (toInt : Bytes → BitVec 32) (input : PassInput F)
    (device : Firmware F) : PassView F where
  reports := reportDue (readRtc input device)
  sleeps := sleepsIn (loop toInt input device)
  rtcMemory := (endOfPass (loop toInt input device)).rtcMemory
  distances :=
    (endOfPass (loop toInt input device)).board.hub.accepted.map
      DeviceStateMessage.distance

section Unused

variable (toInt : Bytes → BitVec 32)
variable {device : Firmware F} {input : PassInput F}

def countedMemory (input : PassInput F) (device : Firmware F) : RtcData F :=
  if input.rtcWriteOk then
    { comparedRecord input device with
      criticalFlag :=
        (comparedRecord input device).criticalFlag + device.criticalFlag }
  else device.rtcMemory

variable (device input) in
theorem asleep_readRtc_view :
    (asleep input (readRtc input device)).rtcMemory =
        countedMemory input device ∧
      (asleep input (readRtc input device)).board.hub = device.board.hub := by
  have hub := (readRtc_board_frame input device).1
  refine ⟨?_, hub⟩
  rw [countedMemory, readRtc_eq]
  rfl

variable (device input) in
theorem asleep_afterOffline_view :
    (asleep input (afterOffline input device)).rtcMemory =
        countedMemory input device ∧
      (asleep input (afterOffline input device)).board.hub =
        device.board.hub := by
  refine ⟨?_, (inBranch_board input device).hub⟩
  have record := inBranch_rtcData input device
  have memory := inBranch_rtcMemory input device
  have counter := inBranch_criticalFlag input device
  simp only [asleep, afterOffline, countedMemory, record, memory, counter]

variable (device input) in
theorem resetting_view :
    (resetting input device).rtcMemory = device.rtcMemory ∧
      (resetting input device).board.hub = device.board.hub :=
  ⟨inBranch_rtcMemory input device, (inBranch_board input device).hub⟩

/-- What a pass shows that ends the wake without using its sample. -/
def unusedView (input : PassInput F) (device : Firmware F) : PassView F :=
  let resets := reportingDue input device && resetsNow input device
  { reports := reportingDue input device
    sleeps := !resets
    rtcMemory :=
      if resets then device.rtcMemory else countedMemory input device
    distances :=
      device.board.hub.accepted.map DeviceStateMessage.distance }

theorem observePass_of_unused (station : device.accessPoint = false)
    (committed : device.runFlag = false)
    (idle : device.board.messagePending = false)
    (unused : reportingDue input device = true →
      resetsNow input device = true ∨
        (device.hubConnected = false ∧ input.switchPoll.pressed = false)) :
    observePass toInt input device = unusedView input device ∧
      ∀ next, loop toInt input device ≠ .again next := by
  rw [observePass, unusedView, reportDue_readRtc input station]
  cases due : reportingDue input device
  · have ends := loop_of_skipped toInt station committed idle due
    have view := asleep_readRtc_view device input
    rw [ends]
    simp only [sleepsIn, endOfPass, view]
    exact ⟨rfl, fun next again => by cases again⟩
  · cases now : resetsNow input device
    · obtain ⟨unconnected, released⟩ :=
        (unused due).resolve_left (by rw [now]; exact Bool.false_ne_true)
      have quiet : (inBranch input device).board.messagePending = false := by
        rw [(inBranch_board input device).messagePending, idle, released]
        rfl
      have ends :=
        loop_of_offline toInt station due now unconnected quiet
      have view := asleep_afterOffline_view device input
      rw [ends]
      simp only [sleepsIn, endOfPass, view]
      exact ⟨rfl, fun next again => by cases again⟩
    · have ends : loop toInt input device =
          .halted (.reset, resetting input device) := by
        rw [loop_station_eq toInt input station, due, now]
        rfl
      have view := resetting_view device input
      rw [ends]
      simp only [sleepsIn, endOfPass, view]
      exact ⟨rfl, fun next again => by cases again⟩

end Unused

section Steps

variable (toInt : Bytes → BitVec 32)
variable {device : Firmware F} {twin : TwinPass F}

private theorem lockstep_of_same
    (read : readRtc twin.second device = readRtc twin.first device)
    (same : loop toInt twin.second device = loop toInt twin.first device) :
    observePass toInt twin.first device =
        observePass toInt twin.second device ∧
      ∀ next, loop toInt twin.first device = .again next ↔
        loop toInt twin.second device = .again next := by
  rw [observePass, observePass, read, same]
  exact ⟨rfl, fun next => Iff.rfl⟩

private theorem lockstep_of_unused
    (sampling : samples twin.first device = true)
    (ends : EndsUnused device twin) :
    observePass toInt twin.first device =
        observePass toInt twin.second device ∧
      ∀ next, loop toInt twin.first device = .again next ↔
        loop toInt twin.second device = .again next := by
  simp only [samples, Bool.and_eq_true, Bool.not_eq_true'] at sampling
  obtain ⟨⟨⟨station, _⟩, committed⟩, idle⟩ := sampling
  have first := observePass_of_unused toInt station committed idle ends.unused
  have second :
      observePass toInt twin.second device = unusedView twin.second device ∧
        ∀ next, loop toInt twin.second device ≠ .again next :=
    observePass_of_unused toInt station committed idle
      (by rw [ends.decision]; exact ends.unused)
  have views : unusedView twin.second device =
      unusedView twin.first device := by
    rw [unusedView, ends.decision]
    rfl
  refine ⟨by rw [first.1, second.1, views], fun next => ?_⟩
  exact iff_of_false (first.2 next) (second.2 next)

/-- Passes that measure alike look the same and leave the same state, or end
both wakes. -/
theorem lockstep_of_alike (alike : MeasuresAlike device twin) :
    observePass toInt twin.first device =
        observePass toInt twin.second device ∧
      ∀ next, loop toInt twin.first device = .again next ↔
        loop toInt twin.second device = .again next := by
  cases mode : device.accessPoint
  · have stationAlike := alike mode
    by_cases sampling : samples twin.first device = true
    · rcases stationAlike.sample sampling with same | unused
      · exact lockstep_of_same toInt (readRtc_second fun _ => same)
          (loop_second toInt mode stationAlike fun _ => same)
      · exact lockstep_of_unused toInt sampling unused
    · have vacuous : samples twin.first device = true →
          twin.sample.SameCentimetres :=
        fun sampled => absurd sampled sampling
      exact lockstep_of_same toInt (readRtc_second vacuous)
        (loop_second toInt mode stationAlike vacuous)
  · have noSample : samples twin.first device = true →
        twin.sample.SameCentimetres := by
      intro sampled
      simp [samples, mode] at sampled
    exact lockstep_of_same toInt (readRtc_second noSample)
      (loop_second_accessPoint toInt mode)

end Steps

structure TwinWake (F : Type) where
  boot : SetupInput
  passes : List (TwinPass F)

def SameBehaviour (toInt : Bytes → BitVec 32) (wake : TwinWake F)
    (persistent : Persistent F) : Prop :=
  ∀ device, setup wake.boot persistent = .loops device →
    trace (loop toInt) (observePass toInt)
        (wake.passes.map TwinPass.first) device =
      trace (loop toInt) (observePass toInt)
        (wake.passes.map TwinPass.second) device

def AllMeasureAlike (toInt : Bytes → BitVec 32) (wake : TwinWake F)
    (persistent : Persistent F) : Prop :=
  ∀ device, setup wake.boot persistent = .loops device →
    EveryStep (fun twin => loop toInt (TwinPass.first twin)) MeasuresAlike
      wake.passes device

/-- Failed measurements of the same centimetres do not change what a wake
does. -/
theorem sameBehaviour_of_alike (toInt : Bytes → BitVec 32)
    {wake : TwinWake F} {persistent : Persistent F}
    (alike : AllMeasureAlike toInt wake persistent) :
    SameBehaviour toInt wake persistent := by
  intro device loops
  exact trace_eq_of_lockstep TwinPass.first TwinPass.second
    (fun state twin here => (lockstep_of_alike toInt here).1)
    (fun state twin here => (lockstep_of_alike toInt here).2)
    (alike device loops)

end Twin

def failedReadings (range : UInt8) : SensorReadings ℚ :=
  ⟨⟨range, 7⟩, 70, 40, 80, 95⟩

/-- A wake on a record of 10 cm whose pass samples one range or the other. -/
def failingWake (range other : UInt8) : TwinWake ℚ where
  boot := sampleBoot
  passes :=
    [{  first :=
          samplePass (failedReadings range) (failedReadings range) 25000
            (.completed .ok)
        sample := ⟨other, fun valid =>
          absurd (show (7 : UInt8) = 0 from valid) (by decide)⟩
        report := ⟨range, fun _ => rfl⟩
        command := ⟨range, fun _ => rfl⟩ }]

private theorem failingWake_alike :
    (setup sampleBoot (samplePersistent sampleRecord)).LoopsWith
      fun device =>
        EveryStep (fun twin => loop (fun _ => 0) (TwinPass.first twin))
          MeasuresAlike (failingWake 60 68).passes device := by
  decide +kernel

theorem sameBehaviour_of_alike_sixCentimetres :
    SameBehaviour (fun _ => 0) (failingWake 60 68)
      (samplePersistent sampleRecord) := by
  apply sameBehaviour_of_alike
  intro device loops
  obtain ⟨booted, bootLoops, alike⟩ := failingWake_alike.loops
  have same := loops.symm.trans bootLoops
  cases same
  exact alike

private theorem failingWake_differs :
    (setup sampleBoot (samplePersistent sampleRecord)).LoopsWith
      fun device =>
        trace (loop fun _ => 0) (observePass fun _ => 0)
            ((failingWake 100 255).passes.map TwinPass.first) device ≠
          trace (loop fun _ => 0) (observePass fun _ => 0)
            ((failingWake 100 255).passes.map TwinPass.second) device := by
  decide +kernel

/-- On the range 255 of the failed measurement the device reports, on the
range 100 it goes back to sleep. -/
theorem not_sameBehaviour_failedRange :
    ¬ SameBehaviour (fun _ => 0) (failingWake 100 255)
      (samplePersistent sampleRecord) := by
  intro same
  obtain ⟨device, loops, differs⟩ := failingWake_differs.loops
  exact differs (same device loops)

end FunnelDispenser.Reporting
