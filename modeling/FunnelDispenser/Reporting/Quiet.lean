import FunnelDispenser.Reporting.Baseline
import FunnelDispenser.Reporting.Commitment

/-!
# An unchanged environment

The readings are exact rationals here.  A stored record goes through the
range check before it is compared, so what counts is whether that check and
the comparison are neutral over the range of a sensor.
-/

namespace FunnelDispenser.Reporting

open Device StepRuns

/-- A distance, a temperature and a humidity in the ranges of the sensors. -/
structure InRange (triple : ℚ × ℚ × ℚ) : Prop where
  distance : 0 ≤ triple.1 ∧ triple.1 ≤ 25
  temperature : -40 ≤ triple.2.1 ∧ triple.2.1 ≤ 185
  humidity : 0 ≤ triple.2.2 ∧ triple.2.2 ≤ 100

theorem sanitizeReading_of_mem {reading : ℚ}
    (lower : 0 ≤ reading) (upper : reading ≤ 200) :
    sanitizeReading reading = reading := by
  have notLow : DoubleArith.lt reading (DoubleArith.ofNat 0) = false :=
    decide_eq_false (not_lt.mpr (by exact_mod_cast lower))
  have notHigh : DoubleArith.lt (DoubleArith.ofNat 200) reading = false :=
    decide_eq_false (not_lt.mpr (by exact_mod_cast upper))
  rw [sanitizeReading, notLow, notHigh]
  rfl

theorem sanitizeReading_of_neg {reading : ℚ} (negative : reading < 0) :
    sanitizeReading reading = 0 := by
  have low : DoubleArith.lt reading (DoubleArith.ofNat 0) = true :=
    decide_eq_true (by exact_mod_cast negative)
  rw [sanitizeReading, low]
  exact Nat.cast_zero

theorem differs_iff (stored reading : ℚ) :
    differs stored reading = true ↔ 2 < |stored - reading| := by
  change decide (((2 : Nat) : ℚ) < |stored - reading|) = true ↔ _
  rw [decide_eq_true_eq]
  norm_num

/-- The range check of a temperature is harmless exactly down to -2 °F. -/
theorem differs_sanitizeReading_iff {reading : ℚ}
    (upper : reading ≤ 200) :
    differs (sanitizeReading reading) reading = true ↔ reading < -2 := by
  rw [differs_iff]
  rcases lt_or_ge reading 0 with negative | nonnegative
  · rw [sanitizeReading_of_neg negative, zero_sub, abs_neg,
      abs_of_neg negative]
    constructor <;> intro far <;> linarith
  · rw [sanitizeReading_of_mem nonnegative upper, sub_self, abs_zero]
    constructor <;> intro far <;> linarith

theorem sanitizeReading_idem (reading : ℚ) :
    sanitizeReading (sanitizeReading reading) = sanitizeReading reading := by
  rcases lt_or_ge reading 0 with negative | nonnegative
  · rw [sanitizeReading_of_neg negative]
    exact sanitizeReading_of_mem le_rfl (by norm_num)
  · rcases le_or_gt reading 200 with inside | above
    · rw [sanitizeReading_of_mem nonnegative inside,
        sanitizeReading_of_mem nonnegative inside]
    · have high : DoubleArith.lt (DoubleArith.ofNat 200) reading = true :=
        decide_eq_true (by exact_mod_cast above)
      have zero : sanitizeReading reading = 0 := by
        rw [sanitizeReading, high, Bool.or_true]
        exact Nat.cast_zero
      rw [zero]
      exact sanitizeReading_of_mem le_rfl (by norm_num)

def readingsTriple (readings : SensorReadings ℚ) : ℚ × ℚ × ℚ :=
  (DoubleArith.ofNat (readings.range.range.toNat / 10),
    readings.temperature, readings.humidity)

/-- A pass that reads this triple, without a press and without a command. -/
structure QuietPass (triple : ℚ × ℚ × ℚ) (pass : PassInput ℚ) : Prop where
  reads : pass.rtcReadOk = true
  writes : pass.rtcWriteOk = true
  sample : readingsTriple pass.sample = triple
  report : readingsTriple pass.report.readings = triple
  released : pass.switchPoll.pressed = false
  silent : pass.work.message = none

structure QuietWake (triple : ℚ × ℚ × ℚ) (input : WakeInput ℚ) : Prop where
  released : ∀ poll ∈ input.boot.polls, poll.pressed = false
  environment : input.boot.environmentAnswers = true
  passes : input.passes ≠ []
  quiet : ∀ pass ∈ input.passes, QuietPass triple pass

/-- Wakes in an unchanged environment, each in station mode and on the record
the one before went to sleep with. -/
structure QuietRun (toInt : CMemory.Bytes → BitVec 32)
    (triple : ℚ × ℚ × ℚ) (stored : Nat → Persistent ℚ)
    (wakes : Nat → WakeInput ℚ) (devices : Nat → Firmware ℚ) : Prop where
  boots : ∀ index,
    setup (wakes index).boot (stored index) = .loops (devices index)
  station : ∀ index, (devices index).accessPoint = false
  quiet : ∀ index, QuietWake triple (wakes index)
  passedOn : ∀ index final,
    run (loop toInt) (wakes index).passes (devices index) =
      .halted (.deepSleep, final) →
        (stored (index + 1)).rtcMemory = final.rtcMemory

/-- The wake goes back to sleep in its first pass without queueing a
message. -/
def SleepsAtOnce (toInt : CMemory.Bytes → BitVec 32) (input : WakeInput ℚ)
    (device : Firmware ℚ) : Prop :=
  ∃ first rest final, input.passes = first :: rest ∧
    loop toInt first device = .halted (.deepSleep, final) ∧
    final.board.hub.accepted = []

/-- The wake queues exactly one message and goes to sleep. -/
def SleepsWithOne (toInt : CMemory.Bytes → BitVec 32) (input : WakeInput ℚ)
    (device : Firmware ℚ) : Prop :=
  ∃ final, run (loop toInt) input.passes device =
      .halted (.deepSleep, final) ∧
    final.board.hub.accepted.length = 1

def elapsed (input : WakeInput ℚ) (pass : PassInput ℚ) : BitVec 32 :=
  pass.currentMillis - input.boot.startMillis

/-- The condition on a wake with a heartbeat.  The hub is connected, and in
the first pass behind the ten seconds the client accepts the report and does
not keep it for another attempt. -/
def ReportGoesOut (input : WakeInput ℚ) : Prop :=
  input.boot.mounts = true ∧ input.boot.hubCreated = true ∧
    ∃ waiting pass rest, input.passes = waiting ++ pass :: rest ∧
      (∀ before ∈ waiting, elapsed input before < initTimeMillis) ∧
      initTimeMillis ≤ elapsed input pass ∧
      pass.report.accepted = true ∧ pass.work.send ≠ .retry

/-- The record holds the triple up to the range check, and this count. -/
structure Keeps (triple : ℚ × ℚ × ℚ) (count : Nat) (record : RtcData ℚ) :
    Prop where
  triple : record.sanitize.triple =
    (triple.1, sanitizeReading triple.2.1, triple.2.2)
  count : record.criticalFlag = BitVec.ofNat 32 count

section Record

variable {triple : ℚ × ℚ × ℚ} {count : Nat} {record : RtcData ℚ}

theorem keeps_of_report (range : InRange triple)
    (same : record.triple = triple) (zero : record.criticalFlag = 0) :
    Keeps triple 0 record := by
  obtain ⟨⟨low, high⟩, _, ⟨dry, wet⟩⟩ := range
  refine ⟨?_, zero⟩
  subst same
  simp only [RtcData.triple, RtcData.sanitize] at *
  rw [sanitizeReading_of_mem low (by linarith),
    sanitizeReading_of_mem dry (by linarith)]

theorem Keeps.counted (keeps : Keeps triple count record) :
    Keeps triple (count + 1)
      { record.sanitize with criticalFlag := record.criticalFlag + 1 } := by
  constructor
  · rw [← keeps.triple]
    simp only [RtcData.triple, RtcData.sanitize, sanitizeReading_idem]
  · rw [keeps.count, BitVec.ofNat_add]
    rfl

/-- Only the heartbeat exceeds a record that keeps the triple. -/
theorem exceedsBaseline_iff_of_keeps (range : InRange triple)
    (warm : -2 ≤ triple.2.1) (keeps : Keeps triple count record)
    (small : count < 2 ^ 31) {data : DataDevice ℚ}
    (same : data.triple = triple) :
    exceedsBaseline record.sanitize data = true ↔ 23 ≤ count := by
  have stored := keeps.triple
  simp only [RtcData.triple, Prod.mk.injEq] at stored
  obtain ⟨distance, temperature, humidity⟩ := stored
  subst same
  simp only [DataDevice.triple] at *
  have near : ∀ reading : ℚ, differs reading reading = false := by
    intro reading
    rw [Bool.eq_false_iff, ne_eq, differs_iff, sub_self, abs_zero]
    norm_num
  have mild : differs (sanitizeReading data.temperature)
      data.temperature = false := by
    have upper := range.temperature.2
    simp only at upper
    rw [Bool.eq_false_iff, ne_eq,
      differs_sanitizeReading_iff (by linarith)]
    exact not_lt.mpr warm
  have counter : record.sanitize.criticalFlag.toInt = (count : Int) := by
    change record.criticalFlag.toInt = _
    rw [keeps.count, BitVec.toInt_eq_toNat_cond, BitVec.toNat_ofNat]
    omega
  rw [exceedsBaseline, distance, temperature, humidity, near, near, mild,
    counter]
  rw [Bool.or_false, Bool.or_false, Bool.or_false, decide_eq_true_iff,
    maxTime]
  omega

end Record

section Wake

variable (toInt : CMemory.Bytes → BitVec 32)
variable {triple : ℚ × ℚ × ℚ} {input : WakeInput ℚ}
variable {persistent : Persistent ℚ} {device : Firmware ℚ}

/-- A quiet boot leaves no press, and the environment sensor answers. -/
theorem quiet_boot (quiet : QuietWake triple input)
    (loops : setup input.boot persistent = .loops device)
    (station : device.accessPoint = false) :
    device.board.switchView = ⟨false, false, 0⟩ ∧
      device.board.sensors.environmentSensor = true := by
  have booted := setup_booted loops
  cases mounts : input.boot.mounts
  · obtain ⟨view, _, sensors⟩ := booted.unmounted mounts
    exact ⟨view, by rw [sensors]⟩
  · obtain ⟨view, _, sensors⟩ := booted.station station mounts
    rw [SwitchView.foldl_released quiet.released] at view
    exact ⟨view, by rw [sensors]; exact quiet.environment⟩

/-- The state of a wake that waits for its report. -/
structure Waiting (triple : ℚ × ℚ × ℚ) (record : RtcData ℚ)
    (start : BitVec 32) (device : Firmware ℚ) : Prop where
  station : device.accessPoint = false
  connected : device.hubConnected = true
  idle : device.board.messagePending = false
  free : device.board.resetDevice = false
  memory : device.rtcMemory = record
  start : device.previousSendMillis = start
  empty : device.board.hub.waitingToSend = []
  unsent : device.board.hub.accepted = []
  environment : device.board.sensors.environmentSensor = true
  data : device.runFlag = true → device.board.deviceData.triple = triple

variable {record : RtcData ℚ} {start : BitVec 32} {pass : PassInput ℚ}

theorem comparedData_of_sampled (quiet : QuietPass triple pass)
    (environment : device.board.sensors.environmentSensor = true)
    (sampling : samples pass device = true) :
    (comparedData pass device).triple = triple := by
  rw [comparedData, sampling, if_pos rfl, ← quiet.sample]
  simp only [DataDevice.triple, sampledData, environment, if_true,
    readingsTriple]

/-- Sampled in this pass or in an earlier one, the readings are the same. -/
theorem Waiting.comparedData_triple
    (waiting : Waiting triple record start device)
    (quiet : QuietPass triple pass) :
    (comparedData pass device).triple = triple := by
  cases committed : device.runFlag
  · exact comparedData_of_sampled quiet waiting.environment <|
      samples_of_idle waiting.station quiet.reads committed waiting.idle
  · have sampling : samples pass device = false := by
      simp [samples, committed]
    rw [comparedData, sampling]
    exact waiting.data committed

theorem Waiting.due (waiting : Waiting triple record start device)
    (quiet : QuietPass triple pass) (keeps : Keeps triple 23 record) :
    reportingDue pass device = true := by
  have threshold : decide (maxTime ≤
      (comparedRecord pass device).criticalFlag.toInt) = true := by
    rw [comparedRecord_criticalFlag waiting.station quiet.reads,
      waiting.memory, keeps.count]
    decide
  rw [reportingDue, exceedsBaseline, threshold]
  rfl

theorem Waiting.notReset (waiting : Waiting triple record start device)
    (quiet : QuietPass triple pass) : resetsNow pass device = false := by
  simp [resetsNow, resetHeld, completesClear, nextPressCount, waiting.free,
    quiet.released]

theorem Waiting.advance (waiting : Waiting triple record start device)
    (quiet : QuietPass triple pass) (keeps : Keeps triple 23 record)
    (early : pass.currentMillis - start < initTimeMillis) :
    ∃ next, loop toInt pass device = .again next ∧
      Waiting triple record start next := by
  have board := inBranch_board pass device
  have closed : windowOpen pass device = false := by
    have notYet : ¬ initTimeMillis ≤ pass.currentMillis - start :=
      BitVec.not_le.mpr early
    rw [windowOpen, waiting.start, decide_eq_false notYet]
    rfl
  have services : ServicesHub device pass :=
    ⟨waiting.due quiet keeps, waiting.notReset quiet,
      fun _ => waiting.free⟩
  refine ⟨_, loop_of_waiting toInt waiting.station waiting.connected
    services closed, ?_⟩
  have idle : (inBranch pass device).board.messagePending = false := by
    rw [board.messagePending, waiting.idle, quiet.released]
    rfl
  have free : (inBranch pass device).board.resetDevice = false := by
    rw [board.resetDevice, resetHeld, waiting.free]
    simp [completesClear, nextPressCount, quiet.released]
  have empty : (inBranch pass device).board.hub.waitingToSend = [] := by
    rw [board.hub, waiting.empty]
  have unsent : (inBranch pass device).board.hub.accepted = [] := by
    rw [board.hub, waiting.unsent]
  have environment :
      (inBranch pass device).board.sensors.environmentSensor = true := by
    rw [board.sensors, waiting.environment]
  have data : (inBranch pass device).board.deviceData.triple = triple := by
    rw [board.deviceData, waiting.comparedData_triple quiet]
  rw [serviceHub, doWork_idle toInt empty quiet.silent]
  exact ⟨(inBranch_accessPoint pass device).trans waiting.station,
    (inBranch_hubConnected pass device).trans waiting.connected, idle, free,
    (inBranch_rtcMemory pass device).trans waiting.memory,
    (inBranch_previousSendMillis pass device).trans waiting.start, empty,
    unsent, environment, fun _ => data⟩

/-- The first pass behind the ten seconds sends the report and sleeps. -/
theorem Waiting.finish (range : InRange triple)
    (waiting : Waiting triple record start device)
    (quiet : QuietPass triple pass) (keeps : Keeps triple 23 record)
    (late : initTimeMillis ≤ pass.currentMillis - start)
    (accepts : pass.report.accepted = true)
    (leaves : pass.work.send ≠ .retry) :
    ∃ final, loop toInt pass device = .halted (.deepSleep, final) ∧
      final.board.hub.accepted.length = 1 ∧
      Keeps triple 0 final.rtcMemory := by
  have opened : windowOpen pass device = true := by
    rw [windowOpen, waiting.start, waiting.idle, quiet.released,
      decide_eq_true late]
    rfl
  have silent : commandQueues pass.work = false := by
    rw [commandQueues, quiet.silent]
  have idle : (afterReport toInt pass device).board.messagePending =
      false := by
    rw [Bool.eq_false_iff, ne_eq, pending_afterReport toInt opened]
    rintro (queues | ⟨_, kept⟩)
    · rw [silent] at queues
      cases queues
    · exact leaves kept
  have record := rtcMemory_afterReport toInt device quiet.writes
  refine ⟨_, loop_of_attempt waiting.station ⟨waiting.due quiet keeps,
    waiting.connected, opened, waiting.free⟩ idle, ?_,
    keeps_of_report range
      (record.1.trans (waiting.comparedData_triple quiet)) record.2⟩
  obtain ⟨added, count, _, accepted⟩ := (doWork_effect toInt pass.work
    (sendReport pass (commitBaseline (inBranch pass device))).board).queued
  have unsent : (commitBaseline
      (inBranch pass device)).board.hub.accepted = [] := by
    rw [← waiting.unsent, ← (inBranch_board pass device).hub]
    rfl
  change (doWork toInt pass.work _).hub.accepted.length = 1
  rw [accepted, List.length_append, count, silent, sendReport, sendData_eq]
  simp [accepts, unsent]

theorem sleepsAtOnce_of_keeps (range : InRange triple)
    (warm : -2 ≤ triple.2.1) {count : Nat} (few : count < 23)
    (keeps : Keeps triple count persistent.rtcMemory)
    (quiet : QuietWake triple input)
    (loops : setup input.boot persistent = .loops device)
    (station : device.accessPoint = false) :
    SleepsAtOnce toInt input device ∧
      ∀ final, run (loop toInt) input.passes device =
        .halted (.deepSleep, final) →
          Keeps triple (count + 1) final.rtcMemory := by
  have booted := setup_booted loops
  obtain ⟨view, environment⟩ := quiet_boot quiet loops station
  obtain ⟨first, rest, split⟩ := List.exists_cons_of_ne_nil quiet.passes
  have quietFirst := quiet.quiet first (by simp [split])
  have idle : device.board.messagePending = false :=
    congrArg SwitchView.messagePending view
  have sampling :=
    samples_of_idle station quietFirst.reads booted.runFlag idle
  have skipped : reportingDue first device = false := by
    rw [Bool.eq_false_iff, ne_eq, reportingDue, comparedRecord, sampling,
      if_pos rfl, booted.rtcMemory, exceedsBaseline_iff_of_keeps range warm
        keeps (by omega)
        (comparedData_of_sampled quietFirst environment sampling)]
    omega
  have sleeps := loop_of_skipped toInt station booted.runFlag idle skipped
  refine ⟨⟨first, rest, _, split, sleeps, ?_⟩, fun final reached => ?_⟩
  · change (readRtc first device).board.hub.accepted = []
    rw [(readRtc_board_frame first device).1, booted.hub]
    rfl
  · rw [split, run_cons_halted sleeps] at reached
    cases reached
    rw [rtcMemory_asleep_readRtc station quietFirst.reads quietFirst.writes
      booted.runFlag idle, booted.rtcMemory, booted.criticalFlag]
    exact keeps.counted

theorem sleepsWithOne_of_keeps (range : InRange triple)
    (keeps : Keeps triple 23 persistent.rtcMemory)
    (quiet : QuietWake triple input) (goesOut : ReportGoesOut input)
    (loops : setup input.boot persistent = .loops device)
    (station : device.accessPoint = false) :
    SleepsWithOne toInt input device ∧
      ∀ final, run (loop toInt) input.passes device =
        .halted (.deepSleep, final) →
          Keeps triple 0 final.rtcMemory := by
  have booted := setup_booted loops
  obtain ⟨view, environment⟩ := quiet_boot quiet loops station
  obtain ⟨mounts, created, waiting, pass, rest, split, early, late, accepts,
    leaves⟩ := goesOut
  have connected : device.hubConnected = true :=
    (booted.station station mounts).2.1.trans created
  have initial : Waiting triple persistent.rtcMemory input.boot.startMillis
      device :=
    ⟨station, connected, congrArg SwitchView.messagePending view,
      congrArg SwitchView.resetDevice view, booted.rtcMemory,
      booted.previousSendMillis, by rw [booted.hub]; rfl,
      by rw [booted.hub]; rfl, environment, fun committed => by
        rw [booted.runFlag] at committed
        cases committed⟩
  obtain ⟨reached, passed, stillWaiting⟩ :=
    run_append_of_invariant _ initial
      fun state before member holds =>
        holds.advance toInt (quiet.quiet before (by simp [split, member]))
          keeps (early before member)
  obtain ⟨final, stepped, one, stored⟩ :=
    stillWaiting.finish toInt range (quiet.quiet pass (by simp [split]))
      keeps late accepts leaves
  have ends : run (loop toInt) input.passes device =
      .halted (.deepSleep, final) := by
    rw [split, passed, run_cons_halted stepped]
  refine ⟨⟨final, ends, one⟩, fun other otherEnds => ?_⟩
  rw [ends] at otherEnds
  cases otherEnds
  exact stored

end Wake

/-- A wake at 10 cm and 40 % whose report goes out in its first pass. -/
def steadyWake (temperature : ℚ) : WakeInput ℚ where
  boot := sampleBoot
  passes :=
    [samplePass (sampleReadings temperature 40 100)
      (sampleReadings temperature 40 100) 25000 (.completed .ok)]

/-- The record the next steady wake starts on. -/
def nextRecord (temperature : ℚ) (record : RtcData ℚ) : RtcData ℚ :=
  match setup sampleBoot (samplePersistent record) with
  | .loops device =>
      match run (loop fun _ => 0) (steadyWake temperature).passes device with
      | .halted (.deepSleep, final) => final.rtcMemory
      | _ => record
  | _ => record

def steadyRecord (temperature : ℚ) : Nat → RtcData ℚ
  | 0 => ⟨10, temperature, 40, 0⟩
  | index + 1 => nextRecord temperature (steadyRecord temperature index)

private theorem steadyWake_quiet (temperature : ℚ) :
    QuietWake (10, temperature, 40) (steadyWake temperature) := by
  have centimetres : ((DoubleArith.ofNat ((100 : UInt8).toNat / 10) : ℚ)) =
      10 := by
    change (((100 : UInt8).toNat / 10 : Nat) : ℚ) = 10
    rw [show (100 : UInt8).toNat / 10 = 10 from rfl]
    norm_num
  refine ⟨fun poll member => ?_, rfl, by simp [steadyWake],
    fun pass member => ?_⟩
  · simp [steadyWake, sampleBoot, SetupInput.polls] at member
  · rw [List.mem_singleton.mp member]
    exact ⟨rfl, rfl, Prod.ext centimetres rfl, Prod.ext centimetres rfl,
      rfl, rfl⟩

private theorem steadyWake_goesOut (temperature : ℚ) :
    ReportGoesOut (steadyWake temperature) := by
  refine ⟨rfl, rfl, [], samplePass (sampleReadings temperature 40 100)
    (sampleReadings temperature 40 100) 25000 (.completed .ok), [], rfl,
    by simp, ?_, rfl, by simp [samplePass]⟩
  simp only [elapsed, samplePass, steadyWake, sampleBoot]
  decide

private theorem nextRecord_of_sleep {temperature : ℚ} {record : RtcData ℚ}
    {device final : Firmware ℚ}
    (boots : setup sampleBoot (samplePersistent record) = .loops device)
    (ends : run (loop fun _ => 0) (steadyWake temperature).passes device =
      .halted (.deepSleep, final)) :
    nextRecord temperature record = final.rtcMemory := by
  unfold nextRecord
  rw [boots]
  dsimp only
  rw [ends]

private theorem steady_run (temperature : ℚ) :
    ∃ devices, QuietRun (fun _ => 0) (10, temperature, 40)
      (fun index => samplePersistent (steadyRecord temperature index))
      (fun _ => steadyWake temperature) devices := by
  choose devices boots station using fun index : Nat =>
    setup_sampleBoot (steadyRecord temperature index)
  refine ⟨devices, boots, station, fun _ => steadyWake_quiet temperature,
    fun index final ends => ?_⟩
  simp only [samplePersistent_rtcMemory, steadyRecord]
  exact nextRecord_of_sleep (boots index) ends

section Pattern

variable (toInt : CMemory.Bytes → BitVec 32)
variable {triple : ℚ × ℚ × ℚ} {stored : Nat → Persistent ℚ}
variable {wakes : Nat → WakeInput ℚ} {devices : Nat → Firmware ℚ}

/-- The wakes of a run, counted modulo 24, and the records they start on. -/
private theorem keeps_along_run (range : InRange triple)
    (warm : -2 ≤ triple.2.1)
    (quiet : QuietRun toInt triple stored wakes devices)
    (initial : (stored 0).rtcMemory =
      ⟨triple.1, triple.2.1, triple.2.2, 0⟩)
    (goesOut : ∀ index, index % 24 = 23 → ReportGoesOut (wakes index))
    (index : Nat) :
    Keeps triple (index % 24) (stored index).rtcMemory := by
  induction index with
  | zero =>
      apply keeps_of_report range
      · rw [initial]
        rfl
      · rw [initial]
  | succ index inductionHypothesis =>
      by_cases heartbeat : index % 24 = 23
      · rw [heartbeat] at inductionHypothesis
        obtain ⟨⟨final, ends, _⟩, keeps⟩ := sleepsWithOne_of_keeps toInt
          range inductionHypothesis (quiet.quiet index)
          (goesOut index heartbeat) (quiet.boots index) (quiet.station index)
        rw [quiet.passedOn index final ends,
          show (index + 1) % 24 = 0 by omega]
        exact keeps final ends
      · obtain ⟨⟨first, rest, final, split, sleeps, _⟩, keeps⟩ :=
          sleepsAtOnce_of_keeps toInt range warm (by omega)
            inductionHypothesis (quiet.quiet index) (quiet.boots index)
            (quiet.station index)
        have ends : run (loop toInt) (wakes index).passes (devices index) =
            .halted (.deepSleep, final) := by
          rw [split, run_cons_halted sleeps]
        rw [quiet.passedOn index final ends,
          show (index + 1) % 24 = index % 24 + 1 by omega]
        exact keeps final ends

/-- In an unchanged environment of at least -2 °F whose heartbeat reports go
out at once, 23 wakes go back to sleep in their first pass, the 24th queues
exactly one message, and so on for ever. -/
theorem quiet_pattern (range : InRange triple) (warm : -2 ≤ triple.2.1)
    (quiet : QuietRun toInt triple stored wakes devices)
    (initial : (stored 0).rtcMemory =
      ⟨triple.1, triple.2.1, triple.2.2, 0⟩)
    (goesOut : ∀ index, index % 24 = 23 → ReportGoesOut (wakes index))
    (index : Nat) :
    (index % 24 ≠ 23 →
        SleepsAtOnce toInt (wakes index) (devices index)) ∧
      (index % 24 = 23 →
        SleepsWithOne toInt (wakes index) (devices index)) := by
  have keeps :=
    keeps_along_run toInt range warm quiet initial goesOut index
  constructor
  · intro silent
    exact (sleepsAtOnce_of_keeps toInt range warm (by omega) keeps
      (quiet.quiet index) (quiet.boots index) (quiet.station index)).1
  · intro heartbeat
    rw [heartbeat] at keeps
    exact (sleepsWithOne_of_keeps toInt range keeps (quiet.quiet index)
      (goesOut index heartbeat) (quiet.boots index)
      (quiet.station index)).1

end Pattern

theorem quiet_pattern_mild :
    ∃ devices : Nat → Firmware ℚ, ∀ index,
      (index % 24 ≠ 23 →
        SleepsAtOnce (fun _ => 0) (steadyWake 70) (devices index)) ∧
      (index % 24 = 23 →
        SleepsWithOne (fun _ => 0) (steadyWake 70) (devices index)) := by
  obtain ⟨devices, quiet⟩ := steady_run 70
  exact ⟨devices, quiet_pattern (fun _ => 0)
    ⟨by norm_num, by norm_num, by norm_num⟩ (by norm_num) quiet rfl
    fun _ _ => steadyWake_goesOut 70⟩

private theorem coldWake_sends :
    (setup sampleBoot (samplePersistent (steadyRecord (-10) 0))).LoopsWith
      fun device => SleptWith
        (fun final => final.board.hub.accepted.isEmpty = false)
        (run (loop fun _ => 0) (steadyWake (-10)).passes device) := by
  decide +kernel

/-- At -10 °F the stored temperature counts as 0, and the first wake behind a
report sends another. -/
theorem not_quiet_pattern_cold :
    InRange (10, -10, 40) ∧
    ∃ devices : Nat → Firmware ℚ,
      QuietRun (fun _ => 0) (10, -10, 40)
        (fun index => samplePersistent (steadyRecord (-10) index))
        (fun _ => steadyWake (-10)) devices ∧
      steadyRecord (-10) 0 = ⟨10, -10, 40, 0⟩ ∧
      ReportGoesOut (steadyWake (-10)) ∧
      ¬ SleepsAtOnce (fun _ => 0) (steadyWake (-10)) (devices 0) := by
  obtain ⟨devices, quiet⟩ := steady_run (-10)
  refine ⟨⟨by norm_num, by norm_num, by norm_num⟩, devices, quiet, rfl,
    steadyWake_goesOut (-10), ?_⟩
  rintro ⟨first, rest, final, split, sleeps, unsent⟩
  obtain ⟨device, loops, slept⟩ := coldWake_sends.loops
  obtain ⟨other, reached, sent⟩ := slept.result
  have same : SetupEnd.loops device = .loops (devices 0) :=
    loops.symm.trans (quiet.boots 0)
  cases same
  rw [split, run_cons_halted sleeps] at reached
  cases reached
  rw [unsent] at sent
  cases sent

end FunnelDispenser.Reporting
