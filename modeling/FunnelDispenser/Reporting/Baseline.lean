import FunnelDispenser.Reporting.Pending

/-!
# The stored baseline and what the hub received

The record in RTC memory is written when the device goes to sleep.  This
module relates it to the messages confirmed in the same wake.
-/

namespace FunnelDispenser.Reporting

open Device StepRuns

variable {F : Type} [DoubleArith F]

omit [DoubleArith F] in
/-- One of the messages carries these readings. -/
def Reported (confirmed : List (DeviceStateMessage F))
    (triple : F × F × F) : Prop :=
  ∃ message ∈ confirmed, message.triple = triple

omit [DoubleArith F] in
instance [DecidableEq F] (confirmed : List (DeviceStateMessage F))
    (triple : F × F × F) : Decidable (Reported confirmed triple) :=
  inferInstanceAs (Decidable (∃ message ∈ confirmed, _))

/-- The heartbeat counter was set to 0, not counted on to it and not left
there. -/
def CounterReset (before after : BitVec 32) : Prop :=
  after = 0 ∧ before ≠ 0 ∧ before + 1 ≠ 0

instance (before after : BitVec 32) : Decidable (CounterReset before after) :=
  inferInstanceAs (Decidable (_ ∧ _ ∧ _))

/-- The record a device falls asleep with is the one it woke up with, or the
hub has confirmed a message that carries it; and the counter is reset only
in the second case. -/
structure KnownToHub (stored : RtcData F) (final : Firmware F) : Prop where
  triple : final.rtcMemory.triple = stored.sanitize.triple ∨
    Reported final.board.hub.confirmedOk final.rtcMemory.triple
  counter : CounterReset stored.criticalFlag final.rtcMemory.criticalFlag →
    Reported final.board.hub.confirmedOk final.rtcMemory.triple

private theorem knownToHub_iff (stored : RtcData F) (final : Firmware F) :
    KnownToHub stored final ↔
      (final.rtcMemory.triple = stored.sanitize.triple ∨
        Reported final.board.hub.confirmedOk final.rtcMemory.triple) ∧
      (CounterReset stored.criticalFlag final.rtcMemory.criticalFlag →
        Reported final.board.hub.confirmedOk final.rtcMemory.triple) :=
  ⟨fun known => ⟨known.triple, known.counter⟩,
    fun ⟨triple, counter⟩ => ⟨triple, counter⟩⟩

instance [DecidableEq F] (stored : RtcData F) (final : Firmware F) :
    Decidable (KnownToHub stored final) :=
  decidable_of_iff' _ (knownToHub_iff stored final)

/-- What a wake in station mode falls asleep with is known to the hub. -/
def SleepsKnown (toInt : CMemory.Bytes → BitVec 32)
    (persistent : Persistent F) (input : WakeInput F) : Prop :=
  ∀ device final, setup input.boot persistent = .loops device →
    device.accessPoint = false →
    run (loop toInt) input.passes device = .halted (.deepSleep, final) →
      KnownToHub persistent.rtcMemory final

/-- The pass runs the report block to its end. -/
structure AttemptsReport (device : Firmware F) (input : PassInput F) :
    Prop where
  due : reportingDue input device = true
  connected : device.hubConnected = true
  opened : windowOpen input device = true
  free : device.board.resetDevice = false

instance (device : Firmware F) (input : PassInput F) :
    Decidable (AttemptsReport device input) :=
  decidable_of_iff
    (reportingDue input device = true ∧ device.hubConnected = true ∧
      windowOpen input device = true ∧ device.board.resetDevice = false)
    ⟨fun ⟨due, connected, opened, free⟩ => ⟨due, connected, opened, free⟩,
      fun attempts => ⟨attempts.due, attempts.connected, attempts.opened,
        attempts.free⟩⟩

/-- The readings in the messages the client holds when `DoWork` is called
behind a report. -/
def offeredTriples (device : Firmware F) (input : PassInput F) :
    List (F × F × F) :=
  device.board.hub.waitingToSend.map DeviceStateMessage.triple ++
    if input.report.accepted then
      [(measured input.report.readings device.board.sensors
        (comparedData input device)).triple]
    else []

/-- The condition on a pass that attempts a report.  The device stays awake
on it, or a message confirmed before or in this pass carries the readings
committed here, or these change nothing. -/
def ReportKnown (device : Firmware F) (input : PassInput F) : Prop :=
  AttemptsReport device input →
    (commandQueues input.work = true ∨
      (input.report.accepted = true ∧ input.work.send = .retry)) ∨
    Reported device.board.hub.confirmedOk
      (comparedData input device).triple ∨
    (input.work.send = .completed .ok ∧
      (offeredTriples device input).head? =
        some (comparedData input device).triple) ∨
    ((comparedData input device).triple =
        device.rtcMemory.sanitize.triple ∧
      ¬ CounterReset device.rtcMemory.criticalFlag 0)

instance [DecidableEq F] (device : Firmware F) (input : PassInput F) :
    Decidable (ReportKnown device input) :=
  inferInstanceAs (Decidable (_ → _ ∨ _ ∨ _ ∨ _))

/-- Every report of a wake in station mode meets the condition. -/
def ReportsKnown (toInt : CMemory.Bytes → BitVec 32)
    (persistent : Persistent F) (input : WakeInput F) : Prop :=
  ∀ device, setup input.boot persistent = .loops device →
    device.accessPoint = false →
      EveryStep (loop toInt) ReportKnown input.passes device

section Report

variable {input : PassInput F} {device : Firmware F}

omit [DoubleArith F] in
private theorem reported_take_one (queue : List (DeviceStateMessage F))
    (triple : F × F × F) :
    Reported (queue.take 1) triple ↔
      (queue.map DeviceStateMessage.triple).head? = some triple := by
  cases queue <;> simp [Reported]

omit [DoubleArith F] in
private theorem reported_append
    (first second : List (DeviceStateMessage F)) (triple : F × F × F) :
    Reported (first ++ second) triple ↔
      Reported first triple ∨ Reported second triple := by
  simp only [Reported, List.mem_append, or_and_right, exists_or]

/-- The client and the flag between the report and `DoWork`. -/
private theorem sendReport_board
    (opened : windowOpen input device = true) :
    let sent := (sendReport input
      (commitBaseline (inBranch input device))).board
    sent.messagePending = input.report.accepted ∧
      sent.hub.confirmedOk = device.board.hub.confirmedOk ∧
      sent.hub.waitingToSend.map DeviceStateMessage.triple =
        offeredTriples device input := by
  have board := inBranch_board input device
  have idle : (inBranch input device).board.messagePending = false := by
    simp only [windowOpen, Bool.and_eq_true, Bool.not_eq_true'] at opened
    rw [board.messagePending, opened.1.2, opened.2]
    rfl
  dsimp only
  change (sendData input.report (inBranch input device).board).messagePending
      = _ ∧ (sendData input.report
        (inBranch input device).board).hub.confirmedOk = _ ∧
    (sendData input.report
      (inBranch input device).board).hub.waitingToSend.map _ = _
  rw [sendData_eq, offeredTriples, ← board.hub, ← board.deviceData,
    ← board.sensors]
  cases accepts : input.report.accepted <;>
    simp [idle, reportMessage_triple]

/-- The device stays awake behind a report exactly when a command queues
another, or the report was accepted and its sending failed. -/
theorem pending_afterReport (toInt : CMemory.Bytes → BitVec 32)
    (opened : windowOpen input device = true) :
    (afterReport toInt input device).board.messagePending = true ↔
      commandQueues input.work = true ∨
        (input.report.accepted = true ∧ input.work.send = .retry) := by
  obtain ⟨pending, _, waiting⟩ := sendReport_board opened
  have effect := doWork_effect toInt input.work
    (sendReport input (commitBaseline (inBranch input device))).board
  change (doWork toInt input.work _).messagePending = true ↔ _
  rw [effect.messagePending, pending]
  cases accepts : input.report.accepted
  · simp
  · have holds : (sendReport input (commitBaseline
        (inBranch input device))).board.hub.waitingToSend ≠ [] := by
      intro empty
      rw [empty] at waiting
      simp [offeredTriples, accepts] at waiting
    simp [finishesHead, holds, or_comm]

theorem confirmedOk_afterReport (toInt : CMemory.Bytes → BitVec 32)
    (opened : windowOpen input device = true)
    (triple : F × F × F) :
    Reported (afterReport toInt input device).board.hub.confirmedOk triple ↔
      Reported device.board.hub.confirmedOk triple ∨
        (input.work.send = .completed .ok ∧
          (offeredTriples device input).head? = some triple) := by
  obtain ⟨_, confirmed, waiting⟩ := sendReport_board opened
  have effect := doWork_effect toInt input.work
    (sendReport input (commitBaseline (inBranch input device))).board
  change Reported (doWork toInt input.work _).hub.confirmedOk triple ↔ _
  rw [effect.confirmedOk, confirmed, reported_append, confirmedNow]
  refine or_congr_right ?_
  split
  case isTrue completed =>
    rw [reported_take_one, waiting]
    simp [completed]
  case isFalse other => simp [Reported, other]

/-- The record written behind a report holds the readings before it. -/
theorem rtcMemory_afterReport (toInt : CMemory.Bytes → BitVec 32)
    (device : Firmware F) (writes : input.rtcWriteOk = true) :
    (asleep input (afterReport toInt input device)).rtcMemory.triple =
        (comparedData input device).triple ∧
      (asleep input
        (afterReport toInt input device)).rtcMemory.criticalFlag = 0 := by
  have data := (inBranch_board input device).deviceData
  simp only [asleep, writes, if_true]
  refine ⟨?_, rfl⟩
  rw [← data]
  rfl

end Report

omit [DoubleArith F] in
/-- What the passes of a wake in station mode preserve. -/
structure WakeInvariant (stored : RtcData F) (device : Firmware F) :
    Prop where
  station : device.accessPoint = false
  memory : device.rtcMemory = stored
  counting : device.criticalFlag = 0 ∨ device.criticalFlag = 1
  offline : device.hubConnected = false → device.runFlag = false

section Step

variable {toInt : CMemory.Bytes → BitVec 32}
variable {input : PassInput F} {device : Firmware F} {stored : RtcData F}

theorem WakeInvariant.returned {next : Firmware F}
    (invariant : WakeInvariant stored device)
    (returned : Returned toInt input device next) :
    WakeInvariant stored next := by
  have kept := returned.mode
  have station := kept.1.trans invariant.station
  have memory := kept.2.2.trans invariant.memory
  have flag := inBranch_criticalFlag input device
  cases returned with
  | quiet skipped awake ends =>
      subst ends
      rw [readRtc_eq] at *
      exact ⟨station, memory, invariant.counting, invariant.offline⟩
  | offline due unconnected ends =>
      subst ends
      refine ⟨station, memory, ?_, fun _ => rfl⟩
      change (inBranch input device).criticalFlag = 0 ∨
        (inBranch input device).criticalFlag = 1
      rw [flag]
      exact invariant.counting
  | returns due connected opened held ends =>
      subst ends
      exact ⟨station, memory, Or.inl rfl, fun _ => rfl⟩
  | sends due connected opened free pending ends =>
      subst ends
      exact ⟨station, memory, Or.inl rfl, fun _ => rfl⟩
  | waits due notNow connected closed ends =>
      subst ends
      refine ⟨station, memory, ?_, fun unconnected => ?_⟩
      · change (inBranch input device).criticalFlag = 0 ∨
          (inBranch input device).criticalFlag = 1
        rw [flag]
        exact invariant.counting
      · rw [← kept.2.1, unconnected] at connected
        cases connected

omit [DoubleArith F] in
private theorem not_counterReset_counted {before added : BitVec 32}
    (counting : added = 0 ∨ added = 1) :
    ¬ CounterReset before (before + added) := by
  rintro ⟨zero, positive, more⟩
  rcases counting with rfl | rfl
  · exact positive (by simpa using zero)
  · exact more zero

/-- A device that sleeps without a report keeps the record it woke up
with. -/
private theorem knownToHub_of_sanitized {final : Firmware F}
    (invariant : WakeInvariant stored device)
    (record : final.rtcMemory =
      { stored.sanitize with
        criticalFlag := stored.criticalFlag + device.criticalFlag }) :
    KnownToHub stored final := by
  refine ⟨Or.inl ?_, fun reset => ?_⟩
  · rw [record]
    rfl
  · rw [record] at reset
    exact absurd reset (not_counterReset_counted invariant.counting)

/-- A report that leaves nothing pending is followed by deep sleep. -/
theorem loop_of_attempt (station : device.accessPoint = false)
    (attempts : AttemptsReport device input)
    (idle : (afterReport toInt input device).board.messagePending = false) :
    loop toInt input device =
      .halted (.deepSleep, asleep input (afterReport toInt input device)) := by
  have mode : (afterReport toInt input device).accessPoint = false := by
    rw [← station, ← inBranch_accessPoint input device]
    rfl
  cases loop_station toInt input station with
  | quiet skipped ends =>
      rw [attempts.due] at skipped
      cases skipped
  | resets due now ends =>
      rw [resetsNow_of_opened input attempts.opened attempts.free] at now
      cases now
  | offline due unconnected ends =>
      rw [attempts.connected] at unconnected
      cases unconnected
  | returns due notNow connected opened held ends =>
      rw [attempts.free] at held
      cases held
  | sends due connected opened free ends =>
      rw [ends, sleepBlock_eq input mode, idle]
      rfl
  | waits due notNow connected closed ends =>
      rw [attempts.opened] at closed
      cases closed

/-- Behind a report the record in RTC memory is the reported one. -/
theorem knownToHub_asleep_afterReport
    (invariant : WakeInvariant stored device)
    (writes : input.rtcWriteOk = true)
    (attempts : AttemptsReport device input)
    (idle : (afterReport toInt input device).board.messagePending = false) :
    KnownToHub stored (asleep input (afterReport toInt input device)) ↔
      ReportKnown device input := by
  have written := rtcMemory_afterReport toInt device writes
  have awake := pending_afterReport toInt attempts.opened
  have confirmed := confirmedOk_afterReport toInt attempts.opened
    (comparedData input device).triple
  have notAwake : ¬ (commandQueues input.work = true ∨
      (input.report.accepted = true ∧ input.work.send = .retry)) := by
    rw [← awake, idle]
    simp
  rw [knownToHub_iff, written.1, written.2]
  change (_ ∨ Reported (afterReport toInt input device).board.hub.confirmedOk
    _) ∧ (_ → Reported (afterReport toInt input device).board.hub.confirmedOk
      _) ↔ _
  rw [confirmed, ReportKnown, invariant.memory]
  constructor
  · rintro ⟨triple, counter⟩ _
    by_cases reset : CounterReset stored.criticalFlag 0
    · exact Or.inr (or_assoc.mp (Or.inl (counter reset)))
    · rcases triple with unchanged | told
      · exact Or.inr (Or.inr (Or.inr ⟨unchanged, reset⟩))
      · exact Or.inr (or_assoc.mp (Or.inl told))
  · intro condition
    rcases condition attempts with
      staysAwake | earlier | now | ⟨unchanged, noReset⟩
    · exact absurd staysAwake notAwake
    · exact ⟨Or.inr (Or.inl earlier), fun _ => Or.inl earlier⟩
    · exact ⟨Or.inr (Or.inr now), fun _ => Or.inr now⟩
    · exact ⟨Or.inl unchanged, fun reset => absurd reset noReset⟩

/-- A pass that falls asleep does so with a known record exactly when it
meets the condition. -/
theorem knownToHub_iff_of_fellAsleep {final : Firmware F}
    (invariant : WakeInvariant stored device)
    (reads : input.rtcReadOk = true) (writes : input.rtcWriteOk = true)
    (fell : FellAsleep toInt input device final) :
    KnownToHub stored final ↔ ReportKnown device input := by
  have board := inBranch_board input device
  cases fell with
  | quiet skipped committed idle ends =>
      subst ends
      refine iff_of_true (knownToHub_of_sanitized invariant ?_) ?_
      · rw [rtcMemory_asleep_readRtc invariant.station reads writes
          committed idle, invariant.memory]
      · intro attempts
        rw [attempts.due] at skipped
        cases skipped
  | offline due unconnected idle ends =>
      subst ends
      refine iff_of_true (knownToHub_of_sanitized invariant ?_) ?_
      · rw [board.messagePending, Bool.or_eq_false_iff] at idle
        have sampling := samples_of_idle invariant.station reads
          (invariant.offline unconnected) idle.1
        have copied := inBranch_rtcData input device
        rw [comparedRecord, sampling, if_pos rfl, invariant.memory] at copied
        have flag := inBranch_criticalFlag input device
        simp only [asleep, writes, if_true, afterOffline, copied, flag]
        rfl
      · intro attempts
        rw [attempts.connected] at unconnected
        cases unconnected
  | sends due connected opened free idle ends =>
      subst ends
      exact knownToHub_asleep_afterReport invariant writes
        ⟨due, connected, opened, free⟩ idle

theorem reportKnown_of_awake
    (invariant : WakeInvariant stored device)
    (awake : ∀ final, loop toInt input device ≠ .halted (.deepSleep, final)) :
    ReportKnown device input := by
  intro attempts
  refine Or.inl ?_
  rw [← pending_afterReport toInt attempts.opened]
  by_contra idle
  exact absurd (loop_of_attempt invariant.station attempts
    (Bool.eq_false_of_not_eq_true idle)) (awake _)

end Step

private theorem sleepsKnown_iff (toInt : CMemory.Bytes → BitVec 32)
    {persistent : Persistent F} {input : WakeInput F}
    (works : RtcWorks input) :
    SleepsKnown toInt persistent input ↔
      ReportsKnown toInt persistent input := by
  have wakes : ∀ device, setup input.boot persistent = .loops device →
      device.accessPoint = false →
      ((∀ result, run (loop toInt) input.passes device = .halted result →
          result.1 = .deepSleep →
            KnownToHub persistent.rtcMemory result.2) ↔
        EveryStep (loop toInt) ReportKnown input.passes device) := by
    intro device loops station
    have booted := setup_booted loops
    rw [← everyStep_halted_iff]
    refine everyStep_congr_of_invariant
      (WakeInvariant persistent.rtcMemory)
      ⟨station, booted.rtcMemory, Or.inr booted.criticalFlag,
        fun _ => booted.runFlag⟩ ?_ ?_
    · intro state pass member invariant
      obtain ⟨reads, writes⟩ := works pass member
      by_cases sleeps : ∃ final,
          loop toInt pass state = .halted (.deepSleep, final)
      · obtain ⟨final, stepped⟩ := sleeps
        have fell := fellAsleep_of_loop invariant.station stepped
        rw [← knownToHub_iff_of_fellAsleep invariant reads writes fell,
          stepped]
        constructor
        · intro known
          exact known _ rfl rfl
        · rintro known result ⟨⟩ _
          exact known
      · have awake : ∀ final,
            loop toInt pass state ≠ .halted (.deepSleep, final) :=
          fun final stepped => sleeps ⟨final, stepped⟩
        refine iff_of_true ?_ (reportKnown_of_awake invariant awake)
        rintro ⟨ended, final⟩ stepped rfl
        exact absurd stepped (awake final)
    · intro state pass _ next invariant _ stepped
      exact invariant.returned (returned_of_loop invariant.station stepped)
  constructor
  · intro sleeps device loops station
    refine (wakes device loops station).mp ?_
    rintro ⟨ended, final⟩ reached rfl
    exact sleeps device final loops station reached
  · intro reports device final loops station reached
    exact (wakes device loops station).mpr (reports device loops station)
      _ reached rfl

/-- Along a run of wakes whose accesses to RTC memory succeed, every record
a device falls asleep with is known to the hub exactly when every report
meets the condition. -/
theorem everyBaseline_known_iff (toInt : CMemory.Bytes → BitVec 32)
    {wakes : List (WakeInput F)} (works : ∀ input ∈ wakes, RtcWorks input)
    (persistent : Persistent F) :
    EveryStep (cycle toInt) (SleepsKnown toInt) wakes persistent ↔
      EveryStep (cycle toInt) (ReportsKnown toInt) wakes persistent :=
  everyStep_congr_of_invariant (fun _ => True) trivial
    (fun _ input member _ => sleepsKnown_iff toInt (works input member))
    (fun _ _ _ _ _ _ _ => trivial)

/-- A wake with one pass, in which the first read gives 6 cm. -/
def singleWake (again : SensorReadings ℚ) : WakeInput ℚ where
  boot := sampleBoot
  passes :=
    [samplePass (sampleReadings 70 40 60) again 25000 (.completed .ok)]

private theorem singleWake_works (again : SensorReadings ℚ) :
    RtcWorks (singleWake again) := by
  intro pass member
  rw [List.mem_singleton.mp member]
  exact ⟨rfl, rfl⟩

private theorem singleWake_reportKnown :
    (setup sampleBoot (samplePersistent sampleRecord)).LoopsWith
      fun device => EveryStep (loop fun _ => 0) ReportKnown
        (singleWake (sampleReadings 70 40 60)).passes device := by
  decide +kernel

theorem everyBaseline_known_iff_steady :
    EveryStep (cycle fun _ => 0) (SleepsKnown fun _ => 0)
      [singleWake (sampleReadings 70 40 60)]
      (samplePersistent sampleRecord) := by
  refine (everyBaseline_known_iff (fun _ => 0) (fun input member => ?_)
    _).mpr ?_
  · rw [List.mem_singleton.mp member]
    exact singleWake_works _
  · rw [everyStep_singleton]
    intro device loops _
    obtain ⟨booted, bootLoops, known⟩ := singleWake_reportKnown.loops
    have same := loops.symm.trans bootLoops
    cases same
    exact known

private theorem singleWake_unknown :
    (setup sampleBoot (samplePersistent sampleRecord)).LoopsWith
      fun device => device.accessPoint = false ∧
        SleptWith (fun final => ¬ KnownToHub sampleRecord final)
          (run (loop fun _ => 0)
            (singleWake (sampleReadings 70 40 100)).passes device) := by
  decide +kernel

/-- The read for the report gives 10 cm again: the hub hears of 10 cm, the
record says 6 cm. -/
theorem not_everyBaseline_known_changing :
    RtcWorks (singleWake (sampleReadings 70 40 100)) ∧
    ¬ EveryStep (cycle fun _ => 0) (SleepsKnown fun _ => 0)
      [singleWake (sampleReadings 70 40 100)]
      (samplePersistent sampleRecord) := by
  refine ⟨singleWake_works _, ?_⟩
  rw [everyStep_singleton]
  intro known
  obtain ⟨device, loops, station, slept⟩ := singleWake_unknown.loops
  obtain ⟨final, reached, unknown⟩ := slept.result
  exact unknown (known device final loops station reached)

end FunnelDispenser.Reporting
