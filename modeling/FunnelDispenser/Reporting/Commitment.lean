import FunnelDispenser.Reporting.Starvation

/-!
# Committed reports

`Run_Flag` keeps the device awake for a report.  The guard of the reporting
branch is tested again in every pass, against a record that was not
range-checked and against readings a cloud command may have changed.
-/

namespace FunnelDispenser.Reporting

open Device StepRuns

variable {F : Type} [DoubleArith F]

instance (toInt : CMemory.Bytes → BitVec 32) (device : Firmware F)
    (input : PassInput F) : Decidable (EntersBranch toInt device input) :=
  inferInstanceAs (Decidable (_ < _))

/-- The pass enters the reporting branch.  There it services the hub, or it
gives the report up and leaves the device idle, or the chip resets or goes
to sleep. -/
def TakesUp (toInt : CMemory.Bytes → BitVec 32) (device : Firmware F)
    (input : PassInput F) : Prop :=
  EntersBranch toInt device input ∧
    (CallsDoWork toInt device input ∨
      match loop toInt input device with
      | .again next =>
          next.runFlag = false ∧ next.board.messagePending = false
      | .halted _ => True)

/-- Whatever the next pass meets, it takes up a report that this pass leaves
committed. -/
def KeepsCommitment (toInt : CMemory.Bytes → BitVec 32) (device : Firmware F)
    (input : PassInput F) : Prop :=
  match loop toInt input device with
  | .again next => next.runFlag = true → ∀ later, TakesUp toInt next later
  | .halted _ => True

/-- The readings behind the cloud command of this pass. -/
def dataBehind (input : PassInput F) (device : Firmware F) : DataDevice F :=
  commandData input.work device.board.sensors (comparedData input device)

/-- The condition on a pass that leaves a report waiting: behind its command
the readings still exceed the record in RTC memory, unchecked as it is, and
the record of this pass. -/
def StaysExceeded (device : Firmware F) (input : PassInput F) : Prop :=
  ServicesHub device input → windowOpen input device = false →
    exceedsBaseline device.rtcMemory (dataBehind input device) = true ∧
      exceedsBaseline (comparedRecord input device)
        (dataBehind input device) = true

instance (device : Firmware F) (input : PassInput F) :
    Decidable (StaysExceeded device input) :=
  inferInstanceAs (Decidable (_ → _ → _ ∧ _))

/-- Whatever record the next pass compares with, the guard holds. -/
def Exceeded (device : Firmware F) : Prop :=
  exceedsBaseline device.rtcMemory device.board.deviceData = true ∧
    exceedsBaseline device.rtcData device.board.deviceData = true

section Pass

variable {toInt : CMemory.Bytes → BitVec 32}
variable {input : PassInput F} {device : Firmware F}

/-- A pass with a report committed compares without sampling. -/
theorem reportingDue_of_committed (station : device.accessPoint = false)
    (committed : device.runFlag = true) :
    reportingDue input device =
      exceedsBaseline
        (if input.rtcReadOk then device.rtcMemory else device.rtcData)
        device.board.deviceData := by
  have idle : samples input device = false := by
    simp [samples, committed]
  simp [reportingDue, comparedRecord, comparedData, idle, station]

theorem takesUp_iff (station : device.accessPoint = false)
    (connected : device.hubConnected = true) :
    TakesUp toInt device input ↔ reportingDue input device = true := by
  rw [TakesUp, entersBranch_iff station]
  refine and_iff_left_of_imp fun due => ?_
  rw [callsDoWork_iff toInt input station connected]
  cases loop_station toInt input station with
  | quiet skipped ends =>
      rw [due] at skipped
      cases skipped
  | resets _ now ends =>
      right
      simp only [ends]
  | offline _ unconnected ends =>
      rw [connected] at unconnected
      cases unconnected
  | returns _ notNow wired opened held ends =>
      right
      simp only [ends]
      refine ⟨rfl, ?_⟩
      change (inBranch input device).board.messagePending = false
      rw [(inBranch_board input device).messagePending]
      simp only [windowOpen, Bool.and_eq_true, Bool.not_eq_true'] at opened
      rw [opened.1.2, opened.2]
      rfl
  | sends _ wired opened free ends =>
      exact Or.inl ⟨due, resetsNow_of_opened input opened free,
        fun _ => free⟩
  | waits _ notNow wired closed ends =>
      refine Or.inl ⟨due, notNow, fun opened => ?_⟩
      rw [closed] at opened
      cases opened

/-- The next pass surely takes a committed report up exactly when the guard
holds for both records. -/
theorem takesUp_forall_iff (station : device.accessPoint = false)
    (connected : device.hubConnected = true)
    (committed : device.runFlag = true) (sample : PassInput F) :
    (∀ later, TakesUp toInt device later) ↔ Exceeded device := by
  simp only [takesUp_iff station connected,
    reportingDue_of_committed station committed]
  constructor
  · intro always
    exact ⟨by simpa using always { sample with rtcReadOk := true },
      by simpa using always { sample with rtcReadOk := false }⟩
  · rintro ⟨stored, copied⟩ later
    cases later.rtcReadOk
    · exact copied
    · exact stored

theorem exceeded_serviceHub :
    Exceeded (serviceHub toInt input (inBranch input device)) ↔
      exceedsBaseline device.rtcMemory (dataBehind input device) = true ∧
        exceedsBaseline (comparedRecord input device)
          (dataBehind input device) = true := by
  have data : (serviceHub toInt input
      (inBranch input device)).board.deviceData =
        dataBehind input device := by
    have board := inBranch_board input device
    have commanded := (doWork_effect toInt input.work
      (inBranch input device).board).deviceData
    rw [board.sensors, board.deviceData] at commanded
    exact commanded
  have memory := inBranch_rtcMemory input device
  have record := inBranch_rtcData input device
  rw [Exceeded, data]
  change exceedsBaseline (inBranch input device).rtcMemory _ = true ∧
    exceedsBaseline (inBranch input device).rtcData _ = true ↔ _
  rw [memory, record]

theorem loop_of_waiting (toInt : CMemory.Bytes → BitVec 32)
    (station : device.accessPoint = false)
    (connected : device.hubConnected = true)
    (services : ServicesHub device input)
    (closed : windowOpen input device = false) :
    loop toInt input device =
      .again (serviceHub toInt input (inBranch input device)) := by
  cases loop_station toInt input station with
  | quiet skipped ends =>
      rw [services.due] at skipped
      cases skipped
  | resets due now ends =>
      rw [services.notReset] at now
      cases now
  | offline due unconnected ends =>
      rw [connected] at unconnected
      cases unconnected
  | returns due notNow wired opened held ends =>
      rw [closed] at opened
      cases opened
  | sends due wired opened free ends =>
      rw [closed] at opened
      cases opened
  | waits due notNow wired _ ends => exact ends

/-- With the guard exceeded for both records, only a waiting pass leaves a
report committed. -/
theorem committed_of_returned {next : Firmware F}
    (station : device.accessPoint = false)
    (exceeded : device.runFlag = true → Exceeded device)
    (returned : Returned toInt input device next)
    (committed : next.runFlag = true) :
    device.hubConnected = false ∨
      (ServicesHub device input ∧ windowOpen input device = false) := by
  cases returned with
  | quiet skipped awake ends =>
      subst ends
      rw [readRtc_eq] at committed
      rw [reportingDue_of_committed station committed] at skipped
      split at skipped
      · rw [(exceeded committed).1] at skipped
        cases skipped
      · rw [(exceeded committed).2] at skipped
        cases skipped
  | offline due unconnected ends => exact Or.inl unconnected
  | returns due connected opened held ends =>
      subst ends
      cases committed
  | sends due connected opened free pending ends =>
      subst ends
      cases committed
  | waits due notNow connected closed ends =>
      refine Or.inr ⟨⟨due, notNow, fun opened => ?_⟩, closed⟩
      rw [closed] at opened
      cases opened

end Pass

/-- In a run that starts with no report committed, every committed report is
taken up again exactly when every waiting pass keeps the guard exceeded. -/
theorem everyCommitment_kept_iff (toInt : CMemory.Bytes → BitVec 32)
    {device : Firmware F} (station : device.accessPoint = false)
    (connected : device.hubConnected = true)
    (idle : device.runFlag = false) (passes : List (PassInput F)) :
    EveryStep (loop toInt) (KeepsCommitment toInt) passes device ↔
      EveryStep (loop toInt) StaysExceeded passes device := by
  refine everyStep_congr_of_invariant
    (fun state : Firmware F =>
      state.accessPoint = false ∧ state.hubConnected = true ∧
        (state.runFlag = true → Exceeded state))
    ⟨station, connected, fun committed => ?_⟩ ?_ ?_
  · rw [idle] at committed
    cases committed
  · intro state input _ ⟨mode, wired, exceeded⟩
    by_cases waiting :
        ServicesHub state input ∧ windowOpen input state = false
    · have stepped := loop_of_waiting toInt mode wired
        waiting.1 waiting.2
      have nextMode := (returned_of_loop mode stepped).mode
      rw [KeepsCommitment, stepped]
      change (true = true → _) ↔ _
      rw [takesUp_forall_iff (nextMode.1.trans mode)
        (nextMode.2.1.trans wired) rfl input, exceeded_serviceHub]
      exact ⟨fun keeps _ _ => keeps rfl,
        fun stays _ => stays waiting.1 waiting.2⟩
    · refine iff_of_true ?_
        fun services closed => absurd ⟨services, closed⟩ waiting
      rw [KeepsCommitment]
      cases stepped : loop toInt input state with
      | again next =>
          intro committed
          rcases committed_of_returned mode exceeded
            (returned_of_loop mode stepped) committed with
            unconnected | waits
          · rw [wired] at unconnected
            cases unconnected
          · exact absurd waits waiting
      | halted result => trivial
  · intro state input _ next ⟨mode, wired, _⟩ keeps stepped
    have nextMode := (returned_of_loop mode stepped).mode
    have station := nextMode.1.trans mode
    have connected := nextMode.2.1.trans wired
    rw [KeepsCommitment, stepped] at keeps
    exact ⟨station, connected, fun committed =>
      (takesUp_forall_iff station connected committed input).mp
        (keeps committed)⟩

def commandMessage (body : CMemory.Bytes) : CloudMessage :=
  ⟨some body, none, 0⟩

/-- A pass of the waiting time whose `DoWork` delivers `DisplayDistance`; the
sensor then reads this range. -/
def displayDistancePass (range : UInt8) : PassInput ℚ :=
  { samplePass (sampleReadings 70 40 60) (sampleReadings 70 40 range) 12000
      .retry with
    work := ⟨.retry, [], some (commandMessage displayDistanceBody),
      ⟨sampleReport (sampleReadings 70 40 range), .complete⟩⟩ }

private theorem displayDistance_staysExceeded :
    (setup sampleBoot (samplePersistent sampleRecord)).LoopsWith
      fun device => device.accessPoint = false ∧
        device.hubConnected = true ∧ device.runFlag = false ∧
        EveryStep (loop fun _ => 0) StaysExceeded
          [displayDistancePass 50] device := by
  decide +kernel

theorem everyCommitment_kept_iff_displayDistance :
    ∃ device : Firmware ℚ,
      setup sampleBoot (samplePersistent sampleRecord) = .loops device ∧
      EveryStep (loop fun _ => 0) (KeepsCommitment fun _ => 0)
        [displayDistancePass 50] device := by
  obtain ⟨device, loops, station, connected, idle, stays⟩ :=
    displayDistance_staysExceeded.loops
  exact ⟨device, loops,
    (everyCommitment_kept_iff (fun _ => 0) station connected idle
      [displayDistancePass 50]).mpr stays⟩

/-- The command reads the stored 10 cm again, and the next pass does not
enter the branch any more. -/
theorem not_everyCommitment_kept_returning :
    (setup sampleBoot (samplePersistent sampleRecord)).LoopsWith
      fun device => device.accessPoint = false ∧
        device.hubConnected = true ∧
        ¬ EveryStep (loop fun _ => 0)
          (fun state input =>
            state.runFlag = true → EntersBranch (fun _ => 0) state input)
          [displayDistancePass 100, displayDistancePass 100] device := by
  decide +kernel

end FunnelDispenser.Reporting
