import FunnelDispenser.Reporting.Starvation

/-!
# The flag `messagePending` and the messages in flight

One flag marks a message in flight and keeps the device from sending while
the switch is pressed.  The queue behind it may hold any number of messages.
-/

namespace FunnelDispenser.Reporting

open Device StepRuns

variable {F : Type} [DoubleArith F]

omit [DoubleArith F] in
def MarkerExact (device : Firmware F) : Prop :=
  device.board.messagePending = true ↔ HoldsMessage device

omit [DoubleArith F] in
instance (device : Firmware F) : Decidable (MarkerExact device) :=
  inferInstanceAs (Decidable (_ ↔ _))

/-- A pass, and whether the switch is released at the boundary behind it. -/
structure ObservedPass (F : Type) where
  pass : PassInput F
  released : Bool

def observedLoop (toInt : CMemory.Bytes → BitVec 32)
    (observed : ObservedPass F) (device : Firmware F) :
    Outcome (Firmware F) (PassEnd × Firmware F) :=
  loop toInt observed.pass device

omit [DoubleArith F] in
/-- The flag is exact at a boundary with the switch released and no reset
pending, and a device that goes to sleep holds no message. -/
def BoundaryHolds (released : Bool) :
    Outcome (Firmware F) (PassEnd × Firmware F) → Prop
  | .again next =>
      released = true → next.board.resetDevice = false → MarkerExact next
  | .halted (.deepSleep, final) => ¬ HoldsMessage final
  | .halted (.reset, _) => True

omit [DoubleArith F] in
instance (released : Bool)
    (outcome : Outcome (Firmware F) (PassEnd × Firmware F)) :
    Decidable (BoundaryHolds released outcome) :=
  match outcome with
  | .again next =>
      inferInstanceAs (Decidable
        (released = true → next.board.resetDevice = false →
          MarkerExact next))
  | .halted (.deepSleep, final) =>
      inferInstanceAs (Decidable (¬ HoldsMessage final))
  | .halted (.reset, _) => isTrue trivial

def markedAfterPoll (input : PassInput F) (device : Firmware F) : Bool :=
  device.board.messagePending ||
    (reportingDue input device && input.switchPoll.pressed)

/-- The condition on a pass.  A press sampled while the client holds nothing
is held down until five samples complete the clear, or is answered by a
command; and of several messages the client finishes one only in a pass in
which a command queues another. -/
structure KeepsMarker (device : Firmware F) (observed : ObservedPass F) :
    Prop where
  press : observed.released = true → ¬ HoldsMessage device →
    markedAfterPoll observed.pass device = true →
      device.board.resetDevice = true ∨
        (reportingDue observed.pass device = true ∧
          (resetHeld observed.pass device = true ∨
            (device.hubConnected = true ∧
              (commandQueues observed.pass.work = true ∨
                commandClears observed.pass.work = true))))
  completion : ServicesHub device observed.pass →
    2 ≤ device.board.hub.waitingToSend.length →
      observed.pass.work.send ≠ .retry →
        commandQueues observed.pass.work = true

instance (device : Firmware F) (observed : ObservedPass F) :
    Decidable (KeepsMarker device observed) :=
  decidable_of_iff
    ((observed.released = true → ¬ HoldsMessage device →
      markedAfterPoll observed.pass device = true →
        device.board.resetDevice = true ∨
          (reportingDue observed.pass device = true ∧
            (resetHeld observed.pass device = true ∨
              (device.hubConnected = true ∧
                (commandQueues observed.pass.work = true ∨
                  commandClears observed.pass.work = true))))) ∧
      (ServicesHub device observed.pass →
        2 ≤ device.board.hub.waitingToSend.length →
          observed.pass.work.send ≠ .retry →
            commandQueues observed.pass.work = true))
    ⟨fun ⟨press, completion⟩ => ⟨press, completion⟩,
      fun keeps => ⟨keeps.press, keeps.completion⟩⟩

omit [DoubleArith F] in
/-- Held messages are marked. -/
def Marks (board : Board F) : Prop :=
  board.hub.waitingToSend ≠ [] → board.messagePending = true

omit [DoubleArith F] in
/-- The flag is set by a press only. -/
def Stray (board : Board F) : Prop :=
  board.messagePending = true ∧ board.hub.waitingToSend = []

omit [DoubleArith F] in
theorem holdsMessage_iff (device : Firmware F) :
    HoldsMessage device ↔ device.board.hub.waitingToSend ≠ [] := by
  simp [HoldsMessage]

omit [DoubleArith F] in
theorem markerExact_iff (device : Firmware F) :
    MarkerExact device ↔ Marks device.board ∧ ¬ Stray device.board := by
  rw [MarkerExact, holdsMessage_iff, Marks, Stray]
  tauto

/-- `DoWork` keeps held messages marked, and only a press that was there
before and is not answered marks nothing behind it. -/
theorem doWork_marks (toInt : CMemory.Bytes → BitVec 32)
    (input : DoWorkInput F) {before : Board F} (marks : Marks before)
    (completion : 2 ≤ before.hub.waitingToSend.length →
      input.send ≠ .retry → commandQueues input = true) :
    Marks (doWork toInt input before) ∧
      (Stray (doWork toInt input before) →
        Stray before ∧ commandQueues input = false) := by
  have effect := doWork_effect toInt input before
  obtain ⟨added, count, queued, _⟩ := effect.queued
  rw [Marks, Stray, queued, effect.messagePending]
  cases queues : commandQueues input
  · -- the command adds nothing
    have none : added = [] := by
      rw [queues] at count
      exact List.length_eq_zero_iff.mp count
    rw [none, List.append_nil, Bool.or_false]
    cases waiting : before.hub.waitingToSend with
    | nil =>
        simp [finishesHead, remaining, Stray, waiting]
    | cons head rest =>
        have pending : before.messagePending = true := marks (by
          simp [waiting])
        cases sent : input.send with
        | retry => simp [finishesHead, remaining, sent, pending]
        | completed result =>
            have last : rest = [] := by
              by_contra more
              have two : 2 ≤ before.hub.waitingToSend.length := by
                rw [waiting, List.length_cons]
                have := List.length_pos_iff.mpr more
                omega
              have answered := completion two (by simp [sent])
              rw [queues] at answered
              cases answered
            simp [finishesHead, remaining, sent, last]
  · have one : added ≠ [] := by
      rw [queues] at count
      exact List.ne_nil_of_length_pos (by rw [count]; decide)
    simp [one]

/-- Queueing a report on an unmarked board marks exactly the report. -/
theorem sendData_marks (input : ReportInput F) {before : Board F}
    (idle : before.messagePending = false)
    (empty : before.hub.waitingToSend = []) :
    Marks (sendData input before) ∧ ¬ Stray (sendData input before) ∧
      (sendData input before).hub.waitingToSend.length ≤ 1 := by
  rw [sendData_eq]
  cases accepts : input.accepted <;> simp [Marks, Stray, idle, empty]

section Pass

variable {input : PassInput F} {device : Firmware F}

omit [DoubleArith F] in
/-- At the report block a device with marked messages holds none. -/
private theorem empty_of_opened (marks : Marks device.board)
    (opened : windowOpen input device = true) :
    device.board.messagePending = false ∧
      device.board.hub.waitingToSend = [] ∧
      input.switchPoll.pressed = false := by
  simp only [windowOpen, Bool.and_eq_true, Bool.not_eq_true'] at opened
  refine ⟨opened.1.2, ?_, opened.2⟩
  by_contra holds
  rw [marks holds] at opened
  cases opened.1.2

theorem afterReport_marks (toInt : CMemory.Bytes → BitVec 32)
    (marks : Marks device.board)
    (opened : windowOpen input device = true) :
    Marks (afterReport toInt input device).board ∧
      ¬ Stray (afterReport toInt input device).board := by
  obtain ⟨idle, empty, released⟩ := empty_of_opened marks opened
  have board := inBranch_board input device
  have branchIdle : (inBranch input device).board.messagePending = false := by
    rw [board.messagePending, idle, released]
    rfl
  have branchEmpty :
      (inBranch input device).board.hub.waitingToSend = [] := by
    rw [board.hub, empty]
  obtain ⟨queued, exact, short⟩ :=
    sendData_marks input.report branchIdle branchEmpty
  have served := doWork_marks toInt input.work queued
    (fun two => absurd two (by omega))
  exact ⟨served.1, fun stray => exact (served.2 stray).1⟩

/-- Behind `DoWork` without a report the flag is exact, a press that nothing
answers apart. -/
theorem waiting_marks (toInt : CMemory.Bytes → BitVec 32)
    (marks : Marks device.board)
    (completion : 2 ≤ device.board.hub.waitingToSend.length →
      input.work.send ≠ .retry → commandQueues input.work = true) :
    Marks (serviceHub toInt input (inBranch input device)).board ∧
      (Stray (serviceHub toInt input (inBranch input device)).board →
        ¬ HoldsMessage device ∧
          (device.board.messagePending || input.switchPoll.pressed) = true ∧
          commandQueues input.work = false) := by
  have board := inBranch_board input device
  have branchMarks : Marks (inBranch input device).board := by
    intro holds
    rw [board.hub] at holds
    rw [board.messagePending, marks holds, Bool.true_or]
  rw [← board.hub] at completion
  have served := doWork_marks toInt input.work branchMarks completion
  refine ⟨served.1, fun stray => ?_⟩
  obtain ⟨⟨pending, empty⟩, unanswered⟩ := served.2 stray
  rw [board.messagePending] at pending
  rw [board.hub] at empty
  exact ⟨by simp [holdsMessage_iff, empty], pending, unanswered⟩

omit [DoubleArith F] in
theorem resetHeld_of_resetDevice (pending : device.board.resetDevice = true) :
    resetHeld input device = true := by
  rw [resetHeld, pending, Bool.true_or]

end Pass

section Step

variable {toInt : CMemory.Bytes → BitVec 32}
variable {observed : ObservedPass F} {device : Firmware F}

/-- A pass without a report that stays awake for the pending flag. -/
private theorem quiet_marks
    (marks : Marks device.board) (keeps : KeepsMarker device observed)
    (skipped : reportingDue observed.pass device = false) :
    Marks (readRtc observed.pass device).board ∧
      (observed.released = true →
        (readRtc observed.pass device).board.resetDevice = false →
        Marks (readRtc observed.pass device).board ∧
          ¬ Stray (readRtc observed.pass device).board) := by
  obtain ⟨hub, pending, _, reset, _⟩ :=
    readRtc_board_frame observed.pass device
  rw [Marks, Stray, hub, pending, reset]
  refine ⟨marks, fun released free => ⟨marks, ?_⟩⟩
  rintro ⟨marked, empty⟩
  have answered := keeps.press released
    (by simp [holdsMessage_iff, empty])
    (by simp [markedAfterPoll, marked])
  rw [free, skipped] at answered
  simp at answered

/-- A due report without a hub connection leaves the queue alone; the poll
may set the flag. -/
private theorem offline_marks
    (marks : Marks device.board) (keeps : KeepsMarker device observed)
    (due : reportingDue observed.pass device = true)
    (unconnected : device.hubConnected = false) :
    Marks (inBranch observed.pass device).board ∧
      (observed.released = true →
        (inBranch observed.pass device).board.resetDevice = false →
        Marks (inBranch observed.pass device).board ∧
          ¬ Stray (inBranch observed.pass device).board) := by
  have board := inBranch_board observed.pass device
  rw [Marks, Stray, board.hub, board.messagePending, board.resetDevice]
  have marksNow : device.board.hub.waitingToSend ≠ [] →
      (device.board.messagePending ||
        observed.pass.switchPoll.pressed) = true := fun holds => by
    rw [marks holds, Bool.true_or]
  refine ⟨marksNow, fun released free => ⟨marksNow, ?_⟩⟩
  rintro ⟨marked, empty⟩
  rcases keeps.press released (by simp [holdsMessage_iff, empty])
    (by simpa [markedAfterPoll, due] using marked) with
    held | ⟨_, held | ⟨connected, _⟩⟩
  · rw [resetHeld_of_resetDevice held] at free
    cases free
  · rw [held] at free
    cases free
  · rw [unconnected] at connected
    cases connected

/-- While the send window is closed `DoWork` serves the queue. -/
private theorem service_marks
    (marks : Marks device.board) (keeps : KeepsMarker device observed)
    (due : reportingDue observed.pass device = true)
    (services : ServicesHub device observed.pass) :
    Marks (serviceHub toInt observed.pass
        (inBranch observed.pass device)).board ∧
      (observed.released = true →
        (serviceHub toInt observed.pass
            (inBranch observed.pass device)).board.resetDevice = false →
        Marks (serviceHub toInt observed.pass
            (inBranch observed.pass device)).board ∧
          ¬ Stray (serviceHub toInt observed.pass
            (inBranch observed.pass device)).board) := by
  have board := inBranch_board observed.pass device
  obtain ⟨marksNow, onlyPress⟩ := waiting_marks toInt marks
    (keeps.completion services)
  refine ⟨marksNow, fun released free => ⟨marksNow, fun stray => ?_⟩⟩
  obtain ⟨empty, marked, unanswered⟩ := onlyPress stray
  have effect := doWork_effect toInt observed.pass.work
    (inBranch observed.pass device).board
  have lasting := effect.resetDevice
  rw [board.resetDevice] at lasting
  have resets : (resetHeld observed.pass device ||
      commandClears observed.pass.work) = true → False := by
    intro held
    have after := lasting held
    change (doWork toInt observed.pass.work _).resetDevice = false at free
    rw [after] at free
    cases free
  rcases keeps.press released empty
    (by simpa [markedAfterPoll, due] using marked) with
    held | ⟨_, held | ⟨_, queues | clears⟩⟩
  · exact resets (by rw [resetHeld_of_resetDevice held, Bool.true_or])
  · exact resets (by rw [held, Bool.true_or])
  · rw [unanswered] at queues
    cases queues
  · exact resets (by rw [clears, Bool.or_true])

private theorem step_returned {next : Firmware F}
    (marks : Marks device.board) (keeps : KeepsMarker device observed)
    (returned : Returned toInt observed.pass device next) :
    Marks next.board ∧
      (observed.released = true → next.board.resetDevice = false →
        MarkerExact next) := by
  have board := inBranch_board observed.pass device
  rw [markerExact_iff]
  cases returned with
  | quiet skipped awake ends =>
      subst ends
      exact quiet_marks marks keeps skipped
  | offline due unconnected ends =>
      subst ends
      exact offline_marks marks keeps due unconnected
  | returns due connected opened held ends =>
      subst ends
      change Marks (inBranch observed.pass device).board ∧
        (_ → _ → Marks (inBranch observed.pass device).board ∧
            ¬ Stray (inBranch observed.pass device).board)
      obtain ⟨idle, empty, released⟩ := empty_of_opened marks opened
      rw [Marks, Stray, board.hub, board.messagePending, idle, empty,
        released]
      simp
  | sends due connected opened free pending ends =>
      subst ends
      have exact := afterReport_marks toInt marks opened
      exact ⟨exact.1, fun _ _ => exact⟩
  | waits due notNow connected closed ends =>
      subst ends
      have services : ServicesHub device observed.pass :=
        ⟨due, notNow, fun opened => by
          rw [closed] at opened
          cases opened⟩
      exact service_marks marks keeps due services

private theorem step_fellAsleep {final : Firmware F}
    (marks : Marks device.board)
    (fell : FellAsleep toInt observed.pass device final) :
    ¬ HoldsMessage final := by
  have board := inBranch_board observed.pass device
  rw [holdsMessage_iff, not_not]
  cases fell with
  | quiet skipped committed idle ends =>
      subst ends
      change (readRtc observed.pass device).board.hub.waitingToSend = []
      rw [(readRtc_board_frame observed.pass device).1]
      by_contra holds
      rw [marks holds] at idle
      cases idle
  | offline due unconnected idle ends =>
      subst ends
      change (inBranch observed.pass device).board.hub.waitingToSend = []
      rw [board.messagePending] at idle
      rw [board.hub]
      by_contra holds
      rw [marks holds] at idle
      cases idle
  | sends due connected opened free idle ends =>
      subst ends
      have exact := afterReport_marks toInt marks opened
      by_contra holds
      rw [exact.1 holds] at idle
      cases idle

end Step

/-- In every run behind a boot whose passes meet the condition, the flag is
exact at every boundary and the device never sleeps on a message. -/
theorem marker_exact_along_run (toInt : CMemory.Bytes → BitVec 32)
    {boot : SetupInput} {persistent : Persistent F} {device : Firmware F}
    (loops : setup boot persistent = .loops device)
    (station : device.accessPoint = false)
    {passes : List (ObservedPass F)}
    (keeps : EveryStep (observedLoop toInt) KeepsMarker passes device) :
    EveryStep (observedLoop toInt)
      (fun state observed =>
        BoundaryHolds observed.released (observedLoop toInt observed state))
      passes device := by
  have empty : device.board.hub.waitingToSend = [] := by
    rw [(setup_booted loops).hub]
    rfl
  refine EveryStep.of_invariant
    (fun state : Firmware F =>
      state.accessPoint = false ∧ Marks state.board)
    ?_ ?_ ⟨station, fun holds => absurd empty holds⟩ keeps
  · intro state observed _ mode condition
    cases stepped : observedLoop toInt observed state with
    | again next =>
        exact (step_returned mode.2 condition
          (returned_of_loop mode.1 stepped)).2
    | halted result =>
        obtain ⟨ended, final⟩ := result
        cases ended with
        | deepSleep =>
            exact step_fellAsleep mode.2 (fellAsleep_of_loop mode.1 stepped)
        | reset => trivial
  · intro state observed _ next mode condition stepped
    have returned := returned_of_loop mode.1 stepped
    exact ⟨returned.mode.1.trans mode.1,
      (step_returned mode.2 condition returned).1⟩

private theorem steady_keepsMarker :
    (setup sampleBoot (samplePersistent sampleRecord)).LoopsWith
      fun device => device.accessPoint = false ∧
        EveryStep (observedLoop fun _ => 0) KeepsMarker
          (steadyPasses.map fun pass => ⟨pass, true⟩) device := by
  decide +kernel

theorem marker_exact_along_run_steady :
    ∃ device : Firmware ℚ,
      setup sampleBoot (samplePersistent sampleRecord) = .loops device ∧
      EveryStep (observedLoop fun _ => 0)
        (fun state observed => BoundaryHolds observed.released
          (observedLoop (fun _ => 0) observed state))
        (steadyPasses.map fun pass => ⟨pass, true⟩) device := by
  obtain ⟨device, loops, station, keeps⟩ := steady_keepsMarker.loops
  exact ⟨device, loops,
    marker_exact_along_run (fun _ => 0) loops station keeps⟩

/-- A pass of the waiting time in which the switch is sampled so. -/
def waitingPass (pressed : Bool) : PassInput ℚ :=
  { samplePass (sampleReadings 70 40 60) (sampleReadings 70 40 60) 12000
      .retry with
    switchPoll := ⟨pressed, .complete⟩ }

/-- A switch sampled as pressed once sets the flag with nothing queued. -/
theorem not_marker_exact_shortPress :
    (setup sampleBoot (samplePersistent sampleRecord)).LoopsWith
      fun device => device.accessPoint = false ∧
        ¬ EveryStep (observedLoop fun _ => 0)
          (fun state observed => BoundaryHolds observed.released
            (observedLoop (fun _ => 0) observed state))
          [⟨waitingPass true, true⟩, ⟨waitingPass false, true⟩] device := by
  decide +kernel

end FunnelDispenser.Reporting
