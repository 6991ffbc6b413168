import FunnelDispenser.Device.Setup

/-!
# Queued messages and `DoWork`

The client makes progress only inside `DoWork`, and `loop()` calls that only
behind the guard of the reporting branch.  This module says which passes do.
-/

namespace FunnelDispenser.Reporting

open Device StepRuns

variable {F : Type} [DoubleArith F]

omit [DoubleArith F] in
/-- The client holds a message whose callback has not run. -/
def HoldsMessage (device : Firmware F) : Prop :=
  device.board.hub.waitingToSend.isEmpty = false

omit [DoubleArith F] in
instance (device : Firmware F) : Decidable (HoldsMessage device) :=
  inferInstanceAs (Decidable (_ = _))

instance (toInt : CMemory.Bytes → BitVec 32) (device : Firmware F)
    (input : PassInput F) : Decidable (CallsDoWork toInt device input) :=
  inferInstanceAs (Decidable (_ < _))

/-- The guard of the reporting branch holds, the pass is not the twentieth
with a reset pending, and it does not leave the report block early. -/
structure ServicesHub (device : Firmware F) (input : PassInput F) : Prop where
  due : reportingDue input device = true
  notReset : resetsNow input device = false
  notLeft : windowOpen input device = true →
    device.board.resetDevice = false

instance (device : Firmware F) (input : PassInput F) :
    Decidable (ServicesHub device input) :=
  decidable_of_iff
    (reportingDue input device = true ∧ resetsNow input device = false ∧
      (windowOpen input device = true → device.board.resetDevice = false))
    ⟨fun ⟨due, notReset, notLeft⟩ => ⟨due, notReset, notLeft⟩,
      fun services => ⟨services.due, services.notReset, services.notLeft⟩⟩

section Pass

variable (toInt : CMemory.Bytes → BitVec 32) (input : PassInput F)
variable {device : Firmware F}

private theorem doWorkCalls_serviceHub (before : Firmware F) :
    (serviceHub toInt input before).board.hub.doWorkCalls =
      before.board.hub.doWorkCalls + 1 :=
  (doWork_effect toInt input.work before.board).doWorkCalls

private theorem hub_inBranch (device : Firmware F) :
    (inBranch input device).board.hub = device.board.hub :=
  (inBranch_board input device).hub

private theorem doWorkCalls_sendReport (before : Firmware F) :
    (sendReport input before).board.hub.doWorkCalls =
      before.board.hub.doWorkCalls := by
  rw [sendReport, sendData_eq]
  dsimp only
  split <;> rfl

omit [DoubleArith F] in
/-- With the switch released only an earlier reset is pending. -/
theorem resetsNow_of_opened
    (opened : windowOpen input device = true)
    (free : device.board.resetDevice = false) :
    resetsNow input device = false := by
  simp only [windowOpen, Bool.and_eq_true, Bool.not_eq_true'] at opened
  simp [resetsNow, resetHeld, completesClear, nextPressCount, free,
    opened.2]

theorem callsDoWork_iff
    (station : device.accessPoint = false)
    (connected : device.hubConnected = true) :
    CallsDoWork toInt device input ↔ ServicesHub device input := by
  have unserviced : ∀ {after : Firmware F},
      after.board.hub = device.board.hub →
        ¬ device.board.hub.doWorkCalls < after.board.hub.doWorkCalls := by
    intro after same
    rw [same]
    exact Nat.lt_irrefl _
  unfold CallsDoWork
  cases loop_station toInt input station with
  | quiet skipped ends =>
      rw [ends, (endOfPass_sleepBlock input _).1]
      refine iff_of_false (unserviced (readRtc_board_frame input device).1) ?_
      intro services
      rw [services.due] at skipped
      cases skipped
  | resets due now ends =>
      rw [ends]
      refine iff_of_false (unserviced (hub_inBranch input device)) ?_
      intro services
      rw [services.notReset] at now
      cases now
  | offline due unconnected ends =>
      rw [connected] at unconnected
      cases unconnected
  | returns due notNow wired opened held ends =>
      rw [ends]
      refine iff_of_false (unserviced (hub_inBranch input device)) ?_
      intro services
      rw [services.notLeft opened] at held
      cases held
  | sends due wired opened free ends =>
      rw [ends, (endOfPass_sleepBlock input _).1, afterReport,
        doWorkCalls_serviceHub, doWorkCalls_sendReport]
      refine iff_of_true ?_
        ⟨due, resetsNow_of_opened input opened free, fun _ => free⟩
      change _ < (inBranch input device).board.hub.doWorkCalls + 1
      rw [hub_inBranch]
      exact Nat.lt_succ_self _
  | waits due notNow wired closed ends =>
      rw [ends]
      refine iff_of_true ?_ ⟨due, notNow, fun opened => ?_⟩
      · change _ < (serviceHub toInt input _).board.hub.doWorkCalls
        rw [doWorkCalls_serviceHub, hub_inBranch]
        exact Nat.lt_succ_self _
      · rw [closed] at opened
        cases opened

end Pass

/-- In a run no queued message waits for longer than a pass exactly when
every pass that starts with one services the hub. -/
theorem everyMessage_serviced_iff (toInt : CMemory.Bytes → BitVec 32)
    {device : Firmware F} (station : device.accessPoint = false)
    (connected : device.hubConnected = true) (passes : List (PassInput F)) :
    EveryStep (loop toInt)
        (fun state input =>
          HoldsMessage state → CallsDoWork toInt state input)
        passes device ↔
      EveryStep (loop toInt)
        (fun state input => HoldsMessage state → ServicesHub state input)
        passes device := by
  refine everyStep_congr_of_invariant
    (fun state : Firmware F =>
      state.accessPoint = false ∧ state.hubConnected = true)
    ⟨station, connected⟩ ?_ ?_
  · intro state input _ mode
    rw [callsDoWork_iff toInt input mode.1 mode.2]
  · intro state input _ next mode _ stepped
    have kept := (returned_of_loop mode.1 stepped).mode
    exact ⟨kept.1.trans mode.1, kept.2.1.trans mode.2⟩

/-- Two passes in which every sample reads the same 6 cm. -/
def steadyPasses : List (PassInput ℚ) :=
  [samplePass (sampleReadings 70 40 60) (sampleReadings 70 40 60)
      25000 .retry,
    samplePass (sampleReadings 70 40 60) (sampleReadings 70 40 60)
      25500 (.completed .ok)]

private theorem steadyPasses_serviced :
    (setup sampleBoot (samplePersistent sampleRecord)).LoopsWith
      fun device => device.accessPoint = false ∧
        device.hubConnected = true ∧
        EveryStep (loop fun _ => 0)
          (fun state input => HoldsMessage state → ServicesHub state input)
          steadyPasses device := by
  decide +kernel

theorem everyMessage_serviced_iff_steady :
    ∃ device : Firmware ℚ,
      setup sampleBoot (samplePersistent sampleRecord) = .loops device ∧
      EveryStep (loop fun _ => 0)
        (fun state input =>
          HoldsMessage state → CallsDoWork (fun _ => 0) state input)
        steadyPasses device := by
  obtain ⟨device, loops, station, connected, services⟩ :=
    steadyPasses_serviced.loops
  exact ⟨device, loops,
    (everyMessage_serviced_iff (fun _ => 0) station connected
      steadyPasses).mpr services⟩

/-- The distance returns to the stored 10 cm between the sample and the
report; the refused report is then never tried again. -/
theorem not_everyMessage_serviced_returning :
    (setup sampleBoot (samplePersistent sampleRecord)).LoopsWith
      fun device => device.accessPoint = false ∧
        device.hubConnected = true ∧
        ¬ EveryStep (loop fun _ => 0)
          (fun state input =>
            HoldsMessage state → CallsDoWork (fun _ => 0) state input)
          [samplePass (sampleReadings 70 40 60) (sampleReadings 70 40 100)
              25000 .retry,
            samplePass (sampleReadings 70 40 100) (sampleReadings 70 40 100)
              25500 (.completed .ok)]
          device := by
  decide +kernel

end FunnelDispenser.Reporting
