import FunnelDispenser.Device.Setup

/-!
# The heartbeat

A counter in RTC memory counts the wakes without a report; `Max_Time` of
them force one.  The counter is the one field the firmware does not check
when it loads the record.
-/

namespace FunnelDispenser.Reporting

open Device StepRuns

variable {F : Type} [DoubleArith F]

/-- `count` wakes in station mode that reach `loop()`, each on the record the
one before went to sleep with. -/
structure ConsecutiveWakes (toInt : CMemory.Bytes → BitVec 32)
    (stored : Nat → Persistent F) (wakes : Nat → WakeInput F)
    (devices : Nat → Firmware F) (count : Nat) : Prop where
  boots : ∀ index < count,
    setup (wakes index).boot (stored index) = .loops (devices index)
  station : ∀ index < count, (devices index).accessPoint = false
  works : ∀ index < count, RtcWorks (wakes index)
  passes : ∀ index < count, (wakes index).passes ≠ []
  sleeps : ∀ index, index + 1 < count →
    SleptWith
      (fun final => (stored (index + 1)).rtcMemory = final.rtcMemory)
      (run (loop toInt) (wakes index).passes (devices index))

/-- No pass of the wake enters the reporting branch. -/
def StaysSilent (toInt : CMemory.Bytes → BitVec 32) (input : WakeInput F)
    (device : Firmware F) : Prop :=
  EveryStep (loop toInt)
    (fun state pass => ¬ EntersBranch toInt state pass) input.passes device

section Silent

variable {toInt : CMemory.Bytes → BitVec 32}

variable {input : WakeInput F} {persistent : Persistent F}
variable {device : Firmware F}

theorem criticalFlag_lt_of_silent
    (loops : setup input.boot persistent = .loops device)
    (station : device.accessPoint = false) (works : RtcWorks input)
    (passes : input.passes ≠ [])
    (silent : StaysSilent toInt input device) :
    persistent.rtcMemory.criticalFlag.toInt < maxTime := by
  obtain ⟨first, rest, split⟩ := List.exists_cons_of_ne_nil passes
  have quiet : ¬ EntersBranch toInt device first := by
    rw [StaysSilent, split] at silent
    exact silent.1
  have reads := (works first (by simp [split])).1
  rw [entersBranch_iff station, reportingDue, exceedsBaseline,
    comparedRecord_criticalFlag station reads,
    (setup_booted loops).rtcMemory] at quiet
  simp only [Bool.or_eq_true, decide_eq_true_eq, not_or] at quiet
  exact Int.not_le.mp quiet.1.1.1

/-- A silent wake that ends asleep counts one on. -/
theorem criticalFlag_of_silent
    (loops : setup input.boot persistent = .loops device)
    (station : device.accessPoint = false) (works : RtcWorks input)
    (silent : StaysSilent toInt input device) {final : Firmware F}
    (reached : run (loop toInt) input.passes device =
      .halted (.deepSleep, final)) :
    final.rtcMemory.criticalFlag =
      persistent.rtcMemory.criticalFlag + 1 := by
  have booted := setup_booted loops
  refine result_of_run
    (fun state : Firmware F => state.accessPoint = false ∧
      state.rtcMemory = persistent.rtcMemory ∧ state.criticalFlag = 1)
    (fun state pass => ¬ EntersBranch toInt state pass)
    (fun result => result.1 = .deepSleep →
      result.2.rtcMemory.criticalFlag =
        persistent.rtcMemory.criticalFlag + 1)
    ?_ ?_ ⟨station, booted.rtcMemory, booted.criticalFlag⟩ silent reached rfl
  · intro state pass _ next ⟨mode, memory, one⟩ quiet stepped
    rw [entersBranch_iff mode] at quiet
    cases returned_of_loop mode stepped with
    | quiet skipped awake ends =>
        rw [ends, readRtc_eq]
        exact ⟨mode, memory, one⟩
    | offline due _ _ => exact absurd due quiet
    | returns due _ _ _ _ => exact absurd due quiet
    | sends due _ _ _ _ _ => exact absurd due quiet
    | waits due _ _ _ _ => exact absurd due quiet
  · rintro state pass member ⟨mode, memory, one⟩ quiet ⟨ended, asleepState⟩
      stepped rfl
    rw [entersBranch_iff mode] at quiet
    obtain ⟨reads, writes⟩ := works pass member
    cases fellAsleep_of_loop mode stepped with
    | quiet skipped committed idle ends =>
        rw [ends, rtcMemory_asleep_readRtc mode reads writes committed idle,
          memory, one]
    | offline due _ _ _ => exact absurd due quiet
    | sends due _ _ _ _ _ => exact absurd due quiet

theorem criticalFlag_of_consecutive
    {stored : Nat → Persistent F} {wakes : Nat → WakeInput F}
    {devices : Nat → Firmware F} {count : Nat}
    (consecutive : ConsecutiveWakes toInt stored wakes devices count)
    (silent : ∀ index < count,
      StaysSilent toInt (wakes index) (devices index))
    (index : Nat) (inside : index < count) :
    (stored index).rtcMemory.criticalFlag =
      (stored 0).rtcMemory.criticalFlag + BitVec.ofNat 32 index := by
  induction index with
  | zero => simp
  | succ index inductionHypothesis =>
      have before : index < count := by omega
      obtain ⟨final, reached, passedOn⟩ :=
        (consecutive.sleeps index inside).result
      rw [passedOn, criticalFlag_of_silent (consecutive.boots index before)
        (consecutive.station index before) (consecutive.works index before)
        (silent index before) reached, inductionHypothesis before,
        BitVec.add_assoc, BitVec.ofNat_add]
      rfl

end Silent

section Zero

variable (toInt : CMemory.Bytes → BitVec 32)

def zeroRecord (count : BitVec 32) : RtcData F :=
  ⟨DoubleArith.ofNat 0, DoubleArith.ofNat 0, DoubleArith.ofNat 0, count⟩

def zeroReadings : SensorReadings F :=
  sampleReadings (DoubleArith.ofNat 0) (DoubleArith.ofNat 0) 0

def zeroPass : PassInput F :=
  samplePass zeroReadings zeroReadings 20000 .retry

def zeroWake : WakeInput F :=
  ⟨sampleBoot, [zeroPass]⟩

theorem sanitize_zeroRecord (count : BitVec 32) :
    (zeroRecord count : RtcData F).sanitize = zeroRecord count := by
  have zero : sanitizeReading (DoubleArith.ofNat 0 : F) =
      DoubleArith.ofNat 0 := by
    rw [sanitizeReading]
    split <;> rfl
  simp only [RtcData.sanitize, zeroRecord, zero]

/-- A zero wake below the threshold goes to sleep without a report. -/
theorem zeroWake_silent {count : BitVec 32} (low : count.toInt < maxTime)
    {device : Firmware F}
    (loops : setup sampleBoot (samplePersistent (zeroRecord count)) =
      .loops device)
    (station : device.accessPoint = false) :
    StaysSilent toInt zeroWake device ∧
      SleptWith (fun final => final.rtcMemory = zeroRecord (count + 1))
        (run (loop toInt) zeroWake.passes device) := by
  have booted := setup_booted loops
  have sensors := (booted.station station rfl).2.2
  have idle : device.board.messagePending = false :=
    congrArg SwitchView.messagePending (booted.station station rfl).1
  have sampling : samples zeroPass device = true :=
    samples_of_idle station rfl booted.runFlag idle
  have skipped : reportingDue zeroPass device = false := by
    rw [reportingDue, comparedRecord, comparedData, sampling, if_pos rfl,
      if_pos rfl, booted.rtcMemory]
    change exceedsBaseline (zeroRecord count : RtcData F).sanitize
      (sampledData zeroReadings device.board.sensors _) = false
    have centimetres :
        (zeroReadings : SensorReadings F).range.range.toNat / 10 = 0 := by
      simp [zeroReadings, sampleReadings]
    have same : differs (DoubleArith.ofNat 0 : F) (DoubleArith.ofNat 0) =
        false := DoubleArith.zero_within
    rw [sanitize_zeroRecord, sensors]
    simp only [exceedsBaseline, zeroRecord, sampledData, sampleBoot,
      if_true, centimetres, same]
    simp only [zeroReadings, sampleReadings, same, Bool.or_false]
    exact decide_eq_false (Int.not_le.mpr low)
  have sleeps := loop_of_skipped toInt station booted.runFlag idle
    skipped
  constructor
  · change EveryStep (loop toInt) _ [zeroPass] device
    rw [everyStep_singleton, entersBranch_iff station, skipped]
    simp
  · change SleptWith _ (run (loop toInt) [zeroPass] device)
    rw [run_cons_halted sleeps]
    change (asleep zeroPass (readRtc zeroPass device)).rtcMemory = _
    rw [rtcMemory_asleep_readRtc station rfl rfl booted.runFlag idle,
      booted.rtcMemory, booted.criticalFlag]
    change ({ (zeroRecord count : RtcData F).sanitize with
      criticalFlag := count + 1 } : RtcData F) = _
    rw [sanitize_zeroRecord]
    rfl

/-- From a negative counter 24 wakes may pass without a report. -/
theorem zeroWakes_silent {count : BitVec 32} (negative : count.toInt < 0) :
    ∃ (stored : Nat → Persistent F) (wakes : Nat → WakeInput F)
      (devices : Nat → Firmware F),
      ConsecutiveWakes toInt stored wakes devices 24 ∧
      (stored 0).rtcMemory.criticalFlag = count ∧
      ∀ index < 24, StaysSilent toInt (wakes index) (devices index) := by
  have low : ∀ index < 24,
      (count + BitVec.ofNat 32 index).toInt < maxTime := by
    intro index few
    have bound := count.isLt
    rw [BitVec.toInt_eq_toNat_cond] at negative ⊢
    rw [BitVec.toNat_add, BitVec.toNat_ofNat, maxTime]
    omega
  choose devices boots station using fun index : Nat =>
    setup_sampleBoot
      (zeroRecord (count + BitVec.ofNat 32 index) : RtcData F)
  have silent := fun index (few : index < 24) =>
    zeroWake_silent toInt (low index few) (boots index) (station index)
  refine ⟨fun index => samplePersistent
      (zeroRecord (count + BitVec.ofNat 32 index)),
    fun _ => zeroWake, devices,
    ⟨fun index _ => boots index, fun index _ => station index,
      fun _ _ pass member => ?_, fun _ _ => by simp [zeroWake],
      fun index more => ?_⟩,
    by simp [samplePersistent, zeroRecord],
    fun index few => (silent index few).1⟩
  · rw [List.mem_singleton.mp member]
    exact ⟨rfl, rfl⟩
  · obtain ⟨final, reached, record⟩ := (silent index (by omega)).2.result
    rw [reached]
    change zeroRecord (count + BitVec.ofNat 32 (index + 1)) = final.rtcMemory
    rw [record, BitVec.ofNat_add, ← BitVec.add_assoc]
    rfl

end Zero

/-- Of 24 consecutive wakes one enters the reporting branch exactly when the
counter found in RTC memory is not negative. -/
theorem heartbeat_within_iff (toInt : CMemory.Bytes → BitVec 32)
    (count : BitVec 32) :
    (∀ (stored : Nat → Persistent F) (wakes : Nat → WakeInput F)
        (devices : Nat → Firmware F),
      ConsecutiveWakes toInt stored wakes devices 24 →
      (stored 0).rtcMemory.criticalFlag = count →
        ∃ index < 24, ¬ StaysSilent toInt (wakes index) (devices index)) ↔
      0 ≤ count.toInt := by
  constructor
  · intro heard
    by_contra negative
    obtain ⟨stored, wakes, devices, consecutive, initial, silent⟩ :=
      zeroWakes_silent (F := F) toInt (Int.not_le.mp negative)
    obtain ⟨index, few, enters⟩ := heard _ _ _ consecutive initial
    exact enters (silent index few)
  · intro nonnegative stored wakes devices consecutive initial
    by_contra none
    have silent : ∀ index < 24,
        StaysSilent toInt (wakes index) (devices index) := by
      intro index few
      by_contra enters
      exact none ⟨index, few, enters⟩
    have below := fun index (few : index < 24) =>
      criticalFlag_lt_of_silent (consecutive.boots index few)
        (consecutive.station index few) (consecutive.works index few)
        (consecutive.passes index few) (silent index few)
    have first := below 0 (by decide)
    have last := below 23 (by decide)
    rw [criticalFlag_of_consecutive consecutive silent 23 (by decide)]
      at last
    rw [initial] at first last
    have bound := count.isLt
    rw [BitVec.toInt_eq_toNat_cond] at nonnegative first last
    rw [BitVec.toNat_add, BitVec.toNat_ofNat] at last
    simp only [maxTime] at first last
    omega

/-- With all bits of the counter set the 24 wakes may be silent. -/
theorem not_heartbeat_within_allOnes :
    ∃ (stored : Nat → Persistent ℚ) (wakes : Nat → WakeInput ℚ)
      (devices : Nat → Firmware ℚ),
      ConsecutiveWakes (fun _ => 0) stored wakes devices 24 ∧
      (stored 0).rtcMemory.criticalFlag = 0xFFFFFFFF#32 ∧
      ∀ index < 24,
        StaysSilent (fun _ => 0) (wakes index) (devices index) :=
  zeroWakes_silent (fun _ => 0) (by decide)

end FunnelDispenser.Reporting
