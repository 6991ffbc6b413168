import FunnelDispenser.Time.NtpDecoding

/-!
# The clock validation of `setup()`

`setup()` synchronises the clock once and then repeats that while the year
is 1970 or later than 2020.  After the third repetition it goes to deep sleep
without looking at the year again.
-/

namespace FunnelDispenser.Time

open CMemory

/-- One synchronisation attempt with the year test behind it.  The delays are
counted in milliseconds from `startMillis`; the test follows the attempt
before the next synchronisation is due. -/
structure Attempt where
  startMillis : BitVec 32
  reply : Option Bytes
  replyDelay : Nat
  firstTestDelay : Nat
  secondTestDelay : Nat
  ordered : replyDelay ≤ firstTestDelay ∧ firstTestDelay ≤ secondTestDelay
  prompt : secondTestDelay < 299000

namespace Attempt

def millisAt (attempt : Attempt) (delay : Nat) : BitVec 32 :=
  attempt.startMillis + BitVec.ofNat 32 delay

def sync (attempt : Attempt) : SyncInput :=
  ⟨attempt.reply, attempt.millisAt attempt.replyDelay⟩

end Attempt

/-- `setSyncProvider(getNtpTime); setSyncInterval(300);` -/
def synchronize (attempt : Attempt) (clock : TimeLib) : TimeLib :=
  setSyncInterval 300 (setSyncProvider attempt.startMillis attempt.sync clock)

/-- A year test finds no synchronisation due. -/
def noSync : SyncInput := ⟨none, 0⟩

/-- `year() == 1970 || year() > 2020`. -/
def yearInvalid (attempt : Attempt) (clock : TimeLib) : Bool × TimeLib :=
  let first := now (attempt.millisAt attempt.firstTestDelay) noSync clock
  if calendarYear first.sysTime = 1970 then
    (true, first)
  else
    let second :=
      now (attempt.millisAt attempt.secondTestDelay) noSync first
    (2020 < calendarYear second.sysTime, second)

/-- How the validation ends, with the number of attempts made. -/
inductive ClockEnd where
  | online (made : Nat)
  | sleeps (made : Nat)
deriving DecidableEq, Repr

/-- The loop; `remaining` is `3 - Counter`. -/
def validateYear (attempts : Nat → Attempt) :
    (remaining made : Nat) → TimeLib → ClockEnd
  | 0, made, _ => .sleeps made
  | remaining + 1, made, clock =>
      match yearInvalid (attempts (made - 1)) clock with
      | (false, _) => .online made
      | (true, tested) =>
          let repeated := synchronize (attempts made) tested
          if remaining = 0 then
            .sleeps (made + 1)
          else
            validateYear attempts remaining (made + 1) repeated

/-- The first attempt, then the loop. -/
def validateClock (attempts : Nat → Attempt) : ClockEnd :=
  validateYear attempts 3 1 (synchronize (attempts 0) TimeLib.initial)

def startOf2019 : Nat := 1546300800
def startOf2021 : Nat := 1609459200
def startOf2038 : Nat := 2145916800

/-- A packet that carries a correct time from 2019 to 2037. -/
def CarriesTime (packet : Bytes) (time : Nat) : Prop :=
  ntpPacketSize ≤ packet.length ∧
    secsSince1900 packet = BitVec.ofNat 32 (time + 2208988800) ∧
    startOf2019 ≤ time ∧ time < startOf2038

/-- No packet in time, or a correct one. -/
def CorrectReply (reply : Option Bytes) : Prop :=
  ∀ packet, reply = some packet → ∃ time, CarriesTime packet time

def Succeeds (attempt : Attempt) : Prop :=
  getNtpTime attempt.reply ≠ 0

instance (attempt : Attempt) : Decidable (Succeeds attempt) :=
  inferInstanceAs (Decidable (_ ≠ _))

theorem getNtpTime_of_carriesTime
    {packet : Bytes} {time : Nat} (carries : CarriesTime packet time) :
    getNtpTime (some packet) = BitVec.ofNat 32 (time - 18000) := by
  have late : 18000 ≤ time := Nat.le_trans (by decide) carries.2.2.1
  exact getNtpTime_of_counter carries.1 late carries.2.1

/-- A successful attempt with a correct reply sets a local time between 2019
and the end of 2037. -/
theorem time_of_succeeds
    {attempt : Attempt} (correct : CorrectReply attempt.reply)
    (succeeds : Succeeds attempt) :
    1546282800 ≤ (getNtpTime attempt.reply).toNat ∧
      (getNtpTime attempt.reply).toNat < 2145898800 := by
  cases received : attempt.reply with
  | none => exact absurd (by rw [received]; rfl) succeeds
  | some packet =>
      obtain ⟨time, carries⟩ := correct packet received
      rw [getNtpTime_of_carriesTime carries]
      obtain ⟨_, _, lower, upper⟩ := carries
      simp only [startOf2019, startOf2038] at lower upper
      simp only [BitVec.toNat_ofNat]
      omega

theorem calendarYear_eq_1970_iff (time : BitVec 32) :
    calendarYear time = 1970 ↔ time.toNat < 31536000 := by
  have first := le_calendarYear_iff time 1
  have lower := calendarYear_ge time
  rw [show daysBefore 1 = 365 from rfl] at first
  omega

theorem lt_calendarYear_2020_iff (time : BitVec 32) :
    2020 < calendarYear time ↔ startOf2021 ≤ time.toNat := by
  have last := le_calendarYear_iff time 51
  rw [show daysBefore 51 = 18628 from by decide] at last
  simp only [startOf2021]
  omega

private theorem toNat_add_ofNat (time : BitVec 32) (seconds : Nat)
    (room : time.toNat + seconds < 2 ^ 32) :
    (time + BitVec.ofNat 32 seconds).toNat = time.toNat + seconds := by
  rw [BitVec.toNat_add, BitVec.toNat_ofNat, Nat.add_mod_mod,
    Nat.mod_eq_of_lt room]

/-- Before the next synchronisation is due, 300 seconds after `base`, `now()`
only counts. -/
private theorem now_counts
    (millis : BitVec 32) (sync : SyncInput) (clock : TimeLib)
    (base : BitVec 32) (counted seconds : Nat)
    (time : clock.sysTime = base + BitVec.ofNat 32 counted)
    (due : clock.nextSyncTime = base + 300#32)
    (elapsed : (millis - clock.prevMillis).toNat / 1000 = seconds)
    (early : counted + seconds < 300) (room : base.toNat + 300 < 2 ^ 32) :
    now millis sync clock =
      { clock with
        sysTime := base + BitVec.ofNat 32 (counted + seconds)
        prevMillis :=
          clock.prevMillis + BitVec.ofNat 32 (1000 * seconds) } := by
  have sum : clock.sysTime + BitVec.ofNat 32 seconds =
      base + BitVec.ofNat 32 (counted + seconds) := by
    rw [time, BitVec.add_assoc, ← BitVec.ofNat_add]
  have later : ¬ clock.nextSyncTime ≤
      base + BitVec.ofNat 32 (counted + seconds) := by
    rw [due, BitVec.le_def, toNat_add_ofNat _ _ (by omega),
      toNat_add_ofNat _ _ (by omega)]
    omega
  simp only [now, elapsed, countSeconds_eq, sum, later, decide_false,
    Bool.false_and, Bool.false_eq_true, if_false]

/-- A clock that counted `full` seconds has so much less left to count. -/
private theorem elapsed_behind_seconds
    {millis prior : BitVec 32} {elapsed : Nat} (full : Nat)
    (whole : (millis - prior).toNat = elapsed)
    (counted : 1000 * full ≤ elapsed) (prompt : elapsed < 300000) :
    (millis - (prior + BitVec.ofNat 32 (1000 * full))).toNat / 1000 =
      elapsed / 1000 - full := by
  have rest : millis - (prior + BitVec.ofNat 32 (1000 * full)) =
      millis - prior - BitVec.ofNat 32 (1000 * full) := by
    bv_omega
  rw [rest, BitVec.toNat_sub_of_le, whole, BitVec.toNat_ofNat,
    Nat.mod_eq_of_lt (by omega)]
  · omega
  · rw [BitVec.le_def, whole, BitVec.toNat_ofNat,
      Nat.mod_eq_of_lt (by omega)]
    exact counted

/-- What the tests see behind a synchronisation that left the clock at
`base`, given how far each of them is behind `prevMillis`. -/
private theorem yearInvalid_of_elapsed
    (attempt : Attempt) (clock : TimeLib) {first second : Nat}
    (firstElapsed : (attempt.millisAt attempt.firstTestDelay -
      clock.prevMillis).toNat = first)
    (secondElapsed : (attempt.millisAt attempt.secondTestDelay -
      clock.prevMillis).toNat = second)
    (ordered : first ≤ second) (prompt : second < 300000)
    (due : clock.nextSyncTime = clock.sysTime + 300#32)
    (room : clock.sysTime.toNat + 300 < 2 ^ 32) :
    (clock.sysTime.toNat + first / 1000 < 31536000 →
      ∃ tested, yearInvalid attempt clock = (true, tested) ∧
        tested.sysTime.toNat = clock.sysTime.toNat + first / 1000) ∧
    (31536000 ≤ clock.sysTime.toNat + first / 1000 →
      (yearInvalid attempt clock).1 =
        decide (startOf2021 ≤ clock.sysTime.toNat + second / 1000)) := by
  have firstNow := now_counts (attempt.millisAt attempt.firstTestDelay)
    noSync clock clock.sysTime 0 (first / 1000)
    (by simp) due (by rw [firstElapsed]) (by omega) room
  rw [Nat.zero_add] at firstNow
  have firstTime := toNat_add_ofNat clock.sysTime (first / 1000) (by omega)
  constructor
  · intro young
    refine ⟨{ clock with
      sysTime := clock.sysTime + BitVec.ofNat 32 (first / 1000)
      prevMillis := clock.prevMillis +
        BitVec.ofNat 32 (1000 * (first / 1000)) }, ?_, firstTime⟩
    simp only [yearInvalid, firstNow, calendarYear_eq_1970_iff, firstTime,
      young, if_true]
  · intro old
    have notYoung : ¬ clock.sysTime.toNat + first / 1000 < 31536000 := by
      omega
    -- the second test is counted from where the first one left the clock
    have between := elapsed_behind_seconds (first / 1000) secondElapsed
      (by omega) prompt
    have secondNow := now_counts
      (attempt.millisAt attempt.secondTestDelay) noSync
      { clock with
        sysTime := clock.sysTime + BitVec.ofNat 32 (first / 1000)
        prevMillis := clock.prevMillis +
          BitVec.ofNat 32 (1000 * (first / 1000)) }
      clock.sysTime (first / 1000) (second / 1000 - first / 1000)
      rfl due between (by omega) room
    have total : first / 1000 + (second / 1000 - first / 1000) =
        second / 1000 := by omega
    rw [total] at secondNow
    simp only [yearInvalid, firstNow, calendarYear_eq_1970_iff, firstTime,
      notYoung, if_false, secondNow, lt_calendarYear_2020_iff]
    rw [toNat_add_ofNat _ _ (by omega)]

/-- A clock `behind` milliseconds behind a test counts them on the test. -/
private theorem elapsed_of_behind
    {start : BitVec 32} {behind delay : Nat}
    (room : behind + delay < 2 ^ 32) :
    (start + BitVec.ofNat 32 delay -
        (start - BitVec.ofNat 32 behind)).toNat =
      behind + delay := by
  have difference :
      start + BitVec.ofNat 32 delay - (start - BitVec.ofNat 32 behind) =
        BitVec.ofNat 32 (behind + delay) := by
    rw [BitVec.ofNat_add]
    bv_omega
  rw [difference, BitVec.toNat_ofNat, Nat.mod_eq_of_lt room]

/-- The most seconds the clock counts during one attempt and its tests. -/
def attemptSeconds : Nat := 4295267

/-- After `made` failing attempts the clock has only counted. -/
def NeverSet (made : Nat) (clock : TimeLib) : Prop :=
  clock.sysTime.toNat ≤ made * attemptSeconds

private theorem split_seconds (elapsed : BitVec 32) :
    elapsed =
      BitVec.ofNat 32 (1000 * (elapsed.toNat / 1000)) +
        BitVec.ofNat 32 (elapsed.toNat % 1000) := by
  rw [← BitVec.ofNat_add, Nat.div_add_mod, BitVec.ofNat_toNat,
    BitVec.setWidth_eq]

private theorem synchronize_of_neverSet
    {made : Nat} {prior : TimeLib} (neverSet : NeverSet made prior)
    (few : made ≤ 3) (attempt : Attempt) :
    ∃ counted : TimeLib, ∃ behind : Nat,
      behind < 1000 ∧
      counted.prevMillis =
        attempt.startMillis - BitVec.ofNat 32 behind ∧
      counted.sysTime.toNat ≤ made * attemptSeconds + 4294967 ∧
      synchronize attempt prior =
        if Succeeds attempt then
          setSyncInterval 300 (setTime (getNtpTime attempt.reply)
            (attempt.millisAt attempt.replyDelay) counted)
        else
          setSyncInterval 300 counted := by
  have elapsedBound :=
    (attempt.startMillis - prior.prevMillis).isLt
  have priorBound : prior.sysTime.toNat ≤ made * attemptSeconds := neverSet
  have few' : made * attemptSeconds ≤ 3 * attemptSeconds :=
    Nat.mul_le_mul_right _ few
  have sum := toNat_add_ofNat prior.sysTime
    ((attempt.startMillis - prior.prevMillis).toNat / 1000)
    (by simp only [attemptSeconds] at few' priorBound; omega)
  have due : prior.sysTime ≤ prior.sysTime + BitVec.ofNat 32
      ((attempt.startMillis - prior.prevMillis).toNat / 1000) := by
    rw [BitVec.le_def, sum]
    omega
  refine ⟨{ prior with
      providerSet := true
      nextSyncTime := prior.sysTime
      sysTime := prior.sysTime + BitVec.ofNat 32
        ((attempt.startMillis - prior.prevMillis).toNat / 1000)
      prevMillis := prior.prevMillis + BitVec.ofNat 32 (1000 *
        ((attempt.startMillis - prior.prevMillis).toNat / 1000)) },
    (attempt.startMillis - prior.prevMillis).toNat % 1000,
    Nat.mod_lt _ (by omega), ?_, ?_, ?_⟩
  · have split := split_seconds (attempt.startMillis - prior.prevMillis)
    simp only
    generalize BitVec.ofNat 32 (1000 *
      ((attempt.startMillis - prior.prevMillis).toNat / 1000)) =
        full at split ⊢
    generalize BitVec.ofNat 32
      ((attempt.startMillis - prior.prevMillis).toNat % 1000) =
        part at split ⊢
    bv_omega
  · simp only
    rw [sum]
    omega
  · by_cases succeeds : Succeeds attempt
    · have nonzero : getNtpTime attempt.reply ≠ 0 := succeeds
      rw [if_pos succeeds]
      simp only [synchronize, setSyncProvider, now, countSeconds_eq, due,
        decide_true, Bool.and_self, if_true, Attempt.sync, ne_eq, nonzero,
        not_false_eq_true, setTime, setSyncInterval]
    · have zero : getNtpTime attempt.reply = 0 := Decidable.not_not.mp succeeds
      rw [if_neg succeeds]
      simp only [synchronize, setSyncProvider, now, countSeconds_eq, due,
        decide_true, Bool.and_self, if_true, Attempt.sync, ne_eq, zero,
        not_true_eq_false, if_false, setSyncInterval]

/-- The local time in seconds at the year test behind an attempt. -/
def secondsAtTest (attempt : Attempt) : Nat :=
  (getNtpTime attempt.reply).toNat +
    (attempt.secondTestDelay - attempt.replyDelay) / 1000

private theorem yearInvalid_of_fails
    {made : Nat} {prior : TimeLib} (neverSet : NeverSet made prior)
    (few : made ≤ 3) {attempt : Attempt} (fails : ¬ Succeeds attempt) :
    ∃ tested, yearInvalid attempt (synchronize attempt prior) =
        (true, tested) ∧ NeverSet (made + 1) tested := by
  obtain ⟨counted, behind, small, millis, bound, result⟩ :=
    synchronize_of_neverSet neverSet few attempt
  have few' : made * attemptSeconds ≤ 3 * attemptSeconds :=
    Nat.mul_le_mul_right _ few
  have ordered := attempt.ordered
  have prompt := attempt.prompt
  rw [if_neg fails] at result
  have elapsed : ∀ delay, delay < 299000 →
      (attempt.millisAt delay -
        (setSyncInterval 300 counted).prevMillis).toNat =
          behind + delay := by
    intro delay bounded
    simp only [setSyncInterval, millis, Attempt.millisAt]
    exact elapsed_of_behind (by omega)
  have tests := yearInvalid_of_elapsed attempt
    (setSyncInterval 300 counted)
    (elapsed attempt.firstTestDelay (by omega))
    (elapsed attempt.secondTestDelay (by omega))
    (by omega) (by omega) rfl
    (by simp only [setSyncInterval, attemptSeconds] at few' bound ⊢; omega)
  obtain ⟨tested, invalid, time⟩ := tests.1 (by
    simp only [setSyncInterval, attemptSeconds] at few' bound ⊢
    omega)
  refine ⟨tested, by rw [result, invalid], ?_⟩
  simp only [NeverSet, time, setSyncInterval, attemptSeconds] at bound ⊢
  omega

/-- Behind a successful attempt the year test looks at the year only. -/
private theorem yearInvalid_of_succeeds
    {made : Nat} {prior : TimeLib} (neverSet : NeverSet made prior)
    (few : made ≤ 3) {attempt : Attempt}
    (correct : CorrectReply attempt.reply) (succeeds : Succeeds attempt) :
    (yearInvalid attempt (synchronize attempt prior)).1 =
      decide (startOf2021 ≤ secondsAtTest attempt) := by
  obtain ⟨counted, _, _, _, _, result⟩ :=
    synchronize_of_neverSet neverSet few attempt
  obtain ⟨lower, upper⟩ := time_of_succeeds correct succeeds
  have ordered := attempt.ordered
  have prompt := attempt.prompt
  rw [if_pos succeeds] at result
  have elapsed : ∀ delay, attempt.replyDelay ≤ delay → delay < 299000 →
      (attempt.millisAt delay - attempt.millisAt attempt.replyDelay).toNat =
        delay - attempt.replyDelay := by
    intro delay after bound
    have shape : attempt.millisAt delay -
        attempt.millisAt attempt.replyDelay =
          BitVec.ofNat 32 (delay - attempt.replyDelay) := by
      simp only [Attempt.millisAt]
      have split : BitVec.ofNat 32 delay =
          BitVec.ofNat 32 (delay - attempt.replyDelay) +
            BitVec.ofNat 32 attempt.replyDelay := by
        rw [← BitVec.ofNat_add, Nat.sub_add_cancel after]
      rw [split]
      generalize BitVec.ofNat 32 (delay - attempt.replyDelay) = part
      generalize BitVec.ofNat 32 attempt.replyDelay = offset
      bv_omega
    rw [shape, BitVec.toNat_ofNat, Nat.mod_eq_of_lt (by omega)]
  have tests := yearInvalid_of_elapsed attempt
    (setSyncInterval 300 (setTime (getNtpTime attempt.reply)
      (attempt.millisAt attempt.replyDelay) counted))
    (elapsed _ ordered.1 (by omega))
    (elapsed _ (by omega) prompt)
    (by omega) (by omega) rfl
    (by simp only [setSyncInterval, setTime]; omega)
  rw [result, tests.2 (by simp only [setSyncInterval, setTime]; omega)]
  rfl

def FirstSuccess (attempts : Nat → Attempt) (index : Nat) : Prop :=
  Succeeds (attempts index) ∧ ∀ earlier < index, ¬ Succeeds (attempts earlier)

/-- The loop is left for the hub right behind the first attempt that set the
clock, and for deep sleep only if every attempt made has failed. -/
def EndsRight (attempts : Nat → Attempt) : ClockEnd → Prop
  | .online made => ∃ index, made = index + 1 ∧ FirstSuccess attempts index
  | .sleeps made => ∀ index < made, ¬ Succeeds (attempts index)

private theorem made_le_validateYear
    (attempts : Nat → Attempt) (remaining made : Nat) (clock : TimeLib) :
    ∀ final, validateYear attempts remaining made clock = .online final ∨
      validateYear attempts remaining made clock = .sleeps final →
        made ≤ final := by
  induction remaining generalizing made clock with
  | zero =>
      rintro final (ends | ends) <;> cases ends
      exact Nat.le_refl _
  | succ remaining inductionHypothesis =>
      intro final
      rw [validateYear]
      rcases yearInvalid (attempts (made - 1)) clock with ⟨_ | _, tested⟩
      · rintro (ends | ends) <;> cases ends
        exact Nat.le_refl _
      · simp only
        split
        · rintro (ends | ends) <;> cases ends
          exact Nat.le_succ _
        · intro ends
          exact Nat.le_of_succ_le (inductionHypothesis _ _ final ends)

private theorem endsRight_of_firstSuccess
    {attempts : Nat → Attempt}
    (correct : ∀ index, CorrectReply (attempts index).reply)
    (remaining : Nat) {made : Nat} (few : made ≤ 3)
    {prior : TimeLib} (neverSet : NeverSet made prior)
    (first : FirstSuccess attempts made) :
    EndsRight attempts (validateYear attempts (remaining + 1) (made + 1)
        (synchronize (attempts made) prior)) ↔
      secondsAtTest (attempts made) < startOf2021 := by
  have verdict := yearInvalid_of_succeeds neverSet few (correct made) first.1
  have late := made_le_validateYear attempts remaining (made + 2)
  rw [validateYear, Nat.add_sub_cancel]
  rcases tests : yearInvalid (attempts made)
      (synchronize (attempts made) prior) with ⟨_ | _, tested⟩
  · rw [tests] at verdict
    have early : secondsAtTest (attempts made) < startOf2021 := by
      simpa using verdict.symm
    simp only [early, iff_true]
    exact ⟨made, rfl, first⟩
  · rw [tests] at verdict
    have tooLate : ¬ secondsAtTest (attempts made) < startOf2021 := by
      simpa using verdict.symm
    simp only [tooLate, iff_false]
    intro right
    have ended : ∀ final, made + 2 ≤ final →
        ¬ EndsRight attempts (.online final) ∧
          ¬ EndsRight attempts (.sleeps final) := by
      intro final bound
      constructor
      · rintro ⟨index, rfl, success⟩
        exact success.2 made (by omega) first.1
      · intro allFailed
        exact allFailed made (by omega) first.1
    split at right
    · exact (ended _ (Nat.le_refl _)).2 right
    · cases ends : validateYear attempts remaining (made + 1 + 1)
          (synchronize (attempts (made + 1)) tested) with
      | online final =>
          rw [ends] at right
          exact (ended final (late _ final (Or.inl ends))).1 right
      | sleeps final =>
          rw [ends] at right
          exact (ended final (late _ final (Or.inr ends))).2 right

theorem FirstSuccess.unique
    {attempts : Nat → Attempt} {left right : Nat}
    (leftFirst : FirstSuccess attempts left)
    (rightFirst : FirstSuccess attempts right) :
    left = right := by
  by_contra different
  rcases Nat.lt_or_gt_of_ne different with before | before
  · exact rightFirst.2 left before leftFirst.1
  · exact leftFirst.2 right before rightFirst.1

/-- There is one first success, so a statement about all of them is one about
it. -/
theorem FirstSuccess.forall_iff
    {attempts : Nat → Attempt} {made : Nat}
    (first : FirstSuccess attempts made) (later : Nat) :
    (∀ index < made + later + 2, FirstSuccess attempts index →
      index < made + later + 1 ∧
        secondsAtTest (attempts index) < startOf2021) ↔
      secondsAtTest (attempts made) < startOf2021 := by
  constructor
  · intro all
    exact (all made (by omega) first).2
  · intro early index _ indexFirst
    rw [indexFirst.unique first]
    exact ⟨by omega, early⟩

private theorem failedBefore_succ
    {attempts : Nat → Attempt} {made : Nat}
    (failed : ∀ earlier < made, ¬ Succeeds (attempts earlier))
    (fails : ¬ Succeeds (attempts made)) :
    ∀ earlier < made + 1, ¬ Succeeds (attempts earlier) := by
  intro earlier before
  rcases Nat.lt_succ_iff_lt_or_eq.mp before with sooner | rfl
  · exact failed earlier sooner
  · exact fails

/-- The loop from attempt `made` on, all attempts before it having failed. -/
private theorem endsRight_validateYear_iff
    (attempts : Nat → Attempt)
    (correct : ∀ index, CorrectReply (attempts index).reply)
    (remaining made : Nat) (bound : made + remaining ≤ 2)
    (prior : TimeLib) (neverSet : NeverSet made prior)
    (failed : ∀ earlier < made, ¬ Succeeds (attempts earlier)) :
    EndsRight attempts (validateYear attempts (remaining + 1) (made + 1)
        (synchronize (attempts made) prior)) ↔
      ∀ index < made + remaining + 2, FirstSuccess attempts index →
        index < made + remaining + 1 ∧
          secondsAtTest (attempts index) < startOf2021 := by
  induction remaining generalizing made prior with
  | zero =>
      by_cases succeeds : Succeeds (attempts made)
      · have first : FirstSuccess attempts made := ⟨succeeds, failed⟩
        rw [endsRight_of_firstSuccess correct 0 (by omega) neverSet first]
        exact (first.forall_iff 0).symm
      · obtain ⟨tested, invalid, _⟩ :=
          yearInvalid_of_fails neverSet (by omega) succeeds
        rw [validateYear, Nat.add_sub_cancel, invalid]
        simp only [if_true, EndsRight]
        constructor
        · intro allFailed index inRange first
          exact absurd first.1 (allFailed index inRange)
        · intro condition index inRange indexSucceeds
          -- the last attempt is the only one left that can be the first
          have isLast : index = made + 1 := by
            rcases Nat.lt_trichotomy index made with before | rfl | after
            · exact absurd indexSucceeds (failed index before)
            · exact absurd indexSucceeds succeeds
            · omega
          subst isLast
          have first : FirstSuccess attempts (made + 1) :=
            ⟨indexSucceeds, failedBefore_succ failed succeeds⟩
          have inTime := (condition (made + 1) (by omega) first).1
          omega
  | succ remaining inductionHypothesis =>
      by_cases succeeds : Succeeds (attempts made)
      · have first : FirstSuccess attempts made := ⟨succeeds, failed⟩
        rw [endsRight_of_firstSuccess correct _ (by omega) neverSet first]
        exact (first.forall_iff (remaining + 1)).symm
      · obtain ⟨tested, invalid, testedNeverSet⟩ :=
          yearInvalid_of_fails neverSet (by omega) succeeds
        rw [validateYear, Nat.add_sub_cancel, invalid]
        simp only [Nat.add_eq_zero_iff, one_ne_zero, and_false, if_false]
        rw [inductionHypothesis (made + 1) (by omega) tested
          testedNeverSet (failedBefore_succ failed succeeds)]
        rw [show made + 1 + remaining = made + (remaining + 1) by omega]

/-- The validation does what it is for exactly when an attempt that sets the
clock within the attempts it makes comes before the last of them and shows a
year before 2021. -/
theorem validateClock_endsRight_iff
    (attempts : Nat → Attempt)
    (correct : ∀ index, CorrectReply (attempts index).reply) :
    EndsRight attempts (validateClock attempts) ↔
      ∀ index < 4, FirstSuccess attempts index →
        index < 3 ∧ secondsAtTest (attempts index) < startOf2021 :=
  endsRight_validateYear_iff attempts correct 2 0 (by omega)
    TimeLib.initial (Nat.le_refl 0) (by simp)

private def packetOf (first second third fourth : UInt8) : Bytes :=
  List.replicate 40 0 ++ [first, second, third, fourth] ++
    List.replicate 4 0

private def attemptWith (reply : Option Bytes) : Attempt :=
  ⟨20000, reply, 40, 50, 50, by omega, by omega⟩

private def june2019 : Bytes := packetOf 0xE0 0x9C 0xE7 0x40

private def june2021 : Bytes := packetOf 0xE4 0x60 0x9F 0xC0

private theorem june2019_correct : CarriesTime june2019 1559390400 :=
  ⟨by decide, by decide, by decide, by decide⟩

private theorem june2021_correct : CarriesTime june2021 1622548800 :=
  ⟨by decide, by decide, by decide, by decide⟩

theorem validateClock_endsRight_iff_june2019 :
    EndsRight (fun _ => attemptWith (some june2019))
      (validateClock fun _ => attemptWith (some june2019)) := by
  have correct : CorrectReply (some june2019) := by
    rintro packet ⟨⟩
    exact ⟨_, june2019_correct⟩
  refine (validateClock_endsRight_iff _ fun _ => correct).mpr ?_
  intro index _ first
  have isFirst : index = 0 := by
    by_contra later
    exact first.2 0 (by omega) first.1
  subst isFirst
  exact ⟨by decide, by decide⟩

theorem not_validateClock_endsRight_june2021 :
    (∀ index, CorrectReply
      ((fun _ : Nat => attemptWith (some june2021)) index).reply) ∧
    ¬ EndsRight (fun _ => attemptWith (some june2021))
      (validateClock fun _ => attemptWith (some june2021)) := by
  have correct : CorrectReply (some june2021) := by
    rintro packet ⟨⟩
    exact ⟨_, june2021_correct⟩
  refine ⟨fun _ => correct, ?_⟩
  have first : FirstSuccess (fun _ => attemptWith (some june2021)) 0 :=
    ⟨by decide, by simp⟩
  have neverSet : NeverSet 0 TimeLib.initial := Nat.le_refl 0
  have verdict := endsRight_of_firstSuccess (fun _ => correct) 2
    (by omega) neverSet first
  have late : startOf2021 ≤ secondsAtTest (attemptWith (some june2021)) := by
    decide
  rw [validateClock, verdict, Nat.not_lt]
  exact late

end FunnelDispenser.Time
