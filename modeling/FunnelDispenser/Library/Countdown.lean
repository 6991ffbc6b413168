import Mathlib

/-!
# Sampled countdowns

A countdown that runs only while it is sampled.  A sample shows whether
something is left and then takes off the time since the sample before.  What
a sample shows therefore depends on the time charged by the earlier ones.
-/

namespace FunnelDispenser.Countdown

variable {Duration : Type*} [AddCommGroup Duration] [LinearOrder Duration]
  [IsOrderedAddMonoid Duration]

omit [IsOrderedAddMonoid Duration] in
/-- What a sample leaves; a countdown that is over stays at zero. -/
def sample (lapse remaining : Duration) : Duration :=
  if 0 < remaining then remaining - lapse else 0

omit [IsOrderedAddMonoid Duration] in
/-- What the samples show, one after the other. -/
def levels : Duration → List Duration → List Bool
  | _, [] => []
  | remaining, lapse :: rest =>
      decide (0 < remaining) :: levels (sample lapse remaining) rest

omit [IsOrderedAddMonoid Duration] in
private theorem levels_of_over
    {remaining : Duration} (ended : remaining ≤ 0) (lapses : List Duration)
    (index : Nat) (bound : index < lapses.length) :
    (levels remaining lapses)[index]? = some false := by
  induction lapses generalizing remaining index with
  | nil => exact absurd bound (Nat.not_lt_zero _)
  | cons lapse rest inductionHypothesis =>
      have empty : ¬ 0 < remaining := not_lt.mpr ended
      cases index with
      | zero => simp [levels, empty]
      | succ index =>
          rw [levels, List.getElem?_cons_succ, sample, if_neg empty]
          exact inductionHypothesis le_rfl index (by simpa using bound)

/-- A sample shows something left exactly when the samples before it have
charged less than there was. -/
theorem levels_getElem?
    (remaining : Duration) {lapses : List Duration}
    (forward : ∀ lapse ∈ lapses, 0 ≤ lapse)
    (index : Nat) (bound : index < lapses.length) :
    (levels remaining lapses)[index]? =
      some (decide ((lapses.take index).sum < remaining)) := by
  induction lapses generalizing remaining index with
  | nil => exact absurd bound (Nat.not_lt_zero _)
  | cons lapse rest inductionHypothesis =>
      have forwardRest : ∀ tested ∈ rest, 0 ≤ tested :=
        fun tested member => forward tested (List.mem_cons_of_mem _ member)
      cases index with
      | zero =>
          rw [levels, List.getElem?_cons_zero, List.take_zero, List.sum_nil]
      | succ index =>
          have boundRest : index < rest.length := by simpa using bound
          rw [levels, List.getElem?_cons_succ, List.take_succ_cons,
            List.sum_cons]
          by_cases left : 0 < remaining
          · rw [sample, if_pos left,
              inductionHypothesis _ forwardRest index boundRest]
            simp only [lt_sub_iff_add_lt']
          · have charged : 0 ≤ lapse + (rest.take index).sum :=
              add_nonneg (forward lapse List.mem_cons_self) <|
                List.sum_nonneg fun tested member =>
                  forwardRest tested (List.mem_of_mem_take member)
            have later : ¬ lapse + (rest.take index).sum < remaining :=
              not_lt.mpr (le_trans (not_lt.mp left) charged)
            rw [sample, if_neg left, levels_of_over le_rfl rest index
              boundRest, decide_eq_false later]

end FunnelDispenser.Countdown
