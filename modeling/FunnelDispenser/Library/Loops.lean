import FunnelDispenser.Library.StepRuns

/-!
# Loops that read from outside

A loop takes a step per round until a step halts, and each round may read an
observation of its own from an unbounded stream.  Whether the loop ends is a
question about the whole stream.  It does not when an invariant never lets it
go; and where every step either waits or comes nearer to the end, it ends as
soon as every wait does.
-/

namespace FunnelDispenser.Loops

open StepRuns

universe u v w

section Loops

variable {Input : Type w} {State : Type u} {Result : Type v}
variable (step : Input → State → Outcome State Result)
variable (observed : Nat → Input)

/-- At most `fuel` rounds, the first of them number `made`.  The result comes
with the number of the round that halts; `none` means not yet. -/
def rounds : (fuel made : Nat) → State → Option (Nat × Result)
  | 0, _, _ => none
  | fuel + 1, made, state =>
      match step (observed made) state with
      | .again next => rounds fuel (made + 1) next
      | .halted result => some (made, result)

def Ends (state : State) : Prop :=
  ∃ fuel, (rounds step observed fuel 0 state).isSome

/-- Round `made` starts from `state`. -/
inductive ReachedAt (start : State) : Nat → State → Prop where
  | start : ReachedAt start 0 start
  | again {made : Nat} {state next : State}
      (reached : ReachedAt start made state)
      (stepped : step (observed made) state = .again next) :
      ReachedAt start (made + 1) next

variable {step observed}

theorem rounds_again {fuel made : Nat} {state next : State}
    (stepped : step (observed made) state = .again next) :
    rounds step observed (fuel + 1) made state =
      rounds step observed fuel (made + 1) next := by
  simp only [rounds, stepped]

theorem rounds_halted {fuel made : Nat} {state : State} {result : Result}
    (stepped : step (observed made) state = .halted result) :
    rounds step observed (fuel + 1) made state = some (made, result) := by
  simp only [rounds, stepped]

/-- A loop that always goes on from states it never leaves does not end. -/
theorem not_ends_of_invariant (invariant : State → Prop)
    (goesOn : ∀ made state, invariant state →
      ∃ next, step (observed made) state = .again next ∧ invariant next)
    {state : State} (initial : invariant state) :
    ¬ Ends step observed state := by
  have general : ∀ fuel made state, invariant state →
      rounds step observed fuel made state = none := by
    intro fuel
    induction fuel with
    | zero => intros; rfl
    | succ fuel inductionHypothesis =>
        intro made state holds
        obtain ⟨next, stepped, kept⟩ := goesOn made state holds
        rw [rounds_again stepped]
        exact inductionHypothesis (made + 1) next kept
  rintro ⟨fuel, ended⟩
  rw [general fuel 0 state initial] at ended
  cases ended

theorem ReachedAt.ends {start state : State} {made : Nat}
    (reached : ReachedAt step observed start made state)
    (ends : Ends step observed start) :
    ∃ fuel, (rounds step observed fuel made state).isSome := by
  induction reached with
  | start => exact ends
  | again _ stepped inductionHypothesis =>
      obtain ⟨fuel, ended⟩ := inductionHypothesis
      cases fuel with
      | zero => cases ended
      | succ fuel =>
          rw [rounds_again stepped] at ended
          exact ⟨fuel, ended⟩

section Waiting

variable {released : State → Input → Prop}
variable (stays : ∀ made state, ¬ released state (observed made) →
  step (observed made) state = .again state)
include stays

theorem exists_released_of_isSome {fuel made : Nat} {state : State}
    (ended : (rounds step observed fuel made state).isSome) :
    ∃ later, made ≤ later ∧ released state (observed later) := by
  induction fuel generalizing made with
  | zero => cases ended
  | succ fuel inductionHypothesis =>
      by_cases now : released state (observed made)
      · exact ⟨made, Nat.le_refl _, now⟩
      · rw [rounds_again (stays made state now)] at ended
        obtain ⟨later, behind, release⟩ := inductionHypothesis ended
        exact ⟨later, by omega, release⟩

/-- Waiting in a reached state leads to the round of its release. -/
theorem ReachedAt.waits {start state : State} {made later : Nat}
    (reached : ReachedAt step observed start made state)
    (behind : made ≤ later) (release : released state (observed later)) :
    ∃ round, ReachedAt step observed start round state ∧
      released state (observed round) ∧
      ∀ fuel, (rounds step observed fuel round state).isSome →
        ∃ more, (rounds step observed more made state).isSome := by
  obtain ⟨left, rfl⟩ := Nat.exists_eq_add_of_le behind
  clear behind
  induction left generalizing made with
  | zero => exact ⟨made, reached, release, fun fuel ended => ⟨fuel, ended⟩⟩
  | succ left inductionHypothesis =>
      by_cases now : released state (observed made)
      · exact ⟨made, reached, now, fun fuel ended => ⟨fuel, ended⟩⟩
      · have stepped := stays made state now
        have sameRound : made + (left + 1) = made + 1 + left := by omega
        rw [sameRound] at release
        obtain ⟨round, atRound, released, ends⟩ :=
          inductionHypothesis (reached.again stepped) release
        refine ⟨round, atRound, released, fun fuel ended => ?_⟩
        obtain ⟨more, endsLater⟩ := ends fuel ended
        exact ⟨more + 1, by rw [rounds_again stepped]; exact endsLater⟩

variable (released) (rank : State → Nat)
variable (advances : ∀ made state, released state (observed made) →
  (∃ next, step (observed made) state = .again next ∧
    rank next < rank state) ∨
  ∃ result, step (observed made) state = .halted result)
include advances

/-- The waiting rule.  Every step waits in its state, lowers the rank or
halts; the loop ends exactly when no state it reaches waits for ever. -/
theorem ends_iff_released {start : State} :
    Ends step observed start ↔
      ∀ made state, ReachedAt step observed start made state →
        ∃ later, made ≤ later ∧ released state (observed later) := by
  constructor
  · intro ends made state reached
    obtain ⟨fuel, ended⟩ := reached.ends ends
    exact exists_released_of_isSome stays ended
  · intro release
    have general : ∀ bound made state,
        ReachedAt step observed start made state → rank state < bound →
          ∃ fuel, (rounds step observed fuel made state).isSome := by
      intro bound
      induction bound with
      | zero =>
          intro made state _ below
          exact absurd below (Nat.not_lt_zero _)
      | succ bound inductionHypothesis =>
          intro made state reached below
          obtain ⟨later, behind, releasedLater⟩ := release made state reached
          obtain ⟨round, atRound, released, ends⟩ :=
            reached.waits stays behind releasedLater
          rcases advances round state released with
            ⟨next, stepped, lower⟩ | ⟨result, stepped⟩
          · obtain ⟨fuel, ended⟩ := inductionHypothesis (round + 1) next
              (atRound.again stepped) (by omega)
            apply ends (fuel + 1)
            rw [rounds_again stepped]
            exact ended
          · apply ends 1
            rw [rounds_halted stepped]
            rfl
    exact general (rank start + 1) 0 start .start (Nat.lt_succ_self _)

end Waiting

end Loops

end FunnelDispenser.Loops
