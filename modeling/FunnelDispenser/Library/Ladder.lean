import Mathlib

/-!
# Ladders of resources

A ladder has a step on each rung, and every step but the top one acquires what
the step above it needs.  When a step fails, what is below it is released and
acquired again, from the rung directly below first and then from ever lower
ones.  `loop` does this with a mark on each rung that was climbed again;
`recover` says the same without marks, as one straight climb from each rung.
-/

namespace FunnelDispenser.Ladder

universe u

section Steps

variable {World : Type u} (top : Nat)
variable (attempt : Nat → World → Bool × World)
variable (release : Nat → World → World)

/-- Going down from a rung releases what the rung below acquired. -/
def leave : (rung : Nat) → World → World
  | 0, world => world
  | below + 1, world => release below world

/-- At `position` 0 the ladder is left, and at `rung + 1` the step of `rung` is
due.  A rung that is marked was climbed again already. -/
def loop : (rounds : Nat) → (position : Nat) → (tried : Nat → Bool) →
    World → Option (Bool × World)
  | _, 0, _, world => some (false, world)
  | 0, _ + 1, _, _ => none
  | rounds + 1, rung + 1, tried, world =>
      let asked := if tried rung then (false, world) else attempt rung world
      if asked.1 then
        if rung = top then
          some (true, asked.2)
        else
          loop rounds (rung + 2)
            (Function.update (Function.update tried rung true) (rung + 1)
              false) asked.2
      else
        loop rounds rung (Function.update tried rung false)
          (leave release rung asked.2)

/-- Climb straight up; the rung whose step fails, if one does. -/
def climb : (remaining : Nat) → (rung : Nat) → World → Option Nat × World
  | 0, rung, world =>
      let asked := attempt rung world
      (if asked.1 then none else some rung, asked.2)
  | remaining + 1, rung, world =>
      let asked := attempt rung world
      if asked.1 then
        climb remaining (rung + 1) asked.2
      else
        (some rung, asked.2)

/-- Leave `count` rungs, down to `low` and that one too. -/
def descend (low : Nat) : (count : Nat) → World → World
  | 0, world => world
  | count + 1, world => descend low count (leave release (low + count) world)

/-- One straight climb from each rung, from the one below `position` down. -/
def recover : (position : Nat) → World → Bool × World
  | 0, world => (false, world)
  | start + 1, world =>
      match climb attempt (top - start) start world with
      | (none, reached) => (true, reached)
      | (some failed, stuck) =>
          recover start (descend release start (failed - start + 1) stuck)

end Steps

section Loop

variable {World : Type u} {top : Nat}
variable {attempt : Nat → World → Bool × World}
variable {release : Nat → World → World}

theorem loop_left (rounds : Nat) (tried : Nat → Bool) (world : World) :
    loop top attempt release rounds 0 tried world = some (false, world) := by
  cases rounds <;> rfl

theorem loop_falls {start : Nat} (count rounds : Nat) {tried : Nat → Bool}
    (marked : ∀ rung, start ≤ rung → rung < start + count →
      tried rung = true)
    (world : World) :
    ∃ marks : Nat → Bool, (∀ rung < start, marks rung = tried rung) ∧
      loop top attempt release (rounds + count) (start + count) tried world =
        loop top attempt release rounds start marks
          (descend release start count world) := by
  induction count generalizing tried world with
  | zero => exact ⟨tried, fun _ _ => rfl, rfl⟩
  | succ count inductionHypothesis =>
      have here : tried (start + count) = true :=
        marked _ (Nat.le_add_right _ _) (by omega)
      have markedBelow : ∀ rung, start ≤ rung → rung < start + count →
          Function.update tried (start + count) false rung = true := by
        intro rung above inside
        rw [Function.update_of_ne (by omega)]
        exact marked rung above (by omega)
      obtain ⟨marks, below, falls⟩ := inductionHypothesis markedBelow
        (leave release (start + count) world)
      refine ⟨marks, fun rung low => ?_, ?_⟩
      · rw [below rung low, Function.update_of_ne (by omega)]
      · rw [← Nat.add_assoc, ← Nat.add_assoc, loop, here]
        exact falls

/-- A step that fails is given up together with the marked rungs below it. -/
theorem loop_fails {start needed : Nat} {outcome : World → Bool × World}
    (lands : ∀ rounds (tried : Nat → Bool) world, needed ≤ rounds →
      (∀ rung < start, tried rung = false) →
        loop top attempt release rounds start tried world =
          some (outcome world))
    (count rounds : Nat) (enough : needed + count < rounds)
    {tried : Nat → Bool} (due : tried (start + count) = false)
    (marked : ∀ rung, start ≤ rung → rung < start + count →
      tried rung = true)
    (clear : ∀ rung < start, tried rung = false) {world : World}
    (failed : (attempt (start + count) world).1 = false) :
    loop top attempt release rounds (start + count + 1) tried world =
      some (outcome (descend release start (count + 1)
        (attempt (start + count) world).2)) := by
  obtain ⟨others, rfl⟩ : ∃ others, rounds = others + count + 1 :=
    ⟨rounds - count - 1, by omega⟩
  have markedBelow : ∀ rung, start ≤ rung → rung < start + count →
      Function.update tried (start + count) false rung = true := by
    intro rung above inside
    rw [Function.update_of_ne (by omega)]
    exact marked rung above inside
  obtain ⟨marks, below, falls⟩ :=
    @loop_falls World top attempt release start count others _ markedBelow
      (leave release (start + count) (attempt (start + count) world).2)
  have unmarked : ∀ rung < start, marks rung = false := by
    intro rung low
    rw [below rung low, Function.update_of_ne (by omega)]
    exact clear rung low
  rw [loop, due]
  simp only [Bool.false_eq_true, if_false, failed]
  rw [falls, descend]
  exact lands others marks _ (by omega) unmarked

/-- A climb ends at the top, or goes on below its start. -/
theorem loop_climbs {start needed : Nat} {outcome : World → Bool × World}
    (lands : ∀ rounds (tried : Nat → Bool) world, needed ≤ rounds →
      (∀ rung < start, tried rung = false) →
        loop top attempt release rounds start tried world =
          some (outcome world))
    (remaining count rounds : Nat) (height : start + count + remaining = top)
    (enough : needed + (remaining + 1) + (top - start) ≤ rounds)
    {tried : Nat → Bool} (due : tried (start + count) = false)
    (marked : ∀ rung, start ≤ rung → rung < start + count →
      tried rung = true)
    (clear : ∀ rung < start, tried rung = false) (world : World) :
    loop top attempt release rounds (start + count + 1) tried world =
      some (match climb attempt remaining (start + count) world with
        | (none, reached) => (true, reached)
        | (some failed, stuck) =>
            outcome (descend release start (failed - start + 1) stuck)) := by
  have back : start + count - start = count := Nat.add_sub_cancel_left ..
  induction remaining generalizing count rounds tried world with
  | zero =>
      by_cases climbed : (attempt (start + count) world).1 = true
      · obtain ⟨others, rfl⟩ : ∃ others, rounds = others + 1 :=
          ⟨rounds - 1, by omega⟩
        rw [loop, due, climb]
        simp only [Bool.false_eq_true, if_false, climbed, if_true]
        rw [if_pos (by omega)]
      · rw [Bool.not_eq_true] at climbed
        rw [loop_fails lands count rounds (by omega) due marked clear climbed,
          climb]
        simp only [climbed, Bool.false_eq_true, if_false, back]
  | succ remaining inductionHypothesis =>
      by_cases climbed : (attempt (start + count) world).1 = true
      · obtain ⟨others, rfl⟩ : ∃ others, rounds = others + 1 :=
          ⟨rounds - 1, by omega⟩
        rw [loop, due, climb]
        simp only [Bool.false_eq_true, if_false, climbed, if_true]
        rw [if_neg (by omega)]
        apply inductionHypothesis (count + 1) others (by omega) (by omega)
        · exact Function.update_self ..
        · intro rung above inside
          rw [Function.update_of_ne (by omega)]
          by_cases last : rung = start + count
          · rw [last, Function.update_self]
          · rw [Function.update_of_ne last]
            exact marked rung above (by omega)
        · intro rung low
          rw [Function.update_of_ne (by omega),
            Function.update_of_ne (by omega)]
          exact clear rung low
        · exact Nat.add_sub_cancel_left ..
      · rw [Bool.not_eq_true] at climbed
        rw [loop_fails lands count rounds (by omega) due marked clear climbed,
          climb]
        simp only [climbed, Bool.false_eq_true, if_false, back]

/-- Without marks at first, the loop is the recovery.  The induction is on the
position; each climb and the fall behind it take at most `2 * top + 1`
rounds. -/
theorem loop_eq_recover {position : Nat} (inside : position ≤ top + 1)
    (rounds : Nat) (enough : position * (2 * top + 1) ≤ rounds)
    {tried : Nat → Bool} (clear : ∀ rung < position, tried rung = false)
    (world : World) :
    loop top attempt release rounds position tried world =
      some (recover top attempt release position world) := by
  induction position generalizing rounds tried world with
  | zero => exact loop_left rounds tried world
  | succ start inductionHypothesis =>
      rw [Nat.succ_mul] at enough
      have lands : ∀ rounds (tried : Nat → Bool) world,
          start * (2 * top + 1) ≤ rounds →
            (∀ rung < start, tried rung = false) →
              loop top attempt release rounds start tried world =
                some (recover top attempt release start world) :=
        fun rounds tried world enough clear =>
          inductionHypothesis (by omega) rounds enough clear world
      rw [recover]
      exact loop_climbs lands (top - start) 0 rounds (by omega) (by omega)
        (clear start (Nat.lt_succ_self start))
        (fun rung above inside => absurd inside (Nat.not_lt.mpr above))
        (fun rung low => clear rung (Nat.lt_succ_of_lt low)) world

end Loop

section Held

variable {World : Type u} {top : Nat}
variable {attempt : Nat → World → Bool × World}
variable {release : Nat → World → World}

/-- A predicate on the rung that is stood on, as the steps change it. -/
structure Holds (top : Nat) (attempt : Nat → World → Bool × World)
    (release : Nat → World → World) (holds : Nat → World → Prop) : Prop where
  climbs : ∀ rung world, rung < top → holds rung world →
    (attempt rung world).1 = true → holds (rung + 1) (attempt rung world).2
  fails : ∀ rung world, holds rung world → (attempt rung world).1 = false →
    holds rung (attempt rung world).2
  reaches : ∀ world, holds top world → (attempt top world).1 = true →
    holds top (attempt top world).2
  releases : ∀ rung world, holds (rung + 1) world →
    holds rung (release rung world)

variable {holds : Nat → World → Prop}

theorem Holds.leave (kept : Holds top attempt release holds) {rung : Nat}
    {world : World} (held : holds rung world) :
    holds (rung - 1) (leave release rung world) := by
  cases rung with
  | zero => exact held
  | succ below => exact kept.releases below world held

theorem Holds.descend (kept : Holds top attempt release holds)
    {low count : Nat} {world : World} (held : holds (low + count) world) :
    holds (low - 1) (descend release low (count + 1) world) := by
  induction count generalizing world with
  | zero => exact kept.leave held
  | succ count inductionHypothesis =>
      rw [Ladder.descend]
      exact inductionHypothesis (kept.leave held)

theorem Holds.climb (kept : Holds top attempt release holds)
    {remaining rung : Nat} (height : rung + remaining = top) {world : World}
    (held : holds rung world) :
    match climb attempt remaining rung world with
    | (none, reached) => holds top reached
    | (some failed, stuck) => rung ≤ failed ∧ holds failed stuck := by
  induction remaining generalizing rung world with
  | zero =>
      obtain rfl : rung = top := height
      rw [Ladder.climb]
      by_cases climbed : (attempt rung world).1 = true
      · simp only [climbed, if_true]
        exact kept.reaches world held climbed
      · rw [Bool.not_eq_true] at climbed
        simp only [climbed, Bool.false_eq_true, if_false]
        exact ⟨Nat.le_refl _, kept.fails rung world held climbed⟩
  | succ remaining inductionHypothesis =>
      rw [Ladder.climb]
      by_cases climbed : (attempt rung world).1 = true
      · simp only [climbed, if_true]
        have above := inductionHypothesis (by omega)
          (kept.climbs rung world (by omega) held climbed)
        generalize Ladder.climb attempt remaining (rung + 1)
          (attempt rung world).2 = ended at above ⊢
        obtain ⟨failed, later⟩ := ended
        cases failed with
        | none => exact above
        | some failed => exact ⟨by omega, above.2⟩
      · rw [Bool.not_eq_true] at climbed
        simp only [climbed, Bool.false_eq_true, if_false]
        exact ⟨Nat.le_refl _, kept.fails rung world held climbed⟩

theorem Holds.recover (kept : Holds top attempt release holds)
    {position : Nat} (inside : position ≤ top + 1) {world : World}
    (held : holds (position - 1) world) :
    if (recover top attempt release position world).1 then
      holds top (recover top attempt release position world).2
    else
      holds 0 (recover top attempt release position world).2 := by
  induction position generalizing world with
  | zero => exact held
  | succ start inductionHypothesis =>
      have climbs := kept.climb (Nat.add_sub_of_le (Nat.le_of_succ_le_succ
        inside)) held
      rw [Ladder.recover]
      generalize Ladder.climb attempt (top - start) start world = ended
        at climbs ⊢
      obtain ⟨failed, later⟩ := ended
      cases failed with
      | none => exact climbs
      | some failed =>
          obtain ⟨above, stood⟩ := climbs
          rw [← Nat.add_sub_of_le above] at stood
          exact inductionHypothesis (by omega) (kept.descend stood)

end Held

section Count

variable {World : Type u} {top : Nat}
variable {attempt : Nat → World → Bool × World}
variable {release : Nat → World → World}
variable {count : World → Nat}

/-- Only the step of the top counts. -/
structure CountsTop (top : Nat) (attempt : Nat → World → Bool × World)
    (release : Nat → World → World) (count : World → Nat) : Prop where
  top_le : ∀ world, count (attempt top world).2 ≤ count world + 1
  below : ∀ rung world, rung < top →
    count (attempt rung world).2 = count world
  releases : ∀ rung world, count (release rung world) = count world

theorem CountsTop.leave (counts : CountsTop top attempt release count)
    (rung : Nat) (world : World) :
    count (leave release rung world) = count world := by
  cases rung with
  | zero => rfl
  | succ below => exact counts.releases below world

theorem CountsTop.descend (counts : CountsTop top attempt release count)
    (low steps : Nat) (world : World) :
    count (descend release low steps world) = count world := by
  induction steps generalizing world with
  | zero => rfl
  | succ steps inductionHypothesis =>
      rw [Ladder.descend, inductionHypothesis, counts.leave]

theorem CountsTop.climb (counts : CountsTop top attempt release count)
    {remaining rung : Nat} (height : rung + remaining = top)
    (world : World) :
    count (climb attempt remaining rung world).2 ≤ count world + 1 := by
  induction remaining generalizing rung world with
  | zero =>
      obtain rfl : rung = top := height
      exact counts.top_le world
  | succ remaining inductionHypothesis =>
      have same := counts.below rung world (by omega)
      rw [Ladder.climb]
      by_cases climbed : (attempt rung world).1 = true
      · simp only [climbed, if_true]
        rw [← same]
        exact inductionHypothesis (by omega) _
      · rw [if_neg climbed, same]
        exact Nat.le_succ _

theorem CountsTop.recover (counts : CountsTop top attempt release count)
    {position : Nat} (inside : position ≤ top + 1) (world : World) :
    count (recover top attempt release position world).2 ≤
      count world + position := by
  induction position generalizing world with
  | zero => exact Nat.le_refl _
  | succ start inductionHypothesis =>
      have once := counts.climb
        (Nat.add_sub_of_le (Nat.le_of_succ_le_succ inside)) world
      rw [Ladder.recover]
      generalize Ladder.climb attempt (top - start) start world = ended
        at once ⊢
      obtain ⟨failed, later⟩ := ended
      cases failed with
      | none => exact Nat.le_trans once (by omega)
      | some failed =>
          have further := inductionHypothesis (by omega)
            (Ladder.descend release start (failed - start + 1) later)
          rw [counts.descend] at further
          exact Nat.le_trans further (by simp only at once; omega)

end Count

end FunnelDispenser.Ladder
