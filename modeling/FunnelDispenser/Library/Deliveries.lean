import Mathlib.Data.List.Perm.Basic

/-!
# Deliveries

Items wait in line until they are settled with a verdict: from the front in
their order, or from anywhere when they expire.  Nothing is lost, nothing is
settled twice, and only what expires leaves out of turn.
-/

namespace FunnelDispenser.Deliveries

universe u v

/-- What waits, and what was settled so far. -/
structure Line (Item : Type u) (Verdict : Type v) where
  waiting : List Item
  settled : List (Item × Verdict)

variable {Item : Type u} {Verdict : Type v}

namespace Line

variable (line : Line Item Verdict)

def empty : Line Item Verdict :=
  ⟨[], []⟩

def submit (item : Item) : Line Item Verdict :=
  { line with waiting := line.waiting ++ [item] }

def settle (count : Nat) (verdict : Verdict) : Line Item Verdict where
  waiting := line.waiting.drop count
  settled := line.settled ++
    (line.waiting.take count).map fun item => (item, verdict)

/-- Settle the items that are late, wherever they stand. -/
def expire (late : Item → Bool) (verdict : Verdict) :
    Line Item Verdict where
  waiting := line.waiting.filter fun item => !late item
  settled := line.settled ++
    (line.waiting.filter late).map fun item => (item, verdict)

/-- The items that were settled, in the order of their verdicts. -/
def settledItems : List Item :=
  line.settled.map Prod.fst

end Line

open Line

theorem settle_zero (line : Line Item Verdict)
    (verdict : Verdict) : line.settle 0 verdict = line := by
  simp [settle]

theorem expire_none {line : Line Item Verdict}
    {late : Item → Bool} (early : ∀ item ∈ line.waiting,
      late item = false) (verdict : Verdict) :
    line.expire late verdict = line := by
  have kept : line.waiting.filter (fun item => !late item) =
      line.waiting :=
    List.filter_eq_self.mpr fun item member => by simp [early item member]
  have gone : line.waiting.filter late = [] :=
    List.filter_eq_nil_iff.mpr fun item member => by simp [early item member]
  rw [expire, kept, gone, List.map_nil, List.append_nil]

/-- These items were submitted on the way, and `lateness` is the verdict of
what expires. -/
inductive Leads (lateness : Verdict) :
    List Item → Line Item Verdict → Prop where
  | start : Leads lateness [] empty
  | submit {items : List Item} {line : Line Item Verdict}
      (item : Item) (leads : Leads lateness items line) :
      Leads lateness (items ++ [item]) (line.submit item)
  | settle {items : List Item} {line : Line Item Verdict}
      (count : Nat) {verdict : Verdict} (inTurn : verdict ≠ lateness)
      (leads : Leads lateness items line) :
      Leads lateness items (line.settle count verdict)
  | expire {items : List Item} {line : Line Item Verdict}
      (late : Item → Bool) (leads : Leads lateness items line) :
      Leads lateness items (line.expire late lateness)

section Laws

variable {lateness : Verdict} {items : List Item}
variable {line : Line Item Verdict}

/-- Every item waits or was settled, and only once. -/
theorem Leads.conserves (leads : Leads lateness items line) :
    (line.settledItems ++ line.waiting).Perm items := by
  induction leads with
  | start => exact .nil
  | submit item _ inductionHypothesis =>
      rw [settledItems, Line.submit, ← List.append_assoc]
      exact inductionHypothesis.append_right [item]
  | settle count _ _ inductionHypothesis =>
      simp only [settledItems, Line.settle, List.map_append,
        List.map_map, Function.comp_def, List.map_id', List.append_assoc,
        List.take_append_drop]
      exact inductionHypothesis
  | expire late _ inductionHypothesis =>
      simp only [settledItems, Line.expire, List.map_append,
        List.map_map, Function.comp_def, List.map_id', List.append_assoc]
      refine List.Perm.trans ?_ inductionHypothesis
      exact (List.filter_append_perm late _).append_left _

variable [DecidableEq Verdict]

/-- Apart from what expires the order is kept: settled first, then waiting. -/
theorem Leads.inOrder (leads : Leads lateness items line) :
    ((line.settled.filter fun entry => entry.2 ≠ lateness).map Prod.fst
      ++ line.waiting).Sublist items := by
  induction leads with
  | start => exact .slnil
  | submit item _ inductionHypothesis =>
      rw [Line.submit, ← List.append_assoc]
      exact inductionHypothesis.append (List.Sublist.refl [item])
  | @settle items line count verdict inTurn _ inductionHypothesis =>
      have counted : ((line.waiting.take count).map fun item =>
          (item, verdict)).filter (fun entry => entry.2 ≠ lateness) =
            (line.waiting.take count).map fun item =>
              (item, verdict) := by
        refine List.filter_eq_self.mpr fun entry member => ?_
        obtain ⟨item, _, rfl⟩ := List.mem_map.mp member
        simpa using inTurn
      simp only [Line.settle, List.filter_append, counted,
        List.map_append, List.map_map, Function.comp_def, List.map_id',
        List.append_assoc, List.take_append_drop]
      exact inductionHypothesis
  | @expire items line late _ inductionHypothesis =>
      have uncounted : ((line.waiting.filter late).map fun item =>
          (item, lateness)).filter (fun entry => entry.2 ≠ lateness) = [] := by
        refine List.filter_eq_nil_iff.mpr fun entry member => ?_
        obtain ⟨item, _, rfl⟩ := List.mem_map.mp member
        simp
      simp only [Line.expire, List.filter_append, uncounted,
        List.append_nil]
      exact ((List.Sublist.refl _).append List.filter_sublist).trans
        inductionHypothesis

/-- Without lateness deliveries are first in, first out. -/
theorem Leads.fifo (leads : Leads lateness items line)
    (punctual : ∀ entry ∈ line.settled, entry.2 ≠ lateness) :
    line.settledItems ++ line.waiting = items := by
  have ordered := leads.inOrder
  have all : (line.settled.filter fun entry => entry.2 ≠ lateness) =
      line.settled :=
    List.filter_eq_self.mpr fun entry member => by
      simpa using punctual entry member
  rw [all] at ordered
  exact ordered.eq_of_length leads.conserves.length_eq

end Laws

end FunnelDispenser.Deliveries
