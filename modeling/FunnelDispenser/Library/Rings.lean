import Mathlib.Data.List.Cycle

/-!
# Rings of linked nodes

A ring is a cycle of nodes that are linked both ways, and a strand is a ring
cut open.  The one surgery is to join two nodes: it concatenates strands and
closes them.  What an operation does to a ring follows from the joins it is
made of.
-/

namespace FunnelDispenser.Rings

universe u

/-- A link forward and a link back for every node. -/
structure Links (Node : Type u) where
  flink : Node → Node
  blink : Node → Node

section Surgery

variable {Node : Type u} [DecidableEq Node]

def Links.setFlink (links : Links Node) (node target : Node) : Links Node :=
  { links with flink := Function.update links.flink node target }

def Links.setBlink (links : Links Node) (node target : Node) : Links Node :=
  { links with blink := Function.update links.blink node target }

/-- Make `second` the successor of `first`. -/
def Links.join (links : Links Node) (first second : Node) : Links Node :=
  (links.setFlink first second).setBlink second first

end Surgery

variable {Node : Type u}

def Linked (links : Links Node) (first second : Node) : Prop :=
  links.flink first = second ∧ links.blink second = first

def Strand (links : Links Node) (nodes : List Node) : Prop :=
  nodes.IsChain (Linked links)

/-- The nodes form a cycle in this order. -/
structure Ring (links : Links Node) (nodes : List Node) : Prop where
  chain : Cycle.Chain (Linked links) (nodes : Cycle Node)
  nodup : nodes.Nodup

section Shape

variable {links : Links Node} {front back nodes : List Node}
variable {first last : Node}

theorem Ring.rotate (front back : List Node)
    (ring : Ring links (front ++ back)) : Ring links (back ++ front) where
  chain := by
    rw [Cycle.coe_eq_coe.mpr (List.isRotated_append (l := back))]
    exact ring.chain
  nodup := List.nodup_append_comm.mp ring.nodup

theorem chain_iff_strand (occurs : last ∈ nodes.getLast?) :
    Cycle.Chain (Linked links) (nodes : Cycle Node) ↔
      Strand links nodes ∧ ∀ first ∈ nodes.head?, Linked links last first := by
  have nonempty : nodes ≠ [] := by
    rintro rfl
    cases occurs
  have same : nodes.getLast nonempty = last := by
    rw [List.getLast?_eq_getLast_of_ne_nil nonempty] at occurs
    exact Option.some.inj occurs
  rw [Cycle.chain_ne_nil _ nonempty, List.isChain_cons, same, and_comm]
  rfl

theorem ring_iff (occurs : last ∈ nodes.getLast?)
    (starts : first ∈ nodes.head?) :
    Ring links nodes ↔
      Strand links nodes ∧ Linked links last first ∧ nodes.Nodup := by
  have ends : Cycle.Chain (Linked links) (nodes : Cycle Node) ↔ _ :=
    chain_iff_strand occurs
  constructor
  · intro ring
    obtain ⟨strand, linked⟩ := ends.mp ring.chain
    exact ⟨strand, linked first starts, ring.nodup⟩
  · rintro ⟨strand, linked, nodup⟩
    refine ⟨ends.mpr ⟨strand, fun other member => ?_⟩, nodup⟩
    rw [Option.mem_unique member starts]
    exact linked

theorem Ring.strand (ring : Ring links (first :: nodes)) :
    Strand links (first :: nodes) := by
  obtain ⟨last, occurs⟩ : ∃ last, last ∈ (first :: nodes).getLast? :=
    Option.ne_none_iff_exists'.mp (by simp)
  exact ((ring_iff occurs rfl).mp ring).1

end Shape

section Joining

variable [DecidableEq Node] {links : Links Node} {front back nodes : List Node}
variable {first last other node : Node}

theorem linked_join (links : Links Node) (last first : Node) :
    Linked (links.join last first) last first :=
  ⟨Function.update_self .., Function.update_self ..⟩

theorem Linked.join {left right : Node} (linked : Linked links left right)
    (outward : left ≠ last) (inward : right ≠ first) :
    Linked (links.join last first) left right :=
  ⟨(Function.update_of_ne outward ..).trans linked.1,
    (Function.update_of_ne inward ..).trans linked.2⟩

/-- A join does not touch a strand that it leaves or enters at the ends
only. -/
theorem Strand.join (strand : Strand links nodes) (nodup : nodes.Nodup)
    (outward : last ∈ nodes → last ∈ nodes.getLast?)
    (inward : first ∈ nodes → first ∈ nodes.head?) :
    Strand (links.join last first) nodes := by
  refine List.isChain_iff_forall_rel_of_append_cons_cons.mpr ?_
  rintro left right before behind rfl
  have linked := List.isChain_iff_forall_rel_of_append_cons_cons.mp strand rfl
  refine linked.join ?_ ?_
  · rintro rfl
    have occurs := outward (by simp)
    rw [List.getLast?_append_of_ne_nil _ (by simp),
      List.getLast?_cons_cons] at occurs
    have again := List.mem_of_mem_getLast? occurs
    have fresh := (List.nodup_append.mp nodup).2.1
    exact (List.nodup_cons.mp fresh).1 again
  · rintro rfl
    have starts := inward (by simp)
    cases before with
    | nil =>
        have same : left = right := by simpa using starts
        have fresh := (List.nodup_append.mp nodup).2.1
        rw [same] at fresh
        exact (List.nodup_cons.mp fresh).1 List.mem_cons_self
    | cons head rest =>
        have same : head = right := by simpa using starts
        rw [same] at nodup
        exact (List.nodup_cons.mp nodup).1 (by simp)

/-- Joining the end of one strand to the start of another makes one strand of
them. -/
theorem Strand.append (strand : Strand links front)
    (following : Strand links back) (nodup : (front ++ back).Nodup)
    (ends : last ∈ front.getLast?) (starts : first ∈ back.head?) :
    Strand (links.join last first) (front ++ back) := by
  obtain ⟨nodupFront, nodupBack, apart⟩ := List.nodup_append.mp nodup
  have lastMember := List.mem_of_mem_getLast? ends
  have firstMember := List.mem_of_mem_head? starts
  refine List.isChain_append.mpr ⟨?_, ?_, ?_⟩
  · refine strand.join nodupFront (fun _ => ends) fun member => ?_
    exact absurd rfl (apart first member first firstMember)
  · refine following.join nodupBack (fun member => ?_) fun _ => starts
    exact absurd rfl (apart last lastMember last member)
  · intro left isLast right isFirst
    rw [Option.mem_unique isLast ends, Option.mem_unique isFirst starts]
    exact linked_join links last first

theorem Strand.close (strand : Strand links nodes) (nodup : nodes.Nodup)
    (ends : last ∈ nodes.getLast?) (starts : first ∈ nodes.head?) :
    Ring (links.join last first) nodes :=
  (ring_iff ends starts).mpr
    ⟨strand.join nodup (fun _ => ends) fun _ => starts,
      linked_join links last first, nodup⟩

omit [DecidableEq Node] in
theorem Ring.of_agree {changed : Links Node} (ring : Ring links nodes)
    (agree : ∀ node ∈ nodes, changed.flink node = links.flink node ∧
      changed.blink node = links.blink node) :
    Ring changed nodes := by
  cases nodes with
  | nil => exact ⟨Cycle.Chain.nil _, List.nodup_nil⟩
  | cons first rest =>
      have inside : ∀ node ∈ first :: (rest ++ [first]),
          node ∈ first :: rest := by
        intro node member
        simpa [or_comm, or_assoc] using member
      refine ⟨(Cycle.chain_coe_cons _ _ _).mpr ?_, ring.nodup⟩
      refine ((Cycle.chain_coe_cons _ _ _).mp ring.chain).imp_of_mem_imp ?_
      intro left right isLeft isRight linked
      exact ⟨(agree left (inside left isLeft)).1.trans linked.1,
        (agree right (inside right isRight)).2.trans linked.2⟩

theorem Ring.join (ring : Ring links nodes) (outward : last ∉ nodes)
    (inward : first ∉ nodes) : Ring (links.join last first) nodes :=
  ring.of_agree fun _ member =>
    ⟨Function.update_of_ne (ne_of_mem_of_not_mem member outward) ..,
      Function.update_of_ne (ne_of_mem_of_not_mem member inward) ..⟩

omit [DecidableEq Node] in
theorem Ring.flink_eq (ring : Ring links (node :: other :: nodes)) :
    links.flink node = other :=
  (List.isChain_cons_cons.mp ring.strand).1.1

omit [DecidableEq Node] in
theorem Ring.flink_singleton (ring : Ring links [node]) :
    links.flink node = node :=
  ((ring_iff rfl rfl).mp ring).2.1.1

omit [DecidableEq Node] in
theorem Ring.blink_eq (ring : Ring links (node :: nodes))
    (ends : last ∈ (node :: nodes).getLast?) : links.blink node = last :=
  ((ring_iff ends rfl).mp ring).2.1.2

omit [DecidableEq Node] in
theorem exists_last (node : Node) (nodes : List Node) :
    ∃ last, last ∈ (node :: nodes).getLast? :=
  Option.ne_none_iff_exists'.mp (by simp)

omit [DecidableEq Node] in
/-- The node behind the head is the first one, or the head of an empty
ring. -/
theorem Ring.flink_head (ring : Ring links (node :: nodes)) :
    links.flink node = nodes.head?.getD node := by
  cases nodes with
  | nil => exact ring.flink_singleton
  | cons other rest => exact ring.flink_eq

omit [DecidableEq Node] in
theorem Ring.flink_mem (ring : Ring links nodes) (member : node ∈ nodes) :
    links.flink node ∈ nodes := by
  obtain ⟨before, behind, rfl⟩ := List.append_of_mem member
  have turned : Ring links (node :: (behind ++ before)) :=
    ring.rotate before (node :: behind)
  rw [turned.flink_head]
  cases behind with
  | nil => cases before <;> simp
  | cons other rest => simp

omit [DecidableEq Node] in
theorem Ring.blink_mem (ring : Ring links nodes) (member : node ∈ nodes) :
    links.blink node ∈ nodes := by
  obtain ⟨before, behind, rfl⟩ := List.append_of_mem member
  have turned : Ring links (node :: (behind ++ before)) :=
    ring.rotate before (node :: behind)
  obtain ⟨last, ends⟩ := exists_last node (behind ++ before)
  rw [turned.blink_eq ends]
  have inside := List.mem_of_mem_getLast? ends
  rw [List.mem_append, or_comm, ← List.mem_append]
  exact inside

end Joining

section Operations

variable [DecidableEq Node] {links : Links Node} {nodes guests : List Node}
variable {head node guest : Node}

theorem ring_join_self (links : Links Node) (node : Node) :
    Ring (links.join node node) [node] :=
  Strand.close (List.isChain_singleton node) (List.nodup_singleton node) rfl
    rfl

/-- A node that is new in the ring goes in front of its head. -/
theorem Ring.push (ring : Ring links (head :: nodes))
    (fresh : node ∉ head :: nodes) :
    Ring ((links.join (links.blink head) node).join node head)
      (head :: nodes ++ [node]) := by
  obtain ⟨last, ends⟩ := exists_last head nodes
  have nodup : (head :: nodes ++ [node]).Nodup :=
    List.nodup_append_comm.mp (List.nodup_cons.mpr ⟨fresh, ring.nodup⟩)
  rw [ring.blink_eq ends]
  have strand := ring.strand.append (List.isChain_singleton node) nodup ends
    rfl
  refine strand.close nodup ?_ rfl
  rw [List.getLast?_append_of_ne_nil _ (List.cons_ne_nil _ _)]
  rfl

/-- A node leaves the ring when its neighbours are joined. -/
theorem Ring.remove (ring : Ring links (node :: nodes))
    (others : nodes ≠ []) :
    Ring (links.join (links.blink node) (links.flink node)) nodes := by
  obtain ⟨head, rest, rfl⟩ := List.exists_cons_of_ne_nil others
  obtain ⟨last, ends⟩ := exists_last head rest
  have strand : Strand links (head :: rest) :=
    (List.isChain_cons_cons.mp ring.strand).2
  rw [ring.flink_eq,
    ring.blink_eq (by rw [List.getLast?_cons_cons]; exact ends)]
  exact strand.close (List.nodup_cons.mp ring.nodup).2 ends rfl

/-- Two rings become one. -/
theorem Ring.splice (ring : Ring links (head :: nodes))
    (other : Ring links (guest :: guests))
    (apart : (head :: nodes).Disjoint (guest :: guests)) :
    Ring ((links.join (links.blink head) guest).join (links.blink guest) head)
      (head :: nodes ++ guest :: guests) := by
  obtain ⟨last, ends⟩ := exists_last head nodes
  obtain ⟨lastGuest, endsGuest⟩ := exists_last guest guests
  have nodup : (head :: nodes ++ guest :: guests).Nodup :=
    ring.nodup.append other.nodup apart
  rw [ring.blink_eq ends, other.blink_eq endsGuest]
  have strand := ring.strand.append other.strand nodup ends rfl
  refine strand.close nodup ?_ rfl
  rw [List.getLast?_append_of_ne_nil _ (List.cons_ne_nil _ _)]
  exact endsGuest

end Operations

end FunnelDispenser.Rings
