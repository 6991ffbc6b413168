import FunnelDispenser.Library.Rings

/-!
# The doubly linked lists of the client

A list is a ring with a head that carries no entry.  Each routine is a few
assignments to links; on lists that are properly formed it does what its name
says, and leaves every other list alone.
-/

namespace FunnelDispenser.Transport

open Rings

universe u

variable {Address : Type u} [DecidableEq Address]

def initializeListHead (listHead : Address) (links : Links Address) :
    Links Address :=
  (links.setBlink listHead listHead).setFlink listHead listHead

def isListEmpty (listHead : Address) (links : Links Address) : Bool :=
  links.flink listHead = listHead

/-- `DList_RemoveEntryList`; the result tells whether the rest is empty. -/
def removeEntryList (entry : Address) (links : Links Address) :
    Bool × Links Address :=
  let flink := links.flink entry
  let blink := links.blink entry
  (flink = blink, (links.setFlink blink flink).setBlink flink blink)

/-- `DList_RemoveHeadList`; the result is the entry removed, or the head of an
empty list. -/
def removeHeadList (listHead : Address) (links : Links Address) :
    Address × Links Address :=
  let entry := links.flink listHead
  let flink := links.flink entry
  (entry, (links.setFlink listHead flink).setBlink flink listHead)

def insertTailList (listHead entry : Address) (links : Links Address) :
    Links Address :=
  let blink := links.blink listHead
  (((links.setFlink entry listHead).setBlink entry blink).setFlink blink
    entry).setBlink listHead entry

def appendTailList (listHead listToAppend : Address)
    (links : Links Address) : Links Address :=
  let listEnd := links.blink listHead
  let first := links.setFlink (links.blink listHead) listToAppend
  let second := first.setBlink listHead (first.blink listToAppend)
  let third := second.setFlink (second.blink listToAppend) listHead
  third.setBlink listToAppend listEnd

/-- Put the entries of `source` in front of those of `destination`, in their
order. -/
def reversePutListBackIn (source destination : Address)
    (links : Links Address) : Links Address :=
  let appended :=
    appendTailList (links.flink destination) source links
  initializeListHead source (removeEntryList source appended).2

/-- A properly formed list with these entries. -/
def ListHolds (links : Links Address) (listHead : Address)
    (entries : List Address) : Prop :=
  Ring links (listHead :: entries)

section Lists

variable {links : Links Address} {listHead entry : Address}
variable {entries : List Address}

theorem listHolds_newHead (links : Links Address) (listHead : Address) :
    ListHolds (initializeListHead listHead links) listHead [] :=
  ring_join_self links listHead

theorem ListHolds.isListEmpty (holds : ListHolds links listHead entries) :
    isListEmpty listHead links = entries.isEmpty := by
  cases entries with
  | nil => exact decide_eq_true (Ring.flink_singleton holds)
  | cons first rest =>
      have different : first ≠ listHead :=
        (List.ne_of_not_mem_cons (List.nodup_cons.mp holds.nodup).1).symm
      refine decide_eq_false ?_
      rw [Ring.flink_eq holds]
      exact different

def Apart (listHead : Address) (entries : List Address)
    (otherHead : Address) (others : List Address) : Prop :=
  (listHead :: entries).Disjoint (otherHead :: others)

section InsertTail

variable (holds : ListHolds links listHead entries)
variable (fresh : entry ∉ listHead :: entries)
include holds fresh

theorem ListHolds.insertTailList_eq :
    insertTailList listHead entry links =
      (links.join (links.blink listHead) entry).join entry listHead := by
  obtain ⟨last, ends⟩ := exists_last listHead entries
  have apart : entry ≠ last :=
    fun same => fresh (same ▸ List.mem_of_mem_getLast? ends)
  simp only [insertTailList, Ring.blink_eq holds ends, Links.join,
    Links.setFlink, Links.setBlink]
  rw [Function.update_comm apart]

theorem ListHolds.insertTail :
    ListHolds (insertTailList listHead entry links) listHead
      (entries ++ [entry]) := by
  rw [ListHolds, holds.insertTailList_eq fresh]
  exact Ring.push holds fresh

theorem ListHolds.insertTail_frame {otherHead : Address}
    {others : List Address} (other : ListHolds links otherHead others)
    (apart : Apart listHead entries otherHead others)
    (new : entry ∉ otherHead :: others) :
    ListHolds (insertTailList listHead entry links) otherHead others := by
  have last := Ring.blink_mem holds List.mem_cons_self
  rw [ListHolds, holds.insertTailList_eq fresh]
  exact (Ring.join other (apart last) new).join new
    (apart List.mem_cons_self)

end InsertTail

section RemoveHead

variable {rest : List Address}

theorem ListHolds.removeHead
    (holds : ListHolds links listHead (entry :: rest)) :
    (removeHeadList listHead links).1 = entry ∧
      ListHolds (removeHeadList listHead links).2 listHead rest := by
  have first : links.flink listHead = entry := Ring.flink_eq holds
  have turned : Ring links (entry :: (rest ++ [listHead])) :=
    Ring.rotate [listHead] (entry :: rest) holds
  have back : links.blink entry = listHead :=
    turned.blink_eq (by
      rw [← List.cons_append, List.getLast?_append_of_ne_nil _
        (List.cons_ne_nil _ _)]
      rfl)
  have removed := (turned.remove (by simp)).rotate rest [listHead]
  rw [back] at removed
  refine ⟨first, ?_⟩
  simp only [removeHeadList, first]
  exact removed

theorem ListHolds.removeHead_nil (holds : ListHolds links listHead []) :
    (removeHeadList listHead links).1 = listHead ∧
      ListHolds (removeHeadList listHead links).2 listHead [] := by
  have self : links.flink listHead = listHead := Ring.flink_singleton holds
  refine ⟨self, ?_⟩
  simp only [removeHeadList, self]
  exact ring_join_self links listHead

theorem ListHolds.removeHead_frame {otherHead : Address}
    {others : List Address} (holds : ListHolds links listHead entries)
    (other : ListHolds links otherHead others)
    (apart : Apart listHead entries otherHead others) :
    ListHolds (removeHeadList listHead links).2 otherHead others := by
  have first := Ring.flink_mem holds List.mem_cons_self
  exact Ring.join other (apart List.mem_cons_self)
    (apart (Ring.flink_mem holds first))

end RemoveHead

section RemoveEntry

variable {before behind : List Address}
variable (holds : ListHolds links listHead (before ++ entry :: behind))
include holds

omit [DecidableEq Address] in
theorem ListHolds.turn :
    Ring links (entry :: (behind ++ listHead :: before)) :=
  Ring.rotate (listHead :: before) (entry :: behind) holds

theorem ListHolds.removeEntry :
    ListHolds (removeEntryList entry links).2 listHead
      (before ++ behind) :=
  (Ring.remove holds.turn (by simp)).rotate behind (listHead :: before)

theorem ListHolds.removeEntry_frame {otherHead : Address}
    {others : List Address} (other : ListHolds links otherHead others)
    (apart : Apart listHead (before ++ entry :: behind) otherHead others) :
    ListHolds (removeEntryList entry links).2 otherHead others := by
  have member : entry ∈ listHead :: (before ++ entry :: behind) := by simp
  exact Ring.join other (apart (Ring.blink_mem holds member))
    (apart (Ring.flink_mem holds member))

end RemoveEntry

section Append

variable {otherHead : Address} {others : List Address}
variable (holds : ListHolds links listHead entries)
variable (other : ListHolds links otherHead others)
variable (apart : Apart listHead entries otherHead others)
include holds other apart

theorem ListHolds.appendTail :
    Ring (appendTailList listHead otherHead links)
      (listHead :: entries ++ otherHead :: others) := by
  have different : listHead ≠ otherHead := fun same =>
    apart List.mem_cons_self (same ▸ List.mem_cons_self)
  have joins : appendTailList listHead otherHead links =
      (links.join (links.blink listHead) otherHead).join
        (links.blink otherHead) listHead := by
    simp only [appendTailList, Links.join, Links.setFlink, Links.setBlink,
      Function.update_of_ne different.symm]
    rw [Function.update_comm different]
  rw [joins]
  exact Ring.splice holds other apart

end Append

/-- What was taken off the front of a list comes back to its front. -/
theorem ListHolds.reversePutListBackIn {source destination : Address}
    {taken kept : List Address} (held : ListHolds links source taken)
    (holds : ListHolds links destination kept)
    (apart : Apart destination kept source taken) :
    ListHolds (reversePutListBackIn source destination links) destination
        (taken ++ kept) ∧
      ListHolds (reversePutListBackIn source destination links) source [] := by
  obtain ⟨first, rest, shape⟩ : ∃ first rest,
      kept ++ [destination] = first :: rest :=
    List.exists_cons_of_ne_nil (by simp)
  have turned : Ring links (first :: rest) := by
    rw [← shape]
    exact Ring.rotate [destination] kept holds
  have begins : links.flink destination = first := by
    rw [Ring.flink_head holds]
    cases kept with
    | nil => exact (List.cons.inj shape).1
    | cons other others => exact (List.cons.inj shape).1
  have separate : (first :: rest).Disjoint (source :: taken) := by
    rw [← shape]
    intro node inside
    exact apart (by simpa [or_comm] using inside)
  have spliced :=
    (ListHolds.appendTail turned held separate).rotate (first :: rest)
      (source :: taken)
  have removed : Ring _ (taken ++ (first :: rest)) :=
    spliced.remove (by simp)
  rw [← shape, ← List.append_assoc] at removed
  have back : Ring _ (destination :: (taken ++ kept)) :=
    removed.rotate (taken ++ kept) [destination]
  have outside : source ∉ destination :: (taken ++ kept) := by
    have fresh := (List.nodup_cons.mp spliced.nodup).1
    rw [← shape] at fresh
    refine fun inside => fresh ?_
    simpa [or_comm, or_left_comm, or_assoc] using inside
  refine ⟨?_, listHolds_newHead _ source⟩
  rw [Transport.reversePutListBackIn, begins]
  exact back.join outside outside

end Lists

end FunnelDispenser.Transport
