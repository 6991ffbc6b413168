import FunnelDispenser.Library.Deliveries
import FunnelDispenser.Transport.Client

/-!
# The two lists of the client

Each loop of the client walks a list whose records are all on the heap.  What
it does to the links, the records and the confirmations is said here once for
each of them.
-/

namespace FunnelDispenser.Transport

open Device

universe u

section Queue

variable {Address : Type u} {Callback Context : Type}

/-- The call that completes a record. -/
def MessageRecord.call (record : MessageRecord Callback Context)
    (result : ConfirmationResult) :
    Option (Confirmation Callback Context) :=
  record.callback.map fun callback => ⟨callback, record.context, result⟩

theorem Client.confirm_eq (client : Client Address Callback Context)
    (record : MessageRecord Callback Context) (result : ConfirmationResult) :
    client.confirm record result =
      { client with
        confirmations :=
          client.confirmations ++ (record.call result).toList } := by
  unfold Client.confirm MessageRecord.call
  cases record.callback with
  | none => simp
  | some callback => rfl

/-- A record and where it is. -/
abbrev Entry (Address : Type u) (Callback Context : Type) :=
  Address × MessageRecord Callback Context

abbrev addresses (entries : List (Entry Address Callback Context)) :
    List Address :=
  entries.map Prod.fst

theorem addresses_append (front back : List (Entry Address Callback Context)) :
    addresses (front ++ back) = addresses front ++ addresses back :=
  List.map_append

def calls (result : ConfirmationResult)
    (entries : List (Entry Address Callback Context)) :
    List (Confirmation Callback Context) :=
  entries.filterMap fun entry => entry.2.call result

theorem calls_cons (result : ConfirmationResult)
    (entry : Entry Address Callback Context)
    (rest : List (Entry Address Callback Context)) :
    calls result (entry :: rest) =
      (entry.2.call result).toList ++ calls result rest := by
  rw [calls, List.filterMap_cons]
  cases entry.2.call result <;> rfl

def Stored (records : Address → Option (MessageRecord Callback Context))
    (entries : List (Entry Address Callback Context)) : Prop :=
  ∀ entry ∈ entries, records entry.1 = some entry.2

variable [DecidableEq Address]

section Completing

variable {client : Client Address Callback Context} {completed : Address}

/-- The list is empty, its records are freed, and nothing else has
changed. -/
structure Emptied (client : Client Address Callback Context)
    (completed : Address) (entries : List (Entry Address Callback Context))
    (links : Rings.Links Address)
    (records : Address → Option (MessageRecord Callback Context)) :
    Prop where
  empty : ListHolds links completed []
  freed : ∀ address ∈ addresses entries, records address = none
  kept : ∀ address, address ∉ addresses entries →
    records address = client.records address
  others : ∀ otherHead others, ListHolds client.links otherHead others →
    Apart completed (addresses entries) otherHead others →
      ListHolds links otherHead others

/-- The loop of `IoTHubClient_LL_SendComplete` completes every entry once, in
order. -/
theorem sendCompleteRounds_eq (result : ConfirmationResult)
    {entries : List (Entry Address Callback Context)} {rounds : Nat}
    (holds : ListHolds client.links completed (addresses entries))
    (stored : Stored client.records entries)
    (enough : entries.length < rounds) :
    ∃ links records,
      sendCompleteRounds completed result rounds client =
          some
            { client with
              links := links
              records := records
              confirmations :=
                client.confirmations ++ calls result entries } ∧
        Emptied client completed entries links records := by
  induction entries generalizing client rounds with
  | nil =>
      obtain ⟨rounds, rfl⟩ := Nat.exists_eq_succ_of_ne_zero
        (Nat.ne_zero_of_lt enough)
      obtain ⟨same, empty⟩ := holds.removeHead_nil
      refine ⟨(removeHeadList completed client.links).2, client.records, ?_,
        empty, by simp, fun _ _ => rfl, fun otherHead others other apart =>
          holds.removeHead_frame other apart⟩
      simp only [sendCompleteRounds, same, if_true]
      simp [calls]
  | cons entry rest inductionHypothesis =>
      obtain ⟨rounds, rfl⟩ := Nat.exists_eq_succ_of_ne_zero
        (Nat.ne_zero_of_lt enough)
      obtain ⟨same, removed⟩ := holds.removeHead
      have different : entry.1 ≠ completed := fun equal =>
        (List.nodup_cons.mp holds.nodup).1 (equal ▸ List.mem_cons_self)
      have fresh : entry.1 ∉ addresses rest :=
        (List.nodup_cons.mp (List.nodup_cons.mp holds.nodup).2).1
      have remaining : ListHolds
          (Client.free
            { client with
              links := (removeHeadList completed client.links).2
              confirmations :=
                client.confirmations ++ (entry.2.call result).toList }
            entry.1).links completed (addresses rest) := removed
      have later := inductionHypothesis remaining (fun other member => by
          have apart : other.1 ≠ entry.1 := fun equal =>
            fresh (equal ▸ List.mem_map_of_mem member)
          exact (Function.update_of_ne apart ..).trans
            (stored other (List.mem_cons_of_mem _ member)))
        (Nat.lt_of_succ_lt_succ enough)
      obtain ⟨links, records, completes, emptied⟩ := later
      refine ⟨links, records, ?_, emptied.empty, ?_, ?_, ?_⟩
      · simp only [sendCompleteRounds, same, different, if_false,
          stored entry List.mem_cons_self, Client.confirm_eq]
        rw [completes, calls_cons]
        simp only [Client.free, List.append_assoc]
      · intro address member
        rcases List.mem_cons.mp member with rfl | inRest
        · rw [emptied.kept _ fresh]
          exact Function.update_self ..
        · exact emptied.freed address inRest
      · intro address outside
        obtain ⟨apart, outsideRest⟩ :=
          List.ne_and_not_mem_of_not_mem_cons outside
        rw [emptied.kept address outsideRest]
        exact Function.update_of_ne apart ..
      · intro otherHead others other apart
        refine emptied.others otherHead others
          (holds.removeHead_frame other apart) fun address inside => apart ?_
        rcases List.mem_cons.mp inside with rfl | inRest
        · exact List.mem_cons_self
        · exact List.mem_cons_of_mem _ (List.mem_cons_of_mem _ inRest)

end Completing

/-- `waitingToSend` and `eventConfirmations` run through these entries, and
the heap holds no other record. -/
structure Lists (client : Client Address Callback Context)
    (waiting sending : List (Entry Address Callback Context)) : Prop where
  waits : ListHolds client.links client.waitingToSend (addresses waiting)
  sends : ListHolds client.links client.eventConfirmations
    (addresses sending)
  apart : Apart client.waitingToSend (addresses waiting)
    client.eventConfirmations (addresses sending)
  stored : Stored client.records (waiting ++ sending)
  noMore : ∀ address, address ∉ addresses (waiting ++ sending) →
    client.records address = none

section Lists

variable {client : Client Address Callback Context}
variable {entry : Entry Address Callback Context}
variable {waiting sending : List (Entry Address Callback Context)}

theorem lists_createClient (links : Rings.Links Address)
    {waitingToSend eventConfirmations : Address}
    (different : eventConfirmations ∉ [waitingToSend]) :
    Lists (createClient links waitingToSend eventConfirmations :
      Client Address Callback Context) [] [] where
  waits :=
    Rings.Ring.join (listHolds_newHead links waitingToSend)
      different different
  sends := listHolds_newHead _ eventConfirmations
  apart := List.disjoint_singleton.mpr different
  stored := by rintro entry ⟨⟩
  noMore _ _ := rfl

theorem Lists.insert (lists : Lists client waiting [])
    (entry : Entry Address Callback Context)
    (new : client.records entry.1 = none)
    (notWaiting : entry.1 ≠ client.waitingToSend)
    (notSending : entry.1 ≠ client.eventConfirmations)
    (accepted : List (MessageRecord Callback Context)) :
    Lists
      { client with
        records := Function.update client.records entry.1 (some entry.2)
        links := insertTailList client.waitingToSend entry.1 client.links
        accepted := accepted }
      (waiting ++ [entry]) [] := by
  have unlisted : entry.1 ∉ addresses waiting := by
    intro member
    obtain ⟨other, inside, same⟩ := List.mem_map.mp member
    have held := lists.stored other (List.mem_append_left _ inside)
    rw [same, new] at held
    cases held
  have fresh : entry.1 ∉ client.waitingToSend :: addresses waiting := by
    simp [notWaiting, unlisted]
  have extended : addresses (waiting ++ [entry]) =
      addresses waiting ++ [entry.1] := addresses_append _ _
  refine ⟨?_, ?_, ?_, ?_, ?_⟩
  · rw [extended]
    exact lists.waits.insertTail fresh
  · exact lists.waits.insertTail_frame fresh lists.sends lists.apart
      (by simpa using notSending)
  · rw [extended]
    intro address inside head
    rw [← List.cons_append, List.mem_append, List.mem_singleton] at inside
    rcases inside with before | rfl
    · exact lists.apart before head
    · exact notSending (by simpa using head)
  · intro other member
    rw [List.append_nil, List.mem_append, List.mem_singleton] at member
    rcases member with before | rfl
    · have apart : other.1 ≠ entry.1 := fun same =>
        unlisted (same ▸ List.mem_map_of_mem before)
      exact (Function.update_of_ne apart ..).trans
        (lists.stored other (List.mem_append_left _ before))
    · exact Function.update_self ..
  · intro address outside
    rw [List.append_nil, extended, List.mem_append, not_or,
      List.mem_singleton] at outside
    refine (Function.update_of_ne outside.2 ..).trans
      (lists.noMore address ?_)
    rw [List.append_nil]
    exact outside.1

theorem takeHead_eq (client : Client Address Callback Context) :
    client.takeHead =
      { client with
        links :=
          insertTailList client.eventConfirmations
            (removeHeadList client.waitingToSend client.links).1
            (removeHeadList client.waitingToSend client.links).2 } :=
  rfl

/-- The oldest message moves to the end of those being sent. -/
theorem Lists.takeHead (lists : Lists client (entry :: waiting) sending) :
    Lists client.takeHead waiting (sending ++ [entry]) := by
  obtain ⟨same, removed⟩ := lists.waits.removeHead
  have held := lists.waits.removeHead_frame lists.sends lists.apart
  have inList : entry.1 ∈
      client.waitingToSend :: addresses (entry :: waiting) := by simp
  have new := lists.apart inList
  have nodup := lists.waits.nodup
  have left : entry.1 ∉ client.waitingToSend :: addresses waiting := by
    simp only [List.map_cons, List.nodup_cons, List.mem_cons, not_or]
      at nodup ⊢
    exact ⟨Ne.symm nodup.1.1, nodup.2.1⟩
  have apart : Apart client.eventConfirmations (addresses sending)
      client.waitingToSend (addresses waiting) := by
    intro address inSending inWaiting
    refine lists.apart ?_ inSending
    rcases List.mem_cons.mp inWaiting with rfl | inRest
    · exact List.mem_cons_self
    · exact List.mem_cons_of_mem _ (List.mem_cons_of_mem _ inRest)
  have extended : addresses (sending ++ [entry]) =
      addresses sending ++ [entry.1] := addresses_append _ _
  have rearranged : ∀ other, other ∈ waiting ++ (sending ++ [entry]) ↔
      other ∈ entry :: waiting ++ sending := by
    intro other
    simp only [List.mem_append, List.mem_cons, List.not_mem_nil, or_false]
    tauto
  rw [takeHead_eq, same]
  refine ⟨held.insertTail_frame new removed apart left, ?_, ?_, ?_, ?_⟩
  · rw [extended]
    exact held.insertTail new
  · rw [extended]
    intro address inWaiting inSending
    rw [← List.cons_append, List.mem_append, List.mem_singleton]
      at inSending
    rcases inSending with before | rfl
    · exact apart before inWaiting
    · exact left inWaiting
  · exact fun other member =>
      lists.stored other ((rearranged other).mp member)
  · intro address outside
    refine lists.noMore address fun inside => outside ?_
    obtain ⟨other, member, rfl⟩ := List.mem_map.mp inside
    exact List.mem_map_of_mem ((rearranged other).mpr member)

/-- A batch that was not sent is back in front of the others. -/
theorem Lists.putBack (lists : Lists client waiting sending) :
    Lists client.putBack (sending ++ waiting) [] := by
  obtain ⟨back, empty⟩ :=
    lists.sends.reversePutListBackIn lists.waits lists.apart
  have joined := addresses_append sending waiting
  have rearranged : ∀ other, other ∈ sending ++ waiting ++ [] ↔
      other ∈ waiting ++ sending := by
    intro other
    simp only [List.append_nil, List.mem_append]
    exact or_comm
  have headApart : client.eventConfirmations ∉
      client.waitingToSend :: (addresses sending ++ addresses waiting) := by
    have fresh := (List.nodup_cons.mp lists.sends.nodup).1
    have other : client.eventConfirmations ∉
        client.waitingToSend :: addresses waiting :=
      fun inside => lists.apart inside List.mem_cons_self
    simp only [List.mem_cons, List.mem_append, not_or] at other ⊢
    exact ⟨other.1, fresh, other.2⟩
  refine ⟨?_, empty, ?_, ?_, ?_⟩
  · rw [joined]
    exact back
  · rw [joined]
    intro address inside head
    exact headApart (List.mem_singleton.mp head ▸ inside)
  · exact fun other member =>
      lists.stored other ((rearranged other).mp member)
  · intro address outside
    refine lists.noMore address fun inside => outside ?_
    obtain ⟨other, member, rfl⟩ := List.mem_map.mp inside
    exact List.mem_map_of_mem ((rearranged other).mpr member)

/-- What a loop over the lists changes. -/
def Client.completing (client : Client Address Callback Context)
    (links : Rings.Links Address)
    (records : Address → Option (MessageRecord Callback Context))
    (made : List (Confirmation Callback Context)) :
    Client Address Callback Context :=
  { client with
    links := links
    records := records
    confirmations := client.confirmations ++ made }

omit [DecidableEq Address] in
theorem Client.completing_completing
    (client : Client Address Callback Context)
    (links later : Rings.Links Address)
    (records left : Address → Option (MessageRecord Callback Context))
    (made more : List (Confirmation Callback Context)) :
    (client.completing links records made).completing later left more =
      client.completing later left (made ++ more) := by
  simp only [Client.completing, List.append_assoc]

theorem Lists.complete (lists : Lists client waiting sending)
    (result : ConfirmationResult)
    (enough : sending.length ≤ client.accepted.length) :
    ∃ links records,
      sendComplete client.eventConfirmations result client =
          some (client.completing links records (calls result sending)) ∧
        Lists (client.completing links records (calls result sending))
          waiting [] := by
  obtain ⟨links, records, completes, emptied⟩ := sendCompleteRounds_eq result
    lists.sends (fun entry member =>
      lists.stored entry (List.mem_append_right _ member))
    (Nat.lt_succ_of_le enough)
  have apart : Apart client.eventConfirmations (addresses sending)
      client.waitingToSend (addresses waiting) := lists.apart.symm
  have unsent : ∀ address ∈ addresses waiting,
      address ∉ addresses sending := fun address inWaiting inSending =>
    apart (List.mem_cons_of_mem _ inSending)
      (List.mem_cons_of_mem _ inWaiting)
  refine ⟨links, records, completes,
    emptied.others _ _ lists.waits apart, emptied.empty, ?_, ?_, ?_⟩
  · intro address inWaiting head
    exact lists.apart inWaiting
      (List.mem_singleton.mp head ▸ List.mem_cons_self)
  · intro entry member
    rw [List.append_nil] at member
    exact (emptied.kept _ (unsent _ (List.mem_map_of_mem member))).trans
      (lists.stored entry (List.mem_append_left _ member))
  · intro address outside
    rw [List.append_nil] at outside
    by_cases sent : address ∈ addresses sending
    · exact emptied.freed address sent
    · refine (emptied.kept address sent).trans (lists.noMore address ?_)
      rw [addresses_append, List.mem_append]
      exact fun inside => inside.elim outside sent

/-- Everything that waits is completed when the client is destroyed. -/
theorem Lists.destroy (lists : Lists client waiting [])
    (enough : waiting.length ≤ client.accepted.length) :
    ∃ links records,
      destroyMessages client =
          some (client.completing links records
            (calls .becauseDestroy waiting)) ∧
        Lists (client.completing links records
          (calls .becauseDestroy waiting)) [] [] := by
  obtain ⟨links, records, completes, emptied⟩ :=
    sendCompleteRounds_eq .becauseDestroy lists.waits
      (fun entry member => lists.stored entry (List.mem_append_left _ member))
      (Nat.lt_succ_of_le enough)
  refine ⟨links, records, completes, emptied.empty,
    emptied.others _ _ lists.sends lists.apart, ?_, by rintro entry ⟨⟩, ?_⟩
  · intro address head other
    exact lists.apart (List.mem_singleton.mp head ▸ List.mem_cons_self) other
  · intro address _
    by_cases waited : address ∈ addresses waiting
    · exact emptied.freed address waited
    · refine (emptied.kept address waited).trans (lists.noMore address ?_)
      rw [List.append_nil]
      exact waited

/-- `DoTimeouts` takes this record out. -/
def MessageRecord.late (record : MessageRecord Callback Context)
    (nowTick : BitVec 32) : Bool :=
  decide (record.timesOutAfter ≠ 0 ∧ record.timesOutAfter < nowTick)

/-- An entry leaves the middle of the list, and its record the heap. -/
theorem Lists.drop {before behind : List (Entry Address Callback Context)}
    (lists : Lists client (before ++ entry :: behind) [])
    (made : List (Confirmation Callback Context)) :
    Lists
      (client.completing (removeEntryList entry.1 client.links).2
        (Function.update client.records entry.1 none) made)
      (before ++ behind) [] := by
  have split : addresses (before ++ entry :: behind) =
      addresses before ++ entry.1 :: addresses behind :=
    addresses_append _ _
  have joined := addresses_append before behind
  have waits := lists.waits
  have apart := lists.apart
  have nodup := (List.nodup_cons.mp waits.nodup).2
  rw [split] at waits apart nodup
  have gone : entry.1 ∉ addresses before ++ addresses behind :=
    (List.nodup_middle.mp nodup).notMem
  have fewer : ∀ address, address ∈ addresses before ++ addresses behind →
      address ∈ addresses before ++ entry.1 :: addresses behind := by
    intro address member
    simp only [List.mem_append, List.mem_cons] at member ⊢
    tauto
  refine ⟨?_, waits.removeEntry_frame lists.sends apart, ?_, ?_, ?_⟩
  · rw [joined]
    exact waits.removeEntry
  · rw [joined]
    intro address inside head
    refine apart ?_ head
    rcases List.mem_cons.mp inside with rfl | rest
    · exact List.mem_cons_self
    · exact List.mem_cons_of_mem _ (fewer address rest)
  · intro other member
    rw [List.append_nil] at member
    have different : other.1 ≠ entry.1 := fun same =>
      gone (same ▸ joined ▸ List.mem_map_of_mem member)
    refine (Function.update_of_ne different ..).trans (lists.stored other ?_)
    simp only [List.append_nil, List.mem_append, List.mem_cons] at member ⊢
    tauto
  · intro address outside
    rw [List.append_nil, joined] at outside
    by_cases same : address = entry.1
    · subst same
      exact Function.update_self ..
    · refine (Function.update_of_ne same ..).trans (lists.noMore address ?_)
      rw [List.append_nil, split]
      simp only [List.mem_append, List.mem_cons] at outside ⊢
      tauto

omit [DecidableEq Address] in
theorem Lists.flink_eq {before behind : List (Entry Address Callback Context)}
    (lists : Lists client (before ++ entry :: behind) []) :
    client.links.flink entry.1 =
      (addresses behind).head?.getD client.waitingToSend := by
  have waits := lists.waits
  rw [addresses_append] at waits
  rw [(ListHolds.turn waits).flink_head]
  cases behind <;> rfl

/-- The loop of `DoTimeouts` takes out the late entries behind `current` and
keeps the others in their order. -/
theorem doTimeoutsRounds_eq (nowTick : BitVec 32)
    (before behind : List (Entry Address Callback Context)) {rounds : Nat}
    (lists : Lists client (before ++ behind) [])
    (enough : behind.length < rounds) :
    ∃ links records,
      doTimeoutsRounds nowTick rounds
            ((addresses behind).head?.getD client.waitingToSend) client =
          some (client.completing links records (calls .messageTimeout
            (behind.filter fun entry => entry.2.late nowTick))) ∧
        Lists
          (client.completing links records (calls .messageTimeout
            (behind.filter fun entry => entry.2.late nowTick)))
          (before ++ behind.filter fun entry => !entry.2.late nowTick)
          [] := by
  induction behind generalizing client before rounds with
  | nil =>
      obtain ⟨rounds, rfl⟩ := Nat.exists_eq_succ_of_ne_zero
        (Nat.ne_zero_of_lt enough)
      have same : client.completing client.links client.records [] =
          client := by
        rw [Client.completing, List.append_nil]
      refine ⟨client.links, client.records, ?_, ?_⟩
      · simp [doTimeoutsRounds, calls, same]
      · simp only [List.filter_nil, calls, List.filterMap_nil, same]
        exact lists
  | cons entry rest inductionHypothesis =>
      obtain ⟨rounds, rfl⟩ := Nat.exists_eq_succ_of_ne_zero
        (Nat.ne_zero_of_lt enough)
      have next := lists.flink_eq
      have held := lists.stored entry (by simp)
      have notHead : entry.1 ≠ client.waitingToSend := by
        have fresh := (List.nodup_cons.mp lists.waits.nodup).1
        refine fun same => fresh ?_
        rw [← same, addresses_append]
        exact List.mem_append_right _ List.mem_cons_self
      have shorter : rest.length < rounds := Nat.lt_of_succ_lt_succ enough
      by_cases late : entry.2.late nowTick = true
      · obtain ⟨links, records, loops, kept⟩ := inductionHypothesis before
          (lists.drop (entry.2.call .messageTimeout).toList) shorter
        have counted :
            (entry :: rest).filter (fun other => other.2.late nowTick) =
              entry :: rest.filter fun other => other.2.late nowTick :=
          List.filter_cons_of_pos late
        have uncounted :
            (entry :: rest).filter (fun other => !other.2.late nowTick) =
              rest.filter fun other => !other.2.late nowTick :=
          List.filter_cons_of_neg (by simp [late])
        rw [Client.completing_completing, ← calls_cons, ← counted]
          at loops kept
        rw [uncounted]
        refine ⟨links, records, ?_, kept⟩
        simp only [doTimeoutsRounds, List.map_cons, List.head?_cons,
          Option.getD_some, notHead, if_false, held, next,
          if_pos (of_decide_eq_true late), Client.confirm_eq]
        exact loops
      · have early := Bool.eq_false_of_not_eq_true late
        have shifted : before ++ entry :: rest = (before ++ [entry]) ++ rest :=
          by simp
        rw [shifted] at lists
        obtain ⟨links, records, loops, kept⟩ :=
          inductionHypothesis (before ++ [entry]) lists shorter
        have uncounted :
            (entry :: rest).filter (fun other => other.2.late nowTick) =
              rest.filter fun other => other.2.late nowTick :=
          List.filter_cons_of_neg late
        have counted :
            (entry :: rest).filter (fun other => !other.2.late nowTick) =
              entry :: rest.filter fun other => !other.2.late nowTick :=
          List.filter_cons_of_pos (by simp [early])
        rw [uncounted, counted]
        refine ⟨links, records, ?_, by simpa using kept⟩
        simp only [doTimeoutsRounds, List.map_cons, List.head?_cons,
          Option.getD_some, notHead, if_false, held, next,
          if_neg (of_decide_eq_false early)]
        exact loops

/-- The tick counter answers, and the record is late. -/
def MessageRecord.isLate (currentMs : Option (BitVec 32))
    (record : MessageRecord Callback Context) : Bool :=
  currentMs.any record.late

omit [DecidableEq Address] in
theorem Client.completing_nothing
    (client : Client Address Callback Context) :
    client.completing client.links client.records [] = client := by
  rw [Client.completing, List.append_nil]

theorem Lists.timeouts (lists : Lists client waiting [])
    (currentMs : Option (BitVec 32))
    (enough : waiting.length ≤ client.accepted.length) :
    ∃ links records,
      doTimeouts currentMs client =
          some (client.completing links records (calls .messageTimeout
            (waiting.filter fun entry => entry.2.isLate currentMs))) ∧
        Lists
          (client.completing links records (calls .messageTimeout
            (waiting.filter fun entry => entry.2.isLate currentMs)))
          (waiting.filter fun entry => !entry.2.isLate currentMs) [] := by
  cases currentMs with
  | none =>
      refine ⟨client.links, client.records, ?_, ?_⟩
      · simp [doTimeouts, MessageRecord.isLate, calls,
          Client.completing_nothing]
      · simpa [MessageRecord.isLate, calls, Client.completing_nothing]
          using lists
  | some nowTick =>
      have first := Rings.Ring.flink_head lists.waits
      obtain ⟨links, records, loops, kept⟩ := doTimeoutsRounds_eq nowTick []
        waiting lists (Nat.lt_succ_of_le enough)
      refine ⟨links, records, ?_, kept⟩
      rw [doTimeouts, first]
      exact loops

end Lists

end Queue

end FunnelDispenser.Transport
