import FunnelDispenser.Transport.Queue

/-!
# What one attempt settles

`DoEvent` settles some of the oldest messages with one result, and how many is
a question about sizes and about what the attempt meets.  The rest stays
queued in its order, also when a whole batch has to come back.
-/

namespace FunnelDispenser.Transport

open CMemory Device

universe u

section Plans

variable {Callback Context : Type}

/-- The number of messages that follow the first `count` into the payload. -/
def batchBehind (attempt : EventAttempt) :
    (count allMessagesSize : Nat) →
      List (MessageRecord Callback Context) → Nat
  | _, _, [] => 0
  | count, allMessagesSize, record :: rest =>
      let size := allMessagesSize + record.message.itemSize
      if attempt.itemMade count && decide (size ≤ maximumMessageSize) &&
          attempt.itemAppended count then
        batchBehind attempt (count + 1) size rest + 1
      else
        0

/-- The result of `makePayload` and the number of messages it takes. -/
def payloadPlan (attempt : EventAttempt) :
    List (MessageRecord Callback Context) → MakePayloadResult × Nat
  | [] => (.ok, 0)
  | record :: rest =>
      if !attempt.itemMade 0 then (.error, 0)
      else if record.message.itemSize > maximumMessageSize then
        (.firstItemDoesNotFit, 1)
      else if !attempt.itemAppended 0 then (.error, 0)
      else (.ok, batchBehind attempt 1 record.message.itemSize rest + 1)

/-- The number of messages settled, and their result. -/
abbrev Settlement := Nat × ConfirmationResult

def batchSettlement (attempt : EventAttempt)
    (waiting : List (MessageRecord Callback Context)) : Settlement :=
  if attempt.contentTypeReplaced && attempt.payloadConstructed then
    match payloadPlan attempt waiting with
    | (.ok, count) => if attempt.succeeds then (count, .ok) else (0, .ok)
    | (.firstItemDoesNotFit, count) => (count, .error)
    | (.error, _) => (0, .ok)
  else
    (0, .ok)

/-- The request of a single message is prepared up to its properties. -/
def EventAttempt.prepared (attempt : EventAttempt) : Bool :=
  attempt.headersCloned && attempt.contentTypeReplaced &&
    attempt.propertiesRead

def singleSettlement (attempt : EventAttempt)
    (record : MessageRecord Callback Context) : Settlement :=
  if record.message.payloadSize > maximumMessageSize then (1, .error)
  else if attempt.prepared then
    match propertyHeaders attempt.headerSet record.message.properties 0
        record.message.payloadSize with
    | .tooLarge => (1, .error)
    | .failed => (0, .ok)
    | .ready =>
        if attempt.systemHeadersSet && attempt.succeeds then (1, .ok)
        else (0, .ok)
  else
    (0, .ok)

def settlement (batching : Bool) (attempt : EventAttempt) :
    List (MessageRecord Callback Context) → Settlement
  | [] => (0, .ok)
  | record :: rest =>
      if batching then batchSettlement attempt (record :: rest)
      else singleSettlement attempt record

/-- The attempt completes a message for the size of its properties and reads
its system properties after that. -/
def readsFreed (batching : Bool) (attempt : EventAttempt) :
    List (MessageRecord Callback Context) → Bool
  | [] => false
  | record :: _ =>
      !batching && decide (record.message.payloadSize ≤ maximumMessageSize) &&
        attempt.prepared &&
        decide (propertyHeaders attempt.headerSet record.message.properties 0
          record.message.payloadSize = .tooLarge)

theorem settlement_inTurn (batching : Bool) (attempt : EventAttempt)
    (waiting : List (MessageRecord Callback Context)) :
    (settlement batching attempt waiting).2 ≠ .messageTimeout := by
  cases waiting with
  | nil => simp [settlement]
  | cons record rest =>
      simp only [settlement]
      split
      · unfold batchSettlement
        split
        · split
          · split <;> simp
          · simp
          · simp
        · simp
      · unfold singleSettlement
        split
        · simp
        · split
          · split
            · simp
            · simp
            · split <;> simp
          · simp

theorem propertyHeaders_of_fits (headerSet : Nat → Bool)
    {properties : List (Bytes × Bytes)} {index size : Nat}
    (fits : size + (properties.map propertySize).sum ≤ maximumMessageSize) :
    propertyHeaders headerSet properties index size ≠ .tooLarge := by
  induction properties generalizing index size with
  | nil => simp [propertyHeaders]
  | cons property rest inductionHypothesis =>
      rw [List.map_cons, List.sum_cons] at fits
      have small : ¬ size + propertySize property > maximumMessageSize := by
        omega
      simp only [propertyHeaders, small, if_false]
      split
      · exact inductionHypothesis (by omega)
      · simp

end Plans

section Sending

variable {Address : Type u} [DecidableEq Address] {Callback Context : Type}
variable {client : Client Address Callback Context}
variable {waiting sending : List (Entry Address Callback Context)}

abbrev recordsOf (entries : List (Entry Address Callback Context)) :
    List (MessageRecord Callback Context) :=
  entries.map Prod.snd

theorem Lists.takeHeads (lists : Lists client waiting sending) (count : Nat)
    (enough : count ≤ waiting.length) :
    Lists (Client.takeHead^[count] client) (waiting.drop count)
      (sending ++ waiting.take count) := by
  induction count generalizing client waiting sending with
  | zero => simpa using lists
  | succ count inductionHypothesis =>
      cases waiting with
      | nil => simp at enough
      | cons entry rest =>
          have later := inductionHypothesis lists.takeHead
            (Nat.le_of_succ_le_succ enough)
          rw [List.append_assoc] at later
          exact later

theorem takeHeads_eq (client : Client Address Callback Context)
    (count : Nat) :
    ∃ links, Client.takeHead^[count] client =
      { client with links := links } := by
  induction count generalizing client with
  | zero => exact ⟨client.links, rfl⟩
  | succ count inductionHypothesis =>
      obtain ⟨links, taken⟩ := inductionHypothesis client.takeHead
      exact ⟨links, taken⟩

omit [DecidableEq Address] in
theorem Lists.noneWaits (lists : Lists client [] sending) :
    client.links.flink client.waitingToSend = client.waitingToSend :=
  lists.waits.flink_singleton

omit [DecidableEq Address] in
theorem Lists.oldest {entry : Entry Address Callback Context}
    (lists : Lists client (entry :: waiting) sending) :
    client.links.flink client.waitingToSend = entry.1 ∧
      entry.1 ≠ client.waitingToSend ∧
      client.records entry.1 = some entry.2 :=
  ⟨lists.waits.flink_eq,
    fun same =>
      (List.nodup_cons.mp lists.waits.nodup).1 (same ▸ List.mem_cons_self),
    lists.stored entry (by simp)⟩

theorem makePayloadRounds_eq (attempt : EventAttempt)
    (count allMessagesSize : Nat) {rounds : Nat}
    (lists : Lists client waiting sending) (started : count ≠ 0)
    (enough : waiting.length < rounds) :
    makePayloadRounds attempt rounds count allMessagesSize client =
      some (.ok, Client.takeHead^[batchBehind attempt count allMessagesSize
        (recordsOf waiting)] client) := by
  induction waiting generalizing client sending count allMessagesSize
    rounds with
  | nil =>
      obtain ⟨rounds, rfl⟩ := Nat.exists_eq_succ_of_ne_zero
        (Nat.ne_zero_of_lt enough)
      simp only [makePayloadRounds, lists.noneWaits, if_true]
      rfl
  | cons entry rest inductionHypothesis =>
      obtain ⟨rounds, rfl⟩ := Nat.exists_eq_succ_of_ne_zero
        (Nat.ne_zero_of_lt enough)
      obtain ⟨first, notHead, held⟩ := lists.oldest
      have later := inductionHypothesis (count + 1)
        (allMessagesSize + entry.2.message.itemSize) lists.takeHead
        (Nat.succ_ne_zero count) (Nat.lt_of_succ_lt_succ enough)
      simp only [makePayloadRounds, first, notHead, if_false, held, started,
        List.map_cons, batchBehind]
      by_cases made : attempt.itemMade count = true
      · by_cases fits : allMessagesSize + entry.2.message.itemSize ≤
            maximumMessageSize
        · by_cases appended : attempt.itemAppended count = true
          · simp only [made, Nat.not_lt.mpr fits, appended, fits,
              Bool.not_true, Bool.false_eq_true, if_false, decide_true,
              Bool.and_self, if_true]
            rw [later]
            rfl
          · simp [made, Nat.not_lt.mpr fits, appended]
        · simp [made, Nat.lt_of_not_le fits, fits]
      · simp [made]

theorem Lists.makePayload_eq (attempt : EventAttempt)
    (lists : Lists client waiting [])
    (constructed : attempt.payloadConstructed = true)
    (enough : waiting.length ≤ client.accepted.length) :
    makePayload attempt client =
      some ((payloadPlan attempt (recordsOf waiting)).1,
        Client.takeHead^[(payloadPlan attempt (recordsOf waiting)).2]
          client) := by
  rw [makePayload, if_pos constructed]
  cases waiting with
  | nil =>
      simp only [makePayloadRounds, lists.noneWaits, if_true]
      rfl
  | cons entry rest =>
      obtain ⟨first, notHead, held⟩ := lists.oldest
      have fewer : rest.length < client.accepted.length := enough
      have later := makePayloadRounds_eq attempt 1 entry.2.message.itemSize
        lists.takeHead Nat.one_ne_zero fewer
      simp only [makePayloadRounds, first, notHead, if_false, held, if_true,
        List.map_cons, payloadPlan, Nat.zero_add]
      by_cases made : attempt.itemMade 0 = true
      · by_cases large : entry.2.message.itemSize > maximumMessageSize
        · simp [made, large]
        · by_cases appended : attempt.itemAppended 0 = true
          · simp only [made, large, appended, Bool.not_true,
              Bool.false_eq_true, if_false]
            rw [later]
            rfl
          · simp [made, large, appended]
      · simp [made]

/-- The oldest messages are completed with this result, and the others stay
queued. -/
def Settles (client : Client Address Callback Context)
    (waiting : List (Entry Address Callback Context))
    (outcome : Option (Client Address Callback Context))
    (settled : Settlement) : Prop :=
  ∃ links records,
    outcome =
        some (client.completing links records
          (calls settled.2 (waiting.take settled.1))) ∧
      Lists
        (client.completing links records
          (calls settled.2 (waiting.take settled.1)))
        (waiting.drop settled.1) []

omit [DecidableEq Address] in
theorem Lists.settlesNothing (lists : Lists client waiting [])
    (result : ConfirmationResult) :
    Settles client waiting (some client) (0, result) := by
  refine ⟨client.links, client.records, ?_, ?_⟩
  · simp [calls, Client.completing_nothing]
  · simpa [calls, Client.completing_nothing] using lists

section Batches

variable (lists : Lists client waiting []) (count : Nat)
variable (enough : count ≤ waiting.length)
include lists enough

theorem Lists.settlesTaken (result : ConfirmationResult)
    (bounded : waiting.length ≤ client.accepted.length) :
    Settles client waiting
      (sendComplete client.eventConfirmations result
        (Client.takeHead^[count] client)) (count, result) := by
  have taken := lists.takeHeads count enough
  obtain ⟨links, same⟩ := takeHeads_eq client count
  rw [same, List.nil_append] at taken
  have few : (waiting.take count).length ≤ client.accepted.length := by
    rw [List.length_take]
    omega
  rw [same]
  exact taken.complete result few

theorem Lists.settlesPutBack (result : ConfirmationResult) :
    Settles client waiting
      (some (Client.takeHead^[count] client).putBack) (0, result) := by
  have back := (lists.takeHeads count enough).putBack
  obtain ⟨links, same⟩ := takeHeads_eq client count
  rw [same, List.nil_append, List.take_append_drop] at back
  have unconfirmed : Client.putBack { client with links := links } =
      client.completing
        (Client.putBack { client with links := links }).links
        client.records [] := by
    rw [Client.completing, List.append_nil]
    rfl
  rw [same]
  refine ⟨_, _, congrArg some unconfirmed, ?_⟩
  simp only [List.take_zero, List.drop_zero, calls, List.filterMap_nil]
  rw [← unconfirmed]
  exact back

end Batches

omit [DecidableEq Address] in
theorem batchBehind_le (attempt : EventAttempt)
    (records : List (MessageRecord Callback Context))
    (count allMessagesSize : Nat) :
    batchBehind attempt count allMessagesSize records ≤ records.length := by
  induction records generalizing count allMessagesSize with
  | nil => exact Nat.le_refl _
  | cons record rest inductionHypothesis =>
      simp only [batchBehind, List.length_cons]
      split
      · exact Nat.succ_le_succ (inductionHypothesis _ _)
      · omega

theorem payloadPlan_le (attempt : EventAttempt)
    (records : List (MessageRecord Callback Context)) :
    (payloadPlan attempt records).2 ≤ records.length := by
  cases records with
  | nil => exact Nat.le_refl _
  | cons record rest =>
      have behind :=
        batchBehind_le attempt rest 1 record.message.itemSize
      simp only [payloadPlan, List.length_cons]
      split_ifs <;> simp only <;> omega

theorem payloadPlan_error (attempt : EventAttempt)
    (records : List (MessageRecord Callback Context))
    (failed : (payloadPlan attempt records).1 = .error) :
    (payloadPlan attempt records).2 = 0 := by
  cases records with
  | nil => rfl
  | cons record rest =>
      simp only [payloadPlan] at failed ⊢
      split_ifs at failed ⊢ <;> rfl

theorem Lists.sendBatch_settles (lists : Lists client waiting [])
    (attempt : EventAttempt)
    (bounded : waiting.length ≤ client.accepted.length) :
    Settles client waiting (sendBatch attempt client)
      (batchSettlement attempt (recordsOf waiting)) := by
  unfold sendBatch batchSettlement
  by_cases replaced : attempt.contentTypeReplaced = true
  · by_cases constructed : attempt.payloadConstructed = true
    · have fits : (payloadPlan attempt (recordsOf waiting)).2 ≤
          waiting.length := by
        have bound := payloadPlan_le attempt (recordsOf waiting)
        rwa [List.length_map] at bound
      have made := lists.makePayload_eq attempt constructed bounded
      have none_ := payloadPlan_error attempt (recordsOf waiting)
      generalize payloadPlan attempt (recordsOf waiting) = plan
        at fits made none_
      obtain ⟨result, count⟩ := plan
      have head : (Client.takeHead^[count] client).eventConfirmations =
          client.eventConfirmations := by
        obtain ⟨links, same⟩ := takeHeads_eq client count
        rw [same]
      simp only [replaced, constructed, Bool.and_self, if_true, made]
      cases result with
      | ok =>
          cases succeeds : attempt.succeeds
          · exact lists.settlesPutBack count fits .ok
          · simp only [head, if_true]
            exact lists.settlesTaken count fits .ok bounded
      | firstItemDoesNotFit =>
          simp only [head]
          exact lists.settlesTaken count fits .error bounded
      | error =>
          obtain rfl : count = 0 := none_ rfl
          exact lists.settlesNothing .ok
    · simp only [replaced, constructed, makePayload, Bool.and_false,
        Bool.false_eq_true, if_true, if_false]
      exact lists.settlesNothing .ok
  · simp only [replaced, Bool.false_and, Bool.false_eq_true, if_false]
    exact lists.settlesNothing .ok

/-- The attempt on a single message, unless it reads what it has freed. -/
theorem Lists.sendSingle_settles {entry : Entry Address Callback Context}
    {rest : List (Entry Address Callback Context)}
    (lists : Lists client (entry :: rest) []) (attempt : EventAttempt)
    (bounded : (entry :: rest).length ≤ client.accepted.length)
    (safe : readsFreed false attempt (recordsOf (entry :: rest)) = false) :
    Settles client (entry :: rest) (sendSingle attempt client)
      (singleSettlement attempt entry.2) := by
  obtain ⟨first, notHead, held⟩ := lists.oldest
  have taken : ∀ result, Settles client (entry :: rest)
      (sendComplete client.eventConfirmations result client.takeHead)
      (1, result) := fun result =>
    lists.settlesTaken 1 (by simp) result bounded
  simp only [sendSingle, first, held, singleSettlement]
  by_cases large : entry.2.message.payloadSize > maximumMessageSize
  · simp only [large, if_true]
    exact taken .error
  · simp only [large, if_false]
    change Settles client (entry :: rest)
      (if attempt.prepared then _ else _) _
    by_cases prepared : attempt.prepared = true
    · simp only [prepared, if_true]
      have notLarge : propertyHeaders attempt.headerSet
          entry.2.message.properties 0 entry.2.message.payloadSize ≠
            .tooLarge := by
        intro tooLarge
        simp [readsFreed, Nat.le_of_not_lt large, prepared, tooLarge] at safe
      cases ended : propertyHeaders attempt.headerSet
          entry.2.message.properties 0 entry.2.message.payloadSize with
      | tooLarge => exact absurd ended notLarge
      | failed => exact lists.settlesNothing .ok
      | ready =>
          cases sent : attempt.systemHeadersSet && attempt.succeeds
          · exact lists.settlesNothing .ok
          · exact taken .ok
    · simp only [prepared]
      exact lists.settlesNothing .ok

/-- `DoEvent` settles what the plan says. -/
theorem Lists.doEvent_settles (lists : Lists client waiting [])
    (attempt : EventAttempt)
    (bounded : waiting.length ≤ client.accepted.length)
    (safe : readsFreed client.doBatchedTransfers attempt
      (recordsOf waiting) = false) :
    Settles client waiting (transportDoEvent attempt client)
      (settlement client.doBatchedTransfers attempt (recordsOf waiting)) := by
  rw [transportDoEvent, lists.waits.isListEmpty]
  cases waiting with
  | nil => exact lists.settlesNothing .ok
  | cons entry rest =>
      cases batching : client.doBatchedTransfers with
      | true => exact lists.sendBatch_settles attempt bounded
      | false =>
          rw [batching] at safe
          exact lists.sendSingle_settles attempt bounded safe

/-- The attempt that overflows with its properties reads a freed record. -/
theorem Lists.doEvent_none (lists : Lists client waiting [])
    (attempt : EventAttempt)
    (bounded : waiting.length ≤ client.accepted.length)
    (unsafe_ : readsFreed client.doBatchedTransfers attempt
      (recordsOf waiting) = true) :
    transportDoEvent attempt client = none := by
  cases waiting with
  | nil => cases unsafe_
  | cons entry rest =>
      simp only [readsFreed, List.map_cons, Bool.and_eq_true,
        Bool.not_eq_true', decide_eq_true_eq] at unsafe_
      obtain ⟨⟨⟨single, small⟩, prepared⟩, tooLarge⟩ := unsafe_
      obtain ⟨first, notHead, held⟩ := lists.oldest
      obtain ⟨links, records, completes, after⟩ :=
        lists.settlesTaken 1 (by simp) .error bounded
      have freed : (client.completing links records
          (calls .error ((entry :: rest).take 1))).records entry.1 =
            none := by
        refine after.noMore entry.1 ?_
        rw [List.append_nil]
        exact (List.nodup_cons.mp (List.nodup_cons.mp lists.waits.nodup).2).1
      change sendComplete client.eventConfirmations .error client.takeHead =
        _ at completes
      have ready : (attempt.headersCloned && attempt.contentTypeReplaced &&
          attempt.propertiesRead) = true := prepared
      rw [transportDoEvent, lists.waits.isListEmpty, single]
      simp only [List.map_cons, List.isEmpty_cons, Bool.false_eq_true,
        if_false, sendSingle, first, held, Nat.not_lt.mpr small, ready,
        if_true, tooLarge, completes]
      rw [freed, Option.map_none]

end Sending

end FunnelDispenser.Transport
