import FunnelDispenser.Library.StepRuns
import FunnelDispenser.Transport.Sending

/-!
# Every message is confirmed once

Whatever is handed over, timed out, sent, refused or put back, the client is a
mailbox: a line of messages and the verdicts it has given.  From the laws of
such lines follows what a user of the client relies on.
-/

namespace FunnelDispenser.Transport

open CMemory Device StepRuns Deliveries

universe u

variable {Address : Type u} [DecidableEq Address] {Callback Context : Type}

inductive ClientCall (Address : Type u) (Callback Context : Type) where
  | sendEventAsync (input : SendEventInput Address Callback Context)
  | doWork (currentMs : Option (BitVec 32)) (attempt : EventAttempt)
  | setMessageTimeout (value : BitVec 32)
  | setBatching (batching : Bool)

/-- A record was used that is not there. -/
inductive ClientFault where
  | dangling

def clientStep (call : ClientCall Address Callback Context)
    (client : Client Address Callback Context) :
    Outcome (Client Address Callback Context) ClientFault :=
  match call with
  | .sendEventAsync input => .again (sendEventAsync input client).2
  | .doWork currentMs attempt =>
      match clientDoWork currentMs attempt client with
      | some worked => .again worked
      | none => .halted .dangling
  | .setMessageTimeout value =>
      .again { client with currentMessageTimeout := value }
  | .setBatching batching =>
      .again { client with doBatchedTransfers := batching }

/-- `malloc` returns a block that nothing else occupies. -/
def Allocates (client : Client Address Callback Context) :
    ClientCall Address Callback Context → Prop
  | .sendEventAsync input => ∀ address, input.allocated = some address →
      client.records address = none ∧ address ≠ client.waitingToSend ∧
        address ≠ client.eventConfirmations
  | _ => True

instance (client : Client Address Callback Context) :
    DecidablePred (Allocates client)
  | .sendEventAsync input =>
      match allocated : input.allocated with
      | none => isTrue fun address given => by simp [allocated] at given
      | some address =>
          decidable_of_iff
            (client.records address = none ∧
              address ≠ client.waitingToSend ∧
              address ≠ client.eventConfirmations)
            (by simp [Allocates, allocated])
  | .doWork _ _ => .isTrue trivial
  | .setMessageTimeout _ => .isTrue trivial
  | .setBatching _ => .isTrue trivial

/-- The client as a line of records. -/
structure Mailbox (Callback Context : Type) where
  line : Line (MessageRecord Callback Context) ConfirmationResult
  accepted : List (MessageRecord Callback Context)
  currentMessageTimeout : BitVec 32
  doBatchedTransfers : Bool

omit [DecidableEq Address] in
/-- The record of a call that succeeds. -/
def SendEventInput.record (currentMessageTimeout : BitVec 32)
    (input : SendEventInput Address Callback Context) :
    Option (MessageRecord Callback Context) :=
  match input.message,
      attachMsTimesOutAfter currentMessageTimeout input.currentMs with
  | some message, some timesOutAfter =>
      if (input.callback.isSome || input.context.isNone) &&
          input.allocated.isSome && input.cloned && input.diagnosed then
        some ⟨message, input.callback, input.context, timesOutAfter⟩
      else none
  | _, _ => none

namespace Mailbox

def empty : Mailbox Callback Context :=
  ⟨Line.empty, [], 0, false⟩

def submit (record : MessageRecord Callback Context)
    (mailbox : Mailbox Callback Context) : Mailbox Callback Context :=
  { mailbox with
    line := mailbox.line.submit record
    accepted := mailbox.accepted ++ [record] }

/-- What is late goes first, then the attempt settles what it can. -/
def work (currentMs : Option (BitVec 32)) (attempt : EventAttempt)
    (mailbox : Mailbox Callback Context) :
    Outcome (Mailbox Callback Context) ClientFault :=
  let line := mailbox.line.expire (fun record => record.isLate currentMs)
    .messageTimeout
  if readsFreed mailbox.doBatchedTransfers attempt line.waiting then
    .halted .dangling
  else
    let settled :=
      settlement mailbox.doBatchedTransfers attempt line.waiting
    .again { mailbox with line := line.settle settled.1 settled.2 }

def step (call : ClientCall Address Callback Context)
    (mailbox : Mailbox Callback Context) :
    Outcome (Mailbox Callback Context) ClientFault :=
  match call with
  | .sendEventAsync input =>
      match input.record mailbox.currentMessageTimeout with
      | some record => .again (mailbox.submit record)
      | none => .again mailbox
  | .doWork currentMs attempt => mailbox.work currentMs attempt
  | .setMessageTimeout value =>
      .again { mailbox with currentMessageTimeout := value }
  | .setBatching batching =>
      .again { mailbox with doBatchedTransfers := batching }

end Mailbox

/-- The calls of a line of verdicts. -/
def confirmationsOf
    (settled : List (MessageRecord Callback Context × ConfirmationResult)) :
    List (Confirmation Callback Context) :=
  settled.filterMap fun entry => entry.1.call entry.2

/-- The client is this mailbox. -/
structure Tracks (client : Client Address Callback Context)
    (mailbox : Mailbox Callback Context) : Prop where
  lists : ∃ waiting, Lists client waiting [] ∧
    recordsOf waiting = mailbox.line.waiting
  confirmations : client.confirmations =
    confirmationsOf mailbox.line.settled
  accepted : client.accepted = mailbox.accepted
  timeout : client.currentMessageTimeout = mailbox.currentMessageTimeout
  batching : client.doBatchedTransfers = mailbox.doBatchedTransfers
  leads : Leads .messageTimeout mailbox.accepted mailbox.line

/-- A call that succeeds queues its record; the others change nothing. -/
theorem sendEventAsync_eq (input : SendEventInput Address Callback Context)
    (client : Client Address Callback Context) :
    (sendEventAsync input client).2 =
      match input.allocated, input.record client.currentMessageTimeout with
      | some newEntry, some record =>
          { client with
            records := Function.update client.records newEntry (some record)
            links :=
              insertTailList client.waitingToSend newEntry client.links
            accepted := client.accepted ++ [record] }
      | _, _ => client := by
  unfold sendEventAsync SendEventInput.record
  cases input.message with
  | none => cases input.allocated <;> rfl
  | some message =>
      cases attachMsTimesOutAfter client.currentMessageTimeout
          input.currentMs with
      | none =>
          cases input.allocated <;> (dsimp only; split <;> rfl)
      | some timesOutAfter =>
          cases input.allocated <;> cases input.callback <;>
            cases input.context <;> cases input.cloned <;>
              cases input.diagnosed <;> rfl

theorem sendEventAsync_ok_iff (input : SendEventInput Address Callback Context)
    (client : Client Address Callback Context) :
    (sendEventAsync input client).1 = .ok ↔
      (input.record client.currentMessageTimeout).isSome = true := by
  unfold sendEventAsync SendEventInput.record
  cases input.message with
  | none => simp
  | some message =>
      cases attachMsTimesOutAfter client.currentMessageTimeout
          input.currentMs <;>
        cases input.allocated <;> cases input.callback <;>
          cases input.context <;> cases input.cloned <;>
            cases input.diagnosed <;> simp

section Steps

variable {client : Client Address Callback Context}
variable {mailbox : Mailbox Callback Context}

omit [DecidableEq Address] in
theorem calls_eq (result : ConfirmationResult)
    (entries : List (Entry Address Callback Context)) :
    calls result entries =
      (recordsOf entries).filterMap fun record => record.call result := by
  rw [calls, List.filterMap_map]
  rfl

theorem confirmationsOf_append
    (settled : List (MessageRecord Callback Context × ConfirmationResult))
    (records : List (MessageRecord Callback Context))
    (result : ConfirmationResult) :
    confirmationsOf
        (settled ++ records.map fun record => (record, result)) =
      confirmationsOf settled ++
        records.filterMap fun record => record.call result := by
  rw [confirmationsOf, List.filterMap_append, List.filterMap_map]
  rfl

omit [DecidableEq Address] in
theorem Tracks.bounded (tracks : Tracks client mailbox) :
    mailbox.line.waiting.length ≤ client.accepted.length := by
  have conserved := tracks.leads.conserves.length_eq
  rw [tracks.accepted, ← conserved, List.length_append]
  exact Nat.le_add_left _ _

omit [DecidableEq Address] in
theorem Tracks.freed (tracks : Tracks client mailbox)
    (empty : mailbox.line.waiting = []) (address : Address) :
    client.records address = none := by
  obtain ⟨waiting, lists, same⟩ := tracks.lists
  refine lists.noMore address ?_
  rw [List.map_eq_nil_iff.mp (same.trans empty)]
  exact List.not_mem_nil

theorem tracks_create (links : Rings.Links Address)
    {waitingToSend eventConfirmations : Address}
    (different : eventConfirmations ≠ waitingToSend) :
    Tracks (createClient links waitingToSend eventConfirmations :
      Client Address Callback Context) Mailbox.empty where
  lists := ⟨[], lists_createClient links (by simpa using different), rfl⟩
  confirmations := rfl
  accepted := rfl
  timeout := rfl
  batching := rfl
  leads := .start

theorem Tracks.sendEventAsync
    {input : SendEventInput Address Callback Context}
    (allocates : Allocates client (.sendEventAsync input))
    (tracks : Tracks client mailbox) :
    Outcome.Matches Tracks (fun _ _ => True)
      (clientStep (.sendEventAsync input) client)
      (mailbox.step (.sendEventAsync input)) := by
  rw [clientStep, sendEventAsync_eq, Mailbox.step, ← tracks.timeout]
  cases allocated : input.allocated with
  | none =>
      have unmade : input.record client.currentMessageTimeout = none := by
        unfold SendEventInput.record
        split
        · simp [allocated]
        · rfl
      rw [unmade]
      exact .again tracks
  | some address =>
      cases input.record client.currentMessageTimeout with
      | none => exact .again tracks
      | some record =>
          obtain ⟨free, notWaiting, notSending⟩ := allocates address allocated
          obtain ⟨waiting, lists, same⟩ := tracks.lists
          have inserted := lists.insert (address, record) free
            notWaiting notSending (client.accepted ++ [record])
          refine .again
            { lists := ⟨waiting ++ [(address, record)], inserted, ?_⟩
              confirmations := tracks.confirmations
              accepted := ?_
              timeout := tracks.timeout
              batching := tracks.batching
              leads := tracks.leads.submit record }
          · rw [recordsOf, List.map_append]
            exact congrArg (· ++ [record]) same
          · rw [tracks.accepted]
            rfl

omit [DecidableEq Address] in
theorem recordsOf_filter (keeps : MessageRecord Callback Context → Bool)
    (entries : List (Entry Address Callback Context)) :
    recordsOf (entries.filter fun entry => keeps entry.2) =
      (recordsOf entries).filter keeps := by
  rw [recordsOf, List.filter_map]
  rfl

theorem Tracks.timeouts (currentMs : Option (BitVec 32))
    (tracks : Tracks client mailbox) :
    ∃ expired, doTimeouts currentMs client = some expired ∧
      Tracks expired
        { mailbox with
          line := mailbox.line.expire (fun record => record.isLate currentMs)
            .messageTimeout } := by
  obtain ⟨waiting, lists, same⟩ := tracks.lists
  have bound := tracks.bounded
  rw [← same, List.length_map] at bound
  obtain ⟨links, records, expires, kept⟩ := lists.timeouts currentMs bound
  refine ⟨_, expires,
    { lists := ⟨_, kept, ?_⟩
      confirmations := ?_
      accepted := tracks.accepted
      timeout := tracks.timeout
      batching := tracks.batching
      leads := tracks.leads.expire _ }⟩
  · rw [recordsOf_filter fun record => !record.isLate currentMs, same]
    rfl
  · rw [calls_eq, recordsOf_filter fun record => record.isLate currentMs,
      same, Line.expire, confirmationsOf_append, ← tracks.confirmations]
    rfl

/-- `DoEvent` settles what the plan says, or reads what it has freed. -/
theorem Tracks.doEvent (attempt : EventAttempt)
    (tracks : Tracks client mailbox) :
    if readsFreed mailbox.doBatchedTransfers attempt
        mailbox.line.waiting then
      transportDoEvent attempt client = none
    else
      ∃ worked, transportDoEvent attempt client = some worked ∧
        Tracks worked
          { mailbox with
            line := mailbox.line.settle
              (settlement mailbox.doBatchedTransfers attempt
                mailbox.line.waiting).1
              (settlement mailbox.doBatchedTransfers attempt
                mailbox.line.waiting).2 } := by
  obtain ⟨waiting, lists, same⟩ := tracks.lists
  have bound := tracks.bounded
  rw [← same, List.length_map] at bound
  have overflow : readsFreed client.doBatchedTransfers attempt
      (recordsOf waiting) = readsFreed mailbox.doBatchedTransfers attempt
        mailbox.line.waiting := by
    rw [tracks.batching, same]
  have plan : settlement client.doBatchedTransfers attempt
      (recordsOf waiting) = settlement mailbox.doBatchedTransfers attempt
        mailbox.line.waiting := by
    rw [tracks.batching, same]
  split
  case isTrue overflows =>
    exact lists.doEvent_none attempt bound (overflow.trans overflows)
  case isFalse safe =>
    obtain ⟨links, records, works, kept⟩ := lists.doEvent_settles attempt
      bound (overflow.trans (Bool.eq_false_of_not_eq_true safe))
    have inTurn := settlement_inTurn mailbox.doBatchedTransfers attempt
      mailbox.line.waiting
    rw [plan] at works kept
    generalize settlement mailbox.doBatchedTransfers attempt
      mailbox.line.waiting = settled at works kept inTurn ⊢
    refine ⟨_, works,
      { lists := ⟨_, kept, ?_⟩
        confirmations := ?_
        accepted := tracks.accepted
        timeout := tracks.timeout
        batching := tracks.batching
        leads := tracks.leads.settle _ inTurn }⟩
    · rw [recordsOf, List.map_drop]
      exact congrArg (List.drop _) same
    · rw [calls_eq, Line.settle, confirmationsOf_append,
        ← tracks.confirmations, ← same, ← List.map_take]
      rfl

/-- One round of work is one round of the mailbox, down to the fault. -/
theorem Tracks.doWork (currentMs : Option (BitVec 32))
    (attempt : EventAttempt) (tracks : Tracks client mailbox) :
    Outcome.Matches Tracks (fun _ _ => True)
      (clientStep (.doWork currentMs attempt) client)
      (mailbox.work currentMs attempt) := by
  obtain ⟨expired, expires, late⟩ := tracks.timeouts currentMs
  have worked := late.doEvent attempt
  rw [clientStep, clientDoWork, expires, Option.bind_some, Mailbox.work]
  split at worked
  case isTrue overflows =>
    rw [worked, if_pos overflows]
    exact .halted trivial
  case isFalse safe =>
    obtain ⟨next, works, kept⟩ := worked
    rw [works, if_neg safe]
    exact .again kept

/-- A call of the library is a step of the mailbox. -/
theorem Tracks.step {call : ClientCall Address Callback Context}
    (allocates : Allocates client call) (tracks : Tracks client mailbox) :
    Outcome.Matches Tracks (fun _ _ => True) (clientStep call client)
      (mailbox.step call) := by
  cases call with
  | sendEventAsync input => exact tracks.sendEventAsync allocates
  | doWork currentMs attempt => exact tracks.doWork currentMs attempt
  | setMessageTimeout value =>
      obtain ⟨waiting, ⟨waits, sends, apart, stored, noMore⟩, same⟩ :=
        tracks.lists
      exact .again ⟨⟨waiting, ⟨waits, sends, apart, stored, noMore⟩, same⟩,
        tracks.confirmations, tracks.accepted, rfl, tracks.batching,
        tracks.leads⟩
  | setBatching batching =>
      obtain ⟨waiting, ⟨waits, sends, apart, stored, noMore⟩, same⟩ :=
        tracks.lists
      exact .again ⟨⟨waiting, ⟨waits, sends, apart, stored, noMore⟩, same⟩,
        tracks.confirmations, tracks.accepted, tracks.timeout, rfl,
        tracks.leads⟩

end Steps

section Runs

variable {links : Rings.Links Address}
variable {waitingToSend eventConfirmations : Address}

abbrev clientRun (calls : List (ClientCall Address Callback Context))
    (links : Rings.Links Address)
    (waitingToSend eventConfirmations : Address) :
    Outcome (Client Address Callback Context) ClientFault :=
  run clientStep calls
    (createClient links waitingToSend eventConfirmations)

/-- No block that `malloc` returns in this run is in use. -/
abbrev AllocatesAlong (calls : List (ClientCall Address Callback Context))
    (links : Rings.Links Address)
    (waitingToSend eventConfirmations : Address) : Prop :=
  EveryStep clientStep Allocates calls
    (createClient links waitingToSend eventConfirmations)

theorem clientRun_matches
    {calls : List (ClientCall Address Callback Context)}
    (different : eventConfirmations ≠ waitingToSend)
    (allocates :
      AllocatesAlong calls links waitingToSend eventConfirmations) :
    Outcome.Matches Tracks (fun _ _ => True)
      (clientRun calls links waitingToSend eventConfirmations)
      (run Mailbox.step calls Mailbox.empty) := by
  have simulated : Outcome.Matches Tracks (fun _ _ => True)
      (clientRun calls links waitingToSend eventConfirmations)
      (run Mailbox.step (calls.map id) Mailbox.empty) :=
    run_simulates id
      (fun _ _ _ allocated tracks => Tracks.step allocated tracks)
      (tracks_create links different) allocates
  rwa [List.map_id] at simulated

/-- What can be read off a client is what this mailbox says. -/
structure Exposes (client : Client Address Callback Context)
    (mailbox : Mailbox Callback Context) : Prop where
  queue : ∃ waiting,
    ListHolds client.links client.waitingToSend (addresses waiting) ∧
      Stored client.records waiting ∧
      recordsOf waiting = mailbox.line.waiting
  confirmations : client.confirmations =
    confirmationsOf mailbox.line.settled
  accepted : client.accepted = mailbox.accepted

omit [DecidableEq Address] in
theorem Tracks.exposes {client : Client Address Callback Context}
    {mailbox : Mailbox Callback Context} (tracks : Tracks client mailbox) :
    Exposes client mailbox := by
  obtain ⟨waiting, lists, same⟩ := tracks.lists
  have stored := lists.stored
  rw [List.append_nil] at stored
  exact ⟨⟨waiting, lists.waits, stored, same⟩, tracks.confirmations,
    tracks.accepted⟩

/-- The pointers do what the mailbox does, along every run and down to the
faults. -/
theorem clientRun_refines
    {calls : List (ClientCall Address Callback Context)}
    (different : eventConfirmations ≠ waitingToSend)
    (allocates :
      AllocatesAlong calls links waitingToSend eventConfirmations) :
    Outcome.Matches Exposes (fun _ _ => True)
      (clientRun calls links waitingToSend eventConfirmations)
      (run Mailbox.step calls Mailbox.empty) :=
  (clientRun_matches different allocates).imp fun _ _ tracks =>
    tracks.exposes

theorem clientRun_tracks
    {calls : List (ClientCall Address Callback Context)}
    {client : Client Address Callback Context}
    (different : eventConfirmations ≠ waitingToSend)
    (allocates :
      AllocatesAlong calls links waitingToSend eventConfirmations)
    (reached : clientRun calls links waitingToSend eventConfirmations =
      .again client) :
    ∃ mailbox, run Mailbox.step calls Mailbox.empty = .again mailbox ∧
      Tracks client mailbox := by
  have refined := clientRun_matches different allocates
  rw [reached] at refined
  cases modelled : run Mailbox.step calls Mailbox.empty with
  | halted fault =>
      rw [modelled] at refined
      cases refined
  | again mailbox =>
      rw [modelled] at refined
      cases refined with
      | again tracks => exact ⟨mailbox, rfl, tracks⟩

omit [DecidableEq Address] in
/-- Whom a record calls. -/
def MessageRecord.target (record : MessageRecord Callback Context) :
    Option (Callback × Option Context) :=
  record.callback.map fun callback => (callback, record.context)

def Confirmation.target (confirmation : Confirmation Callback Context) :
    Callback × Option Context :=
  (confirmation.callback, confirmation.context)

theorem target_call (record : MessageRecord Callback Context)
    (result : ConfirmationResult) :
    (record.call result).map Confirmation.target = record.target := by
  rw [MessageRecord.call, MessageRecord.target, Option.map_map]
  rfl

theorem targets_confirmationsOf
    (settled : List (MessageRecord Callback Context × ConfirmationResult)) :
    (confirmationsOf settled).map Confirmation.target =
      (settled.map Prod.fst).filterMap MessageRecord.target := by
  rw [confirmationsOf, List.map_filterMap, List.filterMap_map]
  exact List.filterMap_congr fun entry _ => target_call entry.1 entry.2

/-- Destroying a client completes what still waits and frees all its
records. -/
theorem Tracks.destroy {client : Client Address Callback Context}
    {mailbox : Mailbox Callback Context} (tracks : Tracks client mailbox) :
    ∃ final, destroyMessages client = some final ∧
      (∀ address, final.records address = none) ∧
      final.confirmations.map Confirmation.target =
        (mailbox.line.settledItems ++ mailbox.line.waiting).filterMap
          MessageRecord.target := by
  obtain ⟨waiting, lists, same⟩ := tracks.lists
  have bound := tracks.bounded
  rw [← same, List.length_map] at bound
  obtain ⟨links, records, destroys, emptied⟩ := lists.destroy bound
  refine ⟨_, destroys,
    fun address => emptied.noMore address List.not_mem_nil, ?_⟩
  change (client.confirmations ++ calls .becauseDestroy waiting).map
    Confirmation.target = _
  rw [tracks.confirmations, calls_eq, same, List.map_append,
    targets_confirmationsOf, List.filterMap_append, List.map_filterMap,
    Line.settledItems]
  congr 1
  exact List.filterMap_congr fun record _ => target_call record _

structure Mailbox.Untimed (mailbox : Mailbox Callback Context) : Prop where
  timeout : mailbox.currentMessageTimeout = 0
  waiting : ∀ record ∈ mailbox.line.waiting, record.timesOutAfter = 0
  settled : ∀ entry ∈ mailbox.line.settled, entry.2 ≠ .messageTimeout

def SetsNoTimeout : ClientCall Address Callback Context → Prop
  | .setMessageTimeout value => value = 0
  | _ => True

omit [DecidableEq Address] in
theorem SendEventInput.timesOutAfter_record
    {input : SendEventInput Address Callback Context}
    {record : MessageRecord Callback Context}
    (made : input.record 0 = some record) : record.timesOutAfter = 0 := by
  unfold SendEventInput.record at made
  split at made
  · rename_i message timesOutAfter _ attached
    split at made
    · cases made
      cases attached
      rfl
    · cases made
  · cases made

theorem MessageRecord.isLate_of_untimed
    {record : MessageRecord Callback Context}
    (untimed : record.timesOutAfter = 0) (currentMs : Option (BitVec 32)) :
    record.isLate currentMs = false := by
  cases currentMs <;> simp [MessageRecord.isLate, MessageRecord.late, untimed]

omit [DecidableEq Address] in
theorem Mailbox.Untimed.step {mailbox next : Mailbox Callback Context}
    {call : ClientCall Address Callback Context}
    (untimed : mailbox.Untimed) (sets : SetsNoTimeout call)
    (stepped : mailbox.step call = .again next) : next.Untimed := by
  cases call with
  | sendEventAsync input =>
      rw [Mailbox.step, untimed.timeout] at stepped
      cases made : input.record 0 with
      | none =>
          rw [made] at stepped
          cases stepped
          exact untimed
      | some record =>
          rw [made] at stepped
          cases stepped
          refine ⟨untimed.timeout, fun other member => ?_, untimed.settled⟩
          rcases List.mem_append.mp member with before | new
          · exact untimed.waiting other before
          · rw [List.mem_singleton.mp new]
            exact SendEventInput.timesOutAfter_record made
  | doWork currentMs attempt =>
      rw [Mailbox.step, Mailbox.work, expire_none fun record member =>
        MessageRecord.isLate_of_untimed (untimed.waiting record member) _]
        at stepped
      split at stepped
      · cases stepped
      · cases stepped
        refine ⟨untimed.timeout, fun record member =>
          untimed.waiting record (List.mem_of_mem_drop member),
          fun entry member => ?_⟩
        rcases List.mem_append.mp member with before | new
        · exact untimed.settled entry before
        · obtain ⟨record, _, rfl⟩ := List.mem_map.mp new
          exact settlement_inTurn _ _ _
  | setMessageTimeout value =>
      cases stepped
      exact ⟨sets, untimed.waiting, untimed.settled⟩
  | setBatching batching =>
      cases stepped
      exact ⟨untimed.timeout, untimed.waiting, untimed.settled⟩

/-- When the client is destroyed every accepted message has called back
exactly once, in the order of acceptance if no timeout was set, and no record
is left on the heap. -/
theorem everyMessage_confirmedOnce
    {calls : List (ClientCall Address Callback Context)}
    {client : Client Address Callback Context}
    (different : eventConfirmations ≠ waitingToSend)
    (allocates :
      AllocatesAlong calls links waitingToSend eventConfirmations)
    (reached : clientRun calls links waitingToSend eventConfirmations =
      .again client) :
    ∃ final, destroyMessages client = some final ∧
      (∀ address, final.records address = none) ∧
      (final.confirmations.map Confirmation.target).Perm
        (client.accepted.filterMap MessageRecord.target) ∧
      ((∀ call ∈ calls, SetsNoTimeout call) →
        final.confirmations.map Confirmation.target =
          client.accepted.filterMap MessageRecord.target) := by
  obtain ⟨mailbox, modelled, tracks⟩ :=
    clientRun_tracks different allocates reached
  obtain ⟨final, destroys, freed, targets⟩ := tracks.destroy
  refine ⟨final, destroys, freed, ?_, fun untimed => ?_⟩
  · rw [targets, tracks.accepted]
    exact tracks.leads.conserves.filterMap _
  · have punctual := run_of_invariant Mailbox.Untimed
      (fun _ call member _ untimedBefore _ stepped =>
        untimedBefore.step (untimed call member) stepped)
      ⟨rfl, by rintro record ⟨⟩, by rintro entry ⟨⟩⟩
      (everyStep_of_forall (fun _ _ _ => trivial) _) modelled
    rw [targets, tracks.accepted, tracks.leads.fifo punctual.settled]

/-- At any moment the heap holds the records of the queue and no others.  They
are in the order of acceptance, and with those called back they are the
accepted ones. -/
theorem queue_holdsUnconfirmed
    {calls : List (ClientCall Address Callback Context)}
    {client : Client Address Callback Context}
    (different : eventConfirmations ≠ waitingToSend)
    (allocates :
      AllocatesAlong calls links waitingToSend eventConfirmations)
    (reached : clientRun calls links waitingToSend eventConfirmations =
      .again client) :
    ∃ waiting, ListHolds client.links client.waitingToSend
        (addresses waiting) ∧
      (∀ address record, client.records address = some record ↔
        (address, record) ∈ waiting) ∧
      (recordsOf waiting).Sublist client.accepted ∧
      (client.confirmations.map Confirmation.target ++
          (recordsOf waiting).filterMap MessageRecord.target).Perm
        (client.accepted.filterMap MessageRecord.target) := by
  obtain ⟨mailbox, _, tracks⟩ :=
    clientRun_tracks different allocates reached
  obtain ⟨waiting, lists, same⟩ := tracks.lists
  refine ⟨waiting, lists.waits, fun address record => ⟨fun held => ?_,
    fun member => lists.stored _ (List.mem_append_left _ member)⟩, ?_, ?_⟩
  · by_contra absent
    have outside : address ∉ addresses (waiting ++ []) := by
      intro inside
      obtain ⟨⟨other, stored⟩, member, rfl⟩ := List.mem_map.mp inside
      have found := lists.stored _ member
      rw [held] at found
      cases found
      exact absent (by simpa using member)
    rw [lists.noMore address outside] at held
    cases held
  · rw [same, tracks.accepted]
    exact (List.sublist_append_right ..).trans tracks.leads.inOrder
  · rw [same, tracks.confirmations, targets_confirmationsOf,
      ← List.filterMap_append, tracks.accepted]
    exact tracks.leads.conserves.filterMap _

/-! A run in which the block of a message that is done serves another one. -/

/-- An attempt that nothing disturbs. -/
def undisturbed : EventAttempt where
  contentTypeReplaced := true
  payloadConstructed := true
  itemMade := fun _ => true
  itemAppended := fun _ => true
  headersCloned := true
  propertiesRead := true
  headerSet := fun _ => true
  systemHeadersSet := true
  bufferCreated := true
  bufferBuilt := true
  executed := true
  statusCode := 204

def sampleSend (allocated : Nat) (bytes : Bytes) :
    ClientCall Nat Nat Unit :=
  .sendEventAsync
    { message := some ⟨.byteArray bytes, [(bytesOf "unit", bytesOf "cm")]⟩
      callback := some allocated
      context := none
      allocated := some allocated
      currentMs := some 40
      cloned := true
      diagnosed := true }

def sampleCalls : List (ClientCall Nat Nat Unit) :=
  [sampleSend 2 [49], sampleSend 3 [50], .doWork (some 41) undisturbed,
    .setBatching true, .setMessageTimeout 9, sampleSend 2 [51],
    .doWork (some 60) { undisturbed with statusCode := 503 }]

def sampleLinks : Rings.Links Nat := ⟨id, id⟩

theorem sampleCalls_allocates : AllocatesAlong sampleCalls sampleLinks 0 1 := by
  decide +kernel

theorem sampleCalls_goOn :
    ∃ client, clientRun sampleCalls sampleLinks 0 1 = .again client :=
  ⟨_, rfl⟩

theorem sampleCalls_confirmedOnce :
    ∃ client final, clientRun sampleCalls sampleLinks 0 1 = .again client ∧
      destroyMessages client = some final ∧
      (final.confirmations.map Confirmation.target).Perm
        (client.accepted.filterMap MessageRecord.target) := by
  obtain ⟨client, reached⟩ := sampleCalls_goOn
  obtain ⟨final, destroys, _, once, _⟩ := everyMessage_confirmedOnce
    Nat.one_ne_zero sampleCalls_allocates reached
  exact ⟨client, final, reached, destroys, once⟩

theorem sampleCalls_refine :
    Outcome.Matches Exposes (fun _ _ => True)
      (clientRun sampleCalls sampleLinks 0 1)
      (run Mailbox.step sampleCalls Mailbox.empty) :=
  clientRun_refines Nat.one_ne_zero sampleCalls_allocates

theorem sampleCalls_holdUnconfirmed :
    ∃ client waiting, clientRun sampleCalls sampleLinks 0 1 =
        .again client ∧
      ListHolds client.links client.waitingToSend (addresses waiting) ∧
      (recordsOf waiting).Sublist client.accepted := by
  obtain ⟨client, reached⟩ := sampleCalls_goOn
  obtain ⟨waiting, holds, _, ordered, _⟩ := queue_holdsUnconfirmed
    Nat.one_ne_zero sampleCalls_allocates reached
  exact ⟨client, waiting, reached, holds, ordered⟩

/-- Every message that waits fits a request with its properties. -/
def Mailbox.Fits (mailbox : Mailbox Callback Context) : Prop :=
  ∀ record ∈ mailbox.line.waiting,
    record.message.itemSize ≤ maximumMessageSize

/-- The message of the call fits a request with its properties. -/
def SendsFitting : ClientCall Address Callback Context → Prop
  | .sendEventAsync input => ∀ message, input.message = some message →
      message.itemSize ≤ maximumMessageSize
  | _ => True

theorem readsFreed_of_fits (batching : Bool) (attempt : EventAttempt)
    {waiting : List (MessageRecord Callback Context)}
    (fits : ∀ record ∈ waiting,
      record.message.itemSize ≤ maximumMessageSize) :
    readsFreed batching attempt waiting = false := by
  cases waiting with
  | nil => rfl
  | cons record rest =>
      have inSize : propertyHeaders attempt.headerSet
          record.message.properties 0 record.message.payloadSize ≠
            .tooLarge :=
        propertyHeaders_of_fits _ (fits record List.mem_cons_self)
      simp [readsFreed, inSize]

omit [DecidableEq Address] in
theorem SendEventInput.fits_record
    {input : SendEventInput Address Callback Context}
    {currentMessageTimeout : BitVec 32}
    {record : MessageRecord Callback Context}
    (fitting : SendsFitting (.sendEventAsync input))
    (made : input.record currentMessageTimeout = some record) :
    record.message.itemSize ≤ maximumMessageSize := by
  unfold SendEventInput.record at made
  split at made
  · rename_i message timesOutAfter given _
    split at made
    · cases made
      exact fitting message given
    · cases made
  · cases made

omit [DecidableEq Address] in
/-- A mailbox of messages that fit takes every fitting call. -/
theorem Mailbox.Fits.step {mailbox : Mailbox Callback Context}
    {call : ClientCall Address Callback Context}
    (fits : mailbox.Fits) (fitting : SendsFitting call) :
    ∃ next, mailbox.step call = .again next ∧ next.Fits := by
  cases call with
  | sendEventAsync input =>
      cases made : input.record mailbox.currentMessageTimeout with
      | none => exact ⟨mailbox, by rw [Mailbox.step, made], fits⟩
      | some record =>
          refine ⟨mailbox.submit record, by rw [Mailbox.step, made],
            fun other member => ?_⟩
          rcases List.mem_append.mp member with before | new
          · exact fits other before
          · rw [List.mem_singleton.mp new]
            exact SendEventInput.fits_record fitting made
  | doWork currentMs attempt =>
      have left : ∀ record ∈ (mailbox.line.expire
          (fun record => record.isLate currentMs) .messageTimeout).waiting,
          record.message.itemSize ≤ maximumMessageSize :=
        fun record member => fits record (List.mem_of_mem_filter member)
      rw [Mailbox.step, Mailbox.work,
        readsFreed_of_fits _ attempt left, if_neg Bool.false_ne_true]
      exact ⟨_, rfl, fun record member =>
        left record (List.mem_of_mem_drop member)⟩
  | setMessageTimeout value => exact ⟨_, rfl, fits⟩
  | setBatching batching => exact ⟨_, rfl, fits⟩

/-- As long as every message fits with its properties no call follows a
pointer to a record that is not there, and every loop ends. -/
theorem clientRun_safe
    {calls : List (ClientCall Address Callback Context)}
    (different : eventConfirmations ≠ waitingToSend)
    (allocates :
      AllocatesAlong calls links waitingToSend eventConfirmations)
    (fitting : ∀ call ∈ calls, SendsFitting call) :
    ∃ client, clientRun calls links waitingToSend eventConfirmations =
      .again client := by
  have refined := clientRun_matches different allocates
  have start : (Mailbox.empty : Mailbox Callback Context).Fits := by
    rintro record ⟨⟩
  have advances : ∀ mailbox : Mailbox Callback Context, ∀ call ∈ calls,
      mailbox.Fits →
        ∃ next, mailbox.step call = .again next ∧ next.Fits :=
    fun _ call member fits => fits.step (fitting call member)
  obtain ⟨mailbox, modelled, _⟩ : ∃ next,
      run Mailbox.step (calls ++ []) Mailbox.empty =
        run Mailbox.step [] next ∧ next.Fits :=
    run_append_of_invariant Mailbox.Fits start advances
  rw [List.append_nil] at modelled
  rw [modelled] at refined
  cases reached : clientRun calls links waitingToSend eventConfirmations with
  | again client => exact ⟨client, rfl⟩
  | halted fault =>
      rw [reached] at refined
      cases refined

theorem sampleCalls_safe :
    ∃ client, clientRun sampleCalls sampleLinks 0 1 = .again client := by
  refine clientRun_safe Nat.one_ne_zero sampleCalls_allocates ?_
  have small : ∀ bytes : Bytes, bytes.length ≤ 1 → ∀ allocated,
      SendsFitting (sampleSend allocated bytes) := by
    intro bytes short allocated message given
    cases given
    simp only [EventMessage.itemSize, EventMessage.payloadSize,
      EventMessage.contentSize, maximumPayloadOverhead, maximumMessageSize]
    have property : ([(bytesOf "unit", bytesOf "cm")].map propertySize).sum =
        22 := by decide
    omega
  simp only [sampleCalls, List.forall_mem_cons, List.not_mem_nil,
    false_imp_iff, implies_true, and_true]
  exact ⟨small _ (by decide) _, small _ (by decide) _, trivial, trivial,
    trivial, small _ (by decide) _, trivial⟩

end Runs

end FunnelDispenser.Transport
