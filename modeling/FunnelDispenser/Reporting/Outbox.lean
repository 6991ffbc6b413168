import FunnelDispenser.Device.HubEffects
import FunnelDispenser.Reporting.Payload
import FunnelDispenser.Transport.Delivery

/-!
# The queue of the firmware on the heap of the library

The firmware knows the client by the results of its calls and by its
callback.  Here the two run together: what the board calls its queue is the
linked list of the library, whatever the calls, the network and the rest of
the program do.
-/

namespace FunnelDispenser.Reporting

open CMemory Device StepRuns Deliveries Transport

universe u

variable {F : Type} [DoubleArith F]
variable {Address : Type u} [DecidableEq Address]

/-- What `QueueMessage` meets in the library. -/
structure Handing (Address : Type u) where
  allocated : Option Address
  currentMs : Option (BitVec 32)
  cloned : Bool
  diagnosed : Bool

omit [DecidableEq Address] in
/-- The arguments of `QueueMessage`: the text as bytes, and
`OnMessageSentCallback` without a context. -/
def Handing.call (handing : Handing Address) (payload : Bytes) :
    SendEventInput Address Unit Empty where
  message := some ⟨.byteArray (cStr payload), []⟩
  callback := some ()
  context := none
  allocated := handing.allocated
  currentMs := handing.currentMs
  cloned := handing.cloned
  diagnosed := handing.diagnosed

/-- The client of the firmware; its callback is `OnMessageSentCallback`. -/
abbrev FirmwareClient (Address : Type u) :=
  Client Address Unit Empty

/-- The board and the heap of the library. -/
structure LinkedState (F : Type) (Address : Type u) where
  board : Board F
  client : FirmwareClient Address

/-- What the program does with the client; `elsewhere` is the rest of it. -/
inductive FirmwareCall (F : Type) (Address : Type u) where
  | sendData (input : ReportInput F) (handing : Handing Address)
  | doWork (input : DoWorkInput F) (currentMs : Option (BitVec 32))
      (attempt : EventAttempt) (handing : Handing Address)
  | elsewhere (board : Board F)

section Linking

variable (printer : FloatPrinter F)

omit [DoubleArith F] in
/-- `QueueMessage` on the library: the report with the answer. -/
def handOver (handing : Handing Address) (input : ReportInput F)
    (message : DeviceStateMessage F) (client : FirmwareClient Address) :
    ReportInput F × FirmwareClient Address :=
  if input.created then
    let (result, next) :=
      sendEventAsync (handing.call (messagePayload printer message)) client
    ({ input with handedOver := result = .ok }, next)
  else
    (input, client)

/-- The callbacks that ran in between. -/
def observedSend (before after : FirmwareClient Address) : SendOutcome :=
  match after.confirmations.drop before.confirmations.length with
  | [] => .retry
  | confirmation :: _ => .completed confirmation.result

omit [DoubleArith F] in
def asksForData (input : DoWorkInput F) : Bool :=
  match input.message with
  | some message => message.content = some sendDataBody
  | none => false

omit [DoubleArith F] in
def counted (board : Board F) : Board F :=
  { board with
    hub := { board.hub with doWorkCalls := board.hub.doWorkCalls + 1 } }

/-- The rest of `DoWork` behind the attempt: the callbacks of the board, and
the report a command asks for. -/
def afterAttempt (toInt : Bytes → BitVec 32) (handing : Handing Address)
    (input : DoWorkInput F) (board : Board F)
    (worked : FirmwareClient Address) : LinkedState F Address :=
  let evented := doEvent input (counted board)
  let handed :=
    if asksForData input then
      handOver printer handing input.command.report
        (reportMessage input.command.report evented) worked
    else
      (input.command.report, worked)
  ⟨doWork toInt
      { input with command := { input.command with report := handed.1 } }
      board,
    handed.2⟩

def linkedStep (toInt : Bytes → BitVec 32)
    (call : FirmwareCall F Address) (state : LinkedState F Address) :
    Outcome (LinkedState F Address) ClientFault :=
  match call with
  | .sendData input handing =>
      let handed := handOver printer handing input
        (reportMessage input state.board) state.client
      .again ⟨sendData handed.1 state.board, handed.2⟩
  | .doWork input currentMs attempt handing =>
      match clientDoWork currentMs attempt state.client with
      | none => .halted .dangling
      | some worked =>
          .again <| afterAttempt printer toInt handing
            { input with send := observedSend state.client worked }
            state.board worked
  | .elsewhere board =>
      .again { state with board := { board with hub := state.board.hub } }

/-- `malloc` returns a block that is not in use when the message is handed
over. -/
def HandsOverFresh (state : LinkedState F Address) :
    FirmwareCall F Address → Prop
  | .sendData _ handing =>
      Allocates state.client (.sendEventAsync (handing.call []))
  | .doWork _ currentMs attempt handing =>
      ∀ worked, clientDoWork currentMs attempt state.client = some worked →
        Allocates worked (.sendEventAsync (handing.call []))
  | .elsewhere _ => True

end Linking

section Outboxes

variable (printer : FloatPrinter F)

omit [DoubleArith F] in
def messageRecord (message : DeviceStateMessage F) :
    MessageRecord Unit Empty :=
  ⟨⟨.byteArray (cStr (messagePayload printer message)), []⟩, some (), none,
    0⟩

/-- The queue of the board is this mailbox. -/
structure Outbox (hub : HubClient F) (mailbox : Mailbox Unit Empty) :
    Prop where
  waiting : mailbox.line.waiting =
    hub.waitingToSend.map (messageRecord printer)
  settled : mailbox.line.settled =
    hub.confirmedOk.map fun message => (messageRecord printer message, .ok)
  accepted : mailbox.accepted = hub.accepted.map (messageRecord printer)
  timeout : mailbox.currentMessageTimeout = 0
  batching : mailbox.doBatchedTransfers = false

/-- The attempt gets through to the hub and is answered with success. -/
def delivers (attempt : EventAttempt) : Bool :=
  attempt.prepared && attempt.systemHeadersSet && attempt.succeeds

omit [DoubleArith F] in
theorem length_messagePayload_le (message : DeviceStateMessage F) :
    (messagePayload printer message).length ≤ messageMaxLen := by
  simp only [messagePayload, Json.printTo, Json.StaticStringBuilder.content,
    Json.StaticStringBuilder.print, Json.StaticStringBuilder.empty,
    List.nil_append, List.length_append, List.length_take,
    List.length_singleton, messageMaxLen]
  omega

omit [DoubleArith F] in
theorem payloadSize_messageRecord_le (message : DeviceStateMessage F) :
    (messageRecord printer message).message.payloadSize ≤
      maximumMessageSize := by
  have text : (cStr (messagePayload printer message)).length ≤
      messageMaxLen :=
    Nat.le_trans (List.takeWhile_sublist _).length_le
      (length_messagePayload_le printer message)
  simp only [EventMessage.payloadSize, messageRecord,
    EventMessage.contentSize, maximumPayloadOverhead, maximumMessageSize,
    messageMaxLen] at text ⊢
  omega

omit [DoubleArith F] in
/-- State messages have no properties that could be too large. -/
theorem readsFreed_messageRecord (attempt : EventAttempt)
    (messages : List (DeviceStateMessage F)) :
    readsFreed false attempt (messages.map (messageRecord printer)) =
      false := by
  cases messages with
  | nil => rfl
  | cons message rest =>
      simp [readsFreed, messageRecord, propertyHeaders]

omit [DoubleArith F] in
/-- An attempt delivers the oldest message or changes nothing. -/
theorem settle_messageRecord (attempt : EventAttempt)
    {line : Line (MessageRecord Unit Empty) ConfirmationResult}
    {messages : List (DeviceStateMessage F)}
    (queue : line.waiting = messages.map (messageRecord printer)) :
    line.settle (settlement false attempt line.waiting).1
        (settlement false attempt line.waiting).2 =
      if delivers attempt then line.settle 1 .ok else line := by
  rw [queue]
  cases messages with
  | nil =>
      have empty : line.settle 1 .ok = line.settle 0 .ok := by
        rw [Line.settle, Line.settle, queue]
        rfl
      rw [List.map_nil, settlement, empty, settle_zero, ite_self]
  | cons message rest =>
      have small := payloadSize_messageRecord_le printer message
      have planned : settlement false attempt
          ((message :: rest).map (messageRecord printer)) =
            if delivers attempt then (1, .ok) else (0, .ok) := by
        simp only [List.map_cons, settlement, Bool.false_eq_true, if_false,
          singleSettlement, Nat.not_lt.mpr small, delivers]
        by_cases prepared : attempt.prepared = true
        · simp [prepared, messageRecord, propertyHeaders]
        · simp [prepared]
      rw [planned]
      split
      · rfl
      · exact settle_zero line .ok

variable {printer}

omit [DoubleArith F] in
theorem Outbox.work {hub : HubClient F} {mailbox : Mailbox Unit Empty}
    (outbox : Outbox printer hub mailbox) (currentMs : Option (BitVec 32))
    (attempt : EventAttempt) :
    mailbox.work currentMs attempt =
      .again
        { mailbox with
          line :=
            if delivers attempt then mailbox.line.settle 1 .ok
            else mailbox.line } := by
  have early : ∀ record ∈ mailbox.line.waiting,
      record.isLate currentMs = false := by
    rw [outbox.waiting]
    intro record member
    obtain ⟨message, _, rfl⟩ := List.mem_map.mp member
    exact MessageRecord.isLate_of_untimed rfl currentMs
  have safe : readsFreed mailbox.doBatchedTransfers attempt
      mailbox.line.waiting = false := by
    rw [outbox.batching, outbox.waiting]
    exact readsFreed_messageRecord printer attempt hub.waitingToSend
  have settles := settle_messageRecord printer attempt outbox.waiting
  rw [← outbox.batching] at settles
  rw [Mailbox.work, expire_none early, safe, if_neg Bool.false_ne_true]
  exact congrArg (fun line => Outcome.again { mailbox with line := line })
    settles

/-- The result the firmware observes. -/
def attemptOutcome (attempt : EventAttempt)
    (queue : List (DeviceStateMessage F)) : SendOutcome :=
  if delivers attempt && !queue.isEmpty then .completed .ok else .retry

omit [DoubleArith F] in
/-- A round of work takes the queue where `DoEvent` of the board takes it. -/
theorem Outbox.doEvent {before after : Board F}
    {mailbox : Mailbox Unit Empty} {input : DoWorkInput F}
    (outbox : Outbox printer before.hub mailbox) {attempt : EventAttempt}
    (sent : input.send = attemptOutcome attempt before.hub.waitingToSend)
    (effect : DoEventEffect input before after) :
    Outbox printer after.hub
      { mailbox with
        line :=
          if delivers attempt then mailbox.line.settle 1 .ok
          else mailbox.line } := by
  obtain ⟨waiting, settled, accepted, timeout, batching⟩ := outbox
  rw [effect.hub]
  by_cases delivered : delivers attempt = true
  · rw [if_pos delivered]
    refine ⟨?_, ?_, accepted, timeout, batching⟩
    · cases queue : before.hub.waitingToSend <;>
        simp [Line.settle, waiting, remaining, finishesHead, sent,
          attemptOutcome, delivered, queue]
    · cases queue : before.hub.waitingToSend <;>
        simp [Line.settle, waiting, settled, confirmedNow, sent,
          attemptOutcome, delivered, queue]
  · rw [if_neg delivered]
    refine ⟨?_, ?_, accepted, timeout, batching⟩
    · simp [waiting, remaining, finishesHead, sent, attemptOutcome,
        delivered]
    · simp [settled, confirmedNow, sent, attemptOutcome, delivered]

/-- The list on the heap is the queue of the board. -/
def Linked (printer : FloatPrinter F) (hub : HubClient F)
    (client : FirmwareClient Address) : Prop :=
  ∃ mailbox, Tracks client mailbox ∧ Outbox printer hub mailbox

variable {client : FirmwareClient Address} {hub : HubClient F}

omit [DoubleArith F] [DecidableEq Address] in
theorem record_call (handing : Handing Address)
    (message : DeviceStateMessage F) :
    (handing.call (messagePayload printer message)).record 0 =
      if handing.allocated.isSome && handing.cloned && handing.diagnosed then
        some (messageRecord printer message)
      else none :=
  rfl

/-- What the queue is when a message was handed over. -/
def HubClient.after (hub : HubClient F) (accepted : Bool)
    (message : DeviceStateMessage F) : HubClient F :=
  if accepted then
    { hub with
      waitingToSend := hub.waitingToSend ++ [message]
      accepted := hub.accepted ++ [message] }
  else hub

omit [DoubleArith F] in
theorem Linked.handOver {handing : Handing Address}
    (linked : Linked printer hub client)
    (fresh : Allocates client (.sendEventAsync (handing.call [])))
    (input : ReportInput F) (message : DeviceStateMessage F) :
    let handed := handOver printer handing input message client
    Linked printer (HubClient.after hub handed.1.accepted message)
      handed.2 := by
  obtain ⟨mailbox, tracks, outbox⟩ := linked
  unfold Reporting.handOver
  by_cases created : input.created = true
  · generalize payload_eq : messagePayload printer message = payload
    have called : Allocates client
      (.sendEventAsync (handing.call payload)) := fresh
    have answer := sendEventAsync_ok_iff (handing.call payload) client
    have taken := tracks.sendEventAsync called
    rw [tracks.timeout, outbox.timeout, ← payload_eq, record_call] at answer
    rw [Mailbox.step, outbox.timeout, ← payload_eq, record_call] at taken
    rw [if_pos created, ← payload_eq]
    by_cases made : (handing.allocated.isSome && handing.cloned &&
        handing.diagnosed) = true
    · rw [if_pos made] at answer taken
      have accepted := answer.mpr rfl
      cases taken with
      | again next =>
          refine ⟨_, next, ?_⟩
          simp only [ReportInput.accepted, created, accepted, decide_true,
            Bool.and_self, HubClient.after, if_true]
          exact ⟨by simp [Mailbox.submit, Line.submit, outbox.waiting],
            outbox.settled, by simp [Mailbox.submit, outbox.accepted],
            outbox.timeout, outbox.batching⟩
    · rw [if_neg made] at answer taken
      have refused : ¬ (sendEventAsync (handing.call
          (messagePayload printer message)) client).1 = .ok := fun ok => by
        cases answer.mp ok
      cases taken with
      | again next =>
          refine ⟨_, next, ?_⟩
          simp only [ReportInput.accepted, created, refused, decide_false,
            Bool.and_false, HubClient.after, Bool.false_eq_true, if_false]
          exact outbox
  · have refused : input.accepted = false := by
      simp [ReportInput.accepted, created]
    rw [if_neg created]
    simp only [refused, HubClient.after, Bool.false_eq_true, if_false]
    exact ⟨mailbox, tracks, outbox⟩

omit [DoubleArith F] [DecidableEq Address] in
theorem observedSend_eq {attempt : EventAttempt}
    {worked : FirmwareClient Address} {mailbox : Mailbox Unit Empty}
    (outbox : Outbox printer hub mailbox) (tracks : Tracks client mailbox)
    (next : Tracks worked
      { mailbox with
        line :=
          if delivers attempt then mailbox.line.settle 1 .ok
          else mailbox.line }) :
    observedSend client worked =
      attemptOutcome attempt hub.waitingToSend := by
  have added : worked.confirmations = client.confirmations ++
      if delivers attempt then
        (mailbox.line.waiting.take 1).filterMap fun record =>
          record.call .ok
      else [] := by
    rw [next.confirmations, tracks.confirmations]
    split
    · rw [Line.settle, confirmationsOf_append]
    · rw [List.append_nil]
  rw [observedSend, added, List.drop_left, outbox.waiting, attemptOutcome]
  cases delivers attempt
  · rfl
  · cases hub.waitingToSend <;> rfl

/-- A report leaves the queue that handing its message over leaves. -/
theorem sendData_after (printer : FloatPrinter F) (handing : Handing Address)
    (input : ReportInput F) (board : Board F)
    (client : FirmwareClient Address) :
    let handed := handOver printer handing input
      (reportMessage input board) client
    (sendData handed.1 board).hub =
      HubClient.after board.hub handed.1.accepted
        (reportMessage input board) := by
  have same : reportMessage (handOver printer handing input
      (reportMessage input board) client).1 board =
        reportMessage input board := by
    unfold handOver
    split <;> rfl
  dsimp only
  rw [sendData_eq, HubClient.after, same]

theorem doWork_after (toInt : Bytes → BitVec 32) (input : DoWorkInput F)
    (board : Board F) :
    (doWork toInt input board).hub =
      if asksForData input then
        (sendData input.command.report (doEvent input (counted board))).hub
      else (doEvent input (counted board)).hub := by
  change (doMessages toInt input (doEvent input (counted board))).hub = _
  cases received : input.message with
  | none => simp [doMessages, asksForData, received]
  | some message =>
      simp only [doMessages, asksForData, received, decide_eq_true_eq]
      exact (receiveMessageCallback_effect toInt input.command message
        _).hub

theorem Linked.afterAttempt (toInt : Bytes → BitVec 32)
    {handing : Handing Address} {input : DoWorkInput F} {board : Board F}
    {worked : FirmwareClient Address}
    (evented : Linked printer (doEvent input (counted board)).hub worked)
    (fresh : Allocates worked (.sendEventAsync (handing.call []))) :
    let final := afterAttempt printer toInt handing input board worked
    Linked printer final.board.hub final.client := by
  have queued := fun report : ReportInput F => doWork_after toInt
    { input with command := { input.command with report := report } } board
  have noted : ∀ report : ReportInput F,
      asksForData
          { input with command := { input.command with report := report } } =
        asksForData input := fun _ => rfl
  dsimp only [Reporting.afterAttempt]
  rw [queued, noted]
  by_cases asks : asksForData input = true
  · simp only [asks, if_true]
    exact sendData_after printer handing input.command.report
      (doEvent input (counted board)) worked ▸ evented.handOver fresh _ _
  · simp only [asks]
    exact evented

theorem Linked.doWork (toInt : Bytes → BitVec 32)
    {state : LinkedState F Address} {currentMs : Option (BitVec 32)}
    {handing : Handing Address} (input : DoWorkInput F)
    (attempt : EventAttempt)
    (linked : Linked printer state.board.hub state.client)
    (fresh : HandsOverFresh state
      (.doWork input currentMs attempt handing)) :
    ∃ worked,
      clientDoWork currentMs attempt state.client = some worked ∧
      observedSend state.client worked =
        attemptOutcome attempt state.board.hub.waitingToSend ∧
      let final := Reporting.afterAttempt printer toInt handing
        { input with send := observedSend state.client worked }
        state.board worked
      Linked printer final.board.hub final.client := by
  obtain ⟨mailbox, tracks, outbox⟩ := linked
  have attempted := tracks.doWork currentMs attempt
  rw [outbox.work, clientStep] at attempted
  cases works : clientDoWork currentMs attempt state.client with
  | none =>
      rw [works] at attempted
      cases attempted
  | some worked =>
      rw [works] at attempted
      cases attempted with
      | again next =>
          have observed := observedSend_eq outbox tracks next
          have queued : Outbox printer (counted state.board).hub mailbox :=
            ⟨outbox.waiting, outbox.settled, outbox.accepted,
              outbox.timeout, outbox.batching⟩
          have evented := queued.doEvent observed
            (doEvent_effect
              { input with send := observedSend state.client worked } _)
          exact ⟨worked, rfl, observed,
            Linked.afterAttempt toInt ⟨_, next, evented⟩ (fresh worked works)⟩

/-- One call of the firmware. -/
theorem Linked.step (toInt : Bytes → BitVec 32)
    {state : LinkedState F Address} {call : FirmwareCall F Address}
    (linked : Linked printer state.board.hub state.client)
    (fresh : HandsOverFresh state call) :
    ∃ next, linkedStep printer toInt call state = .again next ∧
      Linked printer next.board.hub next.client := by
  cases call with
  | sendData input handing =>
      refine ⟨_, rfl, ?_⟩
      have handed := linked.handOver fresh input
        (reportMessage input state.board)
      exact sendData_after printer handing input state.board
        state.client ▸ handed
  | doWork input currentMs attempt handing =>
      obtain ⟨worked, works, _, kept⟩ :=
        linked.doWork toInt input attempt fresh
      exact ⟨_, by rw [linkedStep, works], kept⟩
  | elsewhere board => exact ⟨_, rfl, linked⟩

omit [DoubleArith F] [DecidableEq Address] in
/-- Messages are confirmed in the order in which they were accepted. -/
theorem accepted_eq {mailbox : Mailbox Unit Empty}
    (tracks : Tracks client mailbox) (outbox : Outbox printer hub mailbox) :
    client.accepted =
      (hub.confirmedOk ++ hub.waitingToSend).map (messageRecord printer) := by
  have punctual : ∀ entry ∈ mailbox.line.settled,
      entry.2 ≠ .messageTimeout := by
    rw [outbox.settled]
    intro entry member
    obtain ⟨message, _, rfl⟩ := List.mem_map.mp member
    simp
  have ordered := tracks.leads.fifo punctual
  rw [tracks.accepted, ← ordered, Line.settledItems, outbox.settled,
    outbox.waiting, List.map_append, List.map_map]
  rfl

def QueuesNothing : FirmwareCall F Address → Prop
  | .sendData _ _ => False
  | .doWork input _ _ _ => asksForData input = false
  | .elsewhere _ => True

/-- A round of work gets through to the hub. -/
def isDelivery : FirmwareCall F Address → Bool
  | .doWork _ _ attempt _ => delivers attempt
  | _ => false

/-- A delivery shortens the queue, and other calls that queue nothing leave it
as it is. -/
theorem Linked.step_queue (toInt : Bytes → BitVec 32)
    {state : LinkedState F Address} {call : FirmwareCall F Address}
    (linked : Linked printer state.board.hub state.client)
    (fresh : HandsOverFresh state call) (silent : QueuesNothing call) :
    ∃ next, linkedStep printer toInt call state = .again next ∧
      Linked printer next.board.hub next.client ∧
      next.board.hub.waitingToSend =
        if isDelivery call then state.board.hub.waitingToSend.tail
        else state.board.hub.waitingToSend := by
  cases call with
  | sendData input handing => exact silent.elim
  | doWork input currentMs attempt handing =>
      obtain ⟨worked, works, observed, kept⟩ :=
        linked.doWork toInt input attempt fresh
      refine ⟨_, by rw [linkedStep, works], kept, ?_⟩
      have unasked : ∀ report : ReportInput F, asksForData
          { input with
            send := observedSend state.client worked
            command := { input.command with report := report } } = false :=
        fun _ => silent
      dsimp only [Reporting.afterAttempt]
      rw [doWork_after, unasked, if_neg Bool.false_ne_true,
        (doEvent_effect _ _).hub]
      simp only [remaining, finishesHead, observed, attemptOutcome,
        isDelivery, counted]
      by_cases delivered : delivers attempt = true <;>
        cases queue : state.board.hub.waitingToSend <;> simp [delivered]
  | elsewhere board => exact ⟨_, rfl, linked, rfl⟩

/-- As many deliveries as messages wait empty the queue, whatever fails in
between. -/
theorem Linked.drains (toInt : Bytes → BitVec 32)
    {calls : List (FirmwareCall F Address)} {state : LinkedState F Address}
    (linked : Linked printer state.board.hub state.client)
    (fresh : EveryStep (linkedStep printer toInt) HandsOverFresh calls state)
    (silent : ∀ call ∈ calls, QueuesNothing call)
    (enough : state.board.hub.waitingToSend.length ≤
      calls.countP isDelivery) :
    ∃ final, run (linkedStep printer toInt) calls state = .again final ∧
      Linked printer final.board.hub final.client ∧
      final.board.hub.waitingToSend = [] := by
  induction calls generalizing state with
  | nil => exact ⟨state, rfl, linked, List.length_eq_zero_iff.mp
      (Nat.le_zero.mp enough)⟩
  | cons call rest inductionHypothesis =>
      obtain ⟨next, stepped, kept, queue⟩ :=
        linked.step_queue toInt fresh.1 (silent call List.mem_cons_self)
      rw [everyStep_cons_again stepped] at fresh
      rw [run_cons_again stepped]
      refine inductionHypothesis kept fresh.2
        (fun other member => silent other (List.mem_cons_of_mem _ member)) ?_
      rw [List.countP_cons] at enough
      rw [queue]
      split
      case isTrue delivered =>
        rw [if_pos delivered] at enough
        rw [List.length_tail]
        omega
      case isFalse kept =>
        rw [if_neg kept] at enough
        exact enough

omit [DoubleArith F] in
theorem linked_create {board : Board F} (links : Rings.Links Address)
    {waitingToSend eventConfirmations : Address}
    (different : eventConfirmations ≠ waitingToSend)
    (new : board.hub = HubClient.initial) :
    Linked printer board.hub
      (createClient links waitingToSend eventConfirmations) := by
  rw [new]
  exact ⟨Mailbox.empty, tracks_create links different,
    ⟨rfl, rfl, rfl, rfl, rfl⟩⟩

end Outboxes

section Runs

variable {printer : FloatPrinter F} {toInt : Bytes → BitVec 32}
variable {calls : List (FirmwareCall F Address)} {board : Board F}
variable {links : Rings.Links Address}
variable {waitingToSend eventConfirmations : Address}

abbrev linkedRun (printer : FloatPrinter F) (toInt : Bytes → BitVec 32)
    (calls : List (FirmwareCall F Address)) (board : Board F)
    (links : Rings.Links Address)
    (waitingToSend eventConfirmations : Address) :
    Outcome (LinkedState F Address) ClientFault :=
  run (linkedStep printer toInt) calls
    ⟨board, createClient links waitingToSend eventConfirmations⟩

/-- `malloc` keeps its promise in this run. -/
abbrev HandsOverFreshAlong (printer : FloatPrinter F)
    (toInt : Bytes → BitVec 32) (calls : List (FirmwareCall F Address))
    (board : Board F) (links : Rings.Links Address)
    (waitingToSend eventConfirmations : Address) : Prop :=
  EveryStep (linkedStep printer toInt) HandsOverFresh calls
    ⟨board, createClient links waitingToSend eventConfirmations⟩

/-- No call of the firmware runs into a fault of the library.  What the board
calls its queue is the list on the heap, with the texts of its messages in
the records, and what it counts as confirmed are the calls of its callback,
none of which reports a failure. -/
theorem queue_onHeap (new : board.hub = HubClient.initial)
    (different : eventConfirmations ≠ waitingToSend)
    (fresh : HandsOverFreshAlong printer toInt calls board links
      waitingToSend eventConfirmations) :
    ∃ final, linkedRun printer toInt calls board links waitingToSend
        eventConfirmations = .again final ∧
      (∃ waiting,
        ListHolds final.client.links final.client.waitingToSend
          (addresses waiting) ∧
        Stored final.client.records waiting ∧
        recordsOf waiting =
          final.board.hub.waitingToSend.map (messageRecord printer)) ∧
      final.client.confirmations =
        (final.board.hub.confirmedOk.map fun _ => ⟨(), none, .ok⟩) ∧
      final.client.accepted =
        final.board.hub.accepted.map (messageRecord printer) ∧
      final.client.accepted =
        (final.board.hub.confirmedOk ++ final.board.hub.waitingToSend).map
          (messageRecord printer) := by
  obtain ⟨final, reached, mailbox, tracks, outbox⟩ :=
    run_goesOn
      (fun state : LinkedState F Address =>
        Linked printer state.board.hub state.client)
      (fun state call linked handed => linked.step toInt handed)
      (linked_create links different new) fresh
  obtain ⟨waiting, lists, same⟩ := tracks.lists
  have stored := lists.stored
  rw [List.append_nil] at stored
  refine ⟨final, reached,
    ⟨waiting, lists.waits, stored, same.trans outbox.waiting⟩, ?_,
    tracks.accepted.trans outbox.accepted, accepted_eq tracks outbox⟩
  rw [tracks.confirmations, outbox.settled, confirmationsOf,
    List.filterMap_map]
  exact List.filterMap_eq_map ▸ rfl

/-! One report, an attempt that fails, and one that is answered. -/

def zeroPrinter : FloatPrinter ℚ where
  print _ := bytesOf "0"
  length_print_le _ := by decide

def zeroReport : ReportInput ℚ where
  readings := ⟨⟨0, 0⟩, 0, 0, 0, 0⟩
  readDateTime := bytesOf "2019-3-4 5:6:7"
  freeHeap := 20000
  created := true
  handedOver := true

def sampleReport : FirmwareCall ℚ Nat :=
  .sendData zeroReport ⟨some 2, some 10, true, true⟩

def sampleRound (statusCode : Nat) : FirmwareCall ℚ Nat :=
  .doWork ⟨.retry, [], none, zeroReport, .complete⟩ (some 12)
    { undisturbed with statusCode := statusCode }
    ⟨none, none, false, false⟩

theorem sampleRounds_fresh (rounds : List Nat) :
    HandsOverFreshAlong zeroPrinter (fun _ => 0)
      (sampleReport :: rounds.map sampleRound) (Board.powerUp none)
      sampleLinks 0 1 := by
  have first : Allocates (createClient sampleLinks 0 1 : FirmwareClient Nat)
      (.sendEventAsync (Handing.call ⟨some 2, some 10, true, true⟩ [])) := by
    rintro address ⟨⟩
    exact ⟨rfl, by decide, by decide⟩
  have others : ∀ state : LinkedState ℚ Nat,
      ∀ call ∈ rounds.map sampleRound, HandsOverFresh state call := by
    intro state call member
    obtain ⟨statusCode, _, rfl⟩ := List.mem_map.mp member
    rintro worked _ address ⟨⟩
  rw [HandsOverFreshAlong, everyStep_cons_again rfl]
  exact ⟨first, everyStep_of_forall others _⟩

theorem sampleRounds_onHeap :
    ∃ final, linkedRun zeroPrinter (fun _ => 0)
        (sampleReport :: [503, 204].map sampleRound) (Board.powerUp none)
        sampleLinks 0 1 = .again final ∧
      final.client.accepted =
        (final.board.hub.confirmedOk ++ final.board.hub.waitingToSend).map
          (messageRecord zeroPrinter) := by
  obtain ⟨final, reached, _, _, _, ordered⟩ :=
    queue_onHeap rfl Nat.one_ne_zero
      (sampleRounds_fresh [503, 204])
  exact ⟨final, reached, ordered⟩

/-- After any calls, as many deliveries as messages wait leave the heap empty
and everything confirmed, if no report comes in between. -/
theorem queue_drains {later : List (FirmwareCall F Address)}
    (new : board.hub = HubClient.initial)
    (different : eventConfirmations ≠ waitingToSend)
    (fresh : HandsOverFreshAlong printer toInt (calls ++ later) board links
      waitingToSend eventConfirmations)
    (silent : ∀ call ∈ later, QueuesNothing call)
    (enough : ∀ middle, linkedRun printer toInt calls board links
        waitingToSend eventConfirmations = .again middle →
      middle.board.hub.waitingToSend.length ≤ later.countP isDelivery) :
    ∃ final, linkedRun printer toInt (calls ++ later) board links
        waitingToSend eventConfirmations = .again final ∧
      final.board.hub.waitingToSend = [] ∧
      (∀ address, final.client.records address = none) ∧
      final.client.accepted =
        final.board.hub.confirmedOk.map (messageRecord printer) := by
  obtain ⟨before, behind⟩ := everyStep_of_append fresh
  obtain ⟨middle, reached, linked⟩ :=
    run_goesOn
      (fun state : LinkedState F Address =>
        Linked printer state.board.hub state.client)
      (fun state call linked handed => linked.step toInt handed)
      (linked_create links different new) before
  obtain ⟨final, drained, ⟨mailbox, tracks, outbox⟩, empty⟩ :=
    linked.drains toInt (behind middle reached) silent
      (enough middle reached)
  refine ⟨final, (run_append reached).trans drained, empty,
    tracks.freed (outbox.waiting.trans (by rw [empty]; rfl)), ?_⟩
  rw [accepted_eq tracks outbox, empty, List.append_nil]

theorem sampleRounds_drain :
    ∃ final, linkedRun zeroPrinter (fun _ => 0)
        ([sampleReport] ++ [503, 204].map sampleRound) (Board.powerUp none)
        sampleLinks 0 1 = .again final ∧
      final.board.hub.waitingToSend = [] ∧
      ∀ address, final.client.records address = none := by
  have silent : ∀ call ∈ [503, 204].map sampleRound,
      QueuesNothing call := by
    intro call member
    obtain ⟨statusCode, _, rfl⟩ := List.mem_map.mp member
    rfl
  have enough : ∀ middle, linkedRun zeroPrinter (fun _ => 0) [sampleReport]
      (Board.powerUp none) sampleLinks 0 1 = .again middle →
        middle.board.hub.waitingToSend.length ≤
          ([503, 204].map sampleRound).countP isDelivery := by
    rintro middle ⟨⟩
    rw [sendData_after, HubClient.after]
    split <;> decide
  obtain ⟨final, reached, empty, freed, _⟩ :=
    queue_drains rfl Nat.one_ne_zero (sampleRounds_fresh [503, 204]) silent
      enough
  exact ⟨final, reached, empty, freed⟩

end Runs

end FunnelDispenser.Reporting
