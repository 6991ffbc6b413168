import FunnelDispenser.Device.Board
import FunnelDispenser.Transport.DoublyLinkedList

/-!
# The client library

`IoTHubClient_LL` keeps the messages it was given in `waitingToSend`; the HTTP
transport moves them to `eventConfirmations` while it sends them.  Both lists
run through records on the heap.  A function is `none` when it follows a
pointer to a record that is not there.
-/

namespace FunnelDispenser.Transport

open CMemory Device

universe u

inductive MessageContent where
  | byteArray (bytes : Bytes)
  | string (text : Bytes)
deriving DecidableEq, Repr

structure EventMessage where
  content : MessageContent
  properties : List (Bytes × Bytes)
deriving DecidableEq, Repr

def EventMessage.contentSize (message : EventMessage) : Nat :=
  match message.content with
  | .byteArray bytes => bytes.length
  | .string text => (cStr text).length

def maximumMessageSize : Nat := 255 * 1024 - 1
def maximumPayloadOverhead : Nat := 384
def maximumPropertyOverhead : Nat := 16

def EventMessage.payloadSize (message : EventMessage) : Nat :=
  message.contentSize + maximumPayloadOverhead

def propertySize (property : Bytes × Bytes) : Nat :=
  property.2.length + property.1.length + maximumPropertyOverhead

/-- `messageSizeContribution` of `make1EventJSONitem`. -/
def EventMessage.itemSize (message : EventMessage) : Nat :=
  message.payloadSize + (message.properties.map propertySize).sum

/-- `IOTHUB_MESSAGE_LIST` without its links. -/
structure MessageRecord (Callback Context : Type) where
  message : EventMessage
  callback : Option Callback
  context : Option Context
  timesOutAfter : BitVec 32
deriving DecidableEq, Repr

/-- A call of a confirmation callback. -/
structure Confirmation (Callback Context : Type) where
  callback : Callback
  context : Option Context
  result : ConfirmationResult
deriving DecidableEq, Repr

/-- The client and its part of the heap.  `accepted` and `confirmations`
record what happened; the loops below take `accepted.length + 1` rounds at
most. -/
structure Client (Address : Type u) (Callback Context : Type) where
  links : Rings.Links Address
  records : Address → Option (MessageRecord Callback Context)
  waitingToSend : Address
  eventConfirmations : Address
  currentMessageTimeout : BitVec 32
  doBatchedTransfers : Bool
  accepted : List (MessageRecord Callback Context)
  confirmations : List (Confirmation Callback Context)

section Client

variable {Address : Type u} [DecidableEq Address] {Callback Context : Type}

/-- `IoTHubClient_LL_Create` and the registration in the transport, with the
heads of both lists at these addresses. -/
def createClient (links : Rings.Links Address)
    (waitingToSend eventConfirmations : Address) :
    Client Address Callback Context where
  links :=
    initializeListHead eventConfirmations
      (initializeListHead waitingToSend links)
  records := fun _ => none
  waitingToSend := waitingToSend
  eventConfirmations := eventConfirmations
  currentMessageTimeout := 0
  doBatchedTransfers := false
  accepted := []
  confirmations := []

namespace Client

variable (client : Client Address Callback Context)

def free (address : Address) : Client Address Callback Context :=
  { client with records := Function.update client.records address none }

omit [DecidableEq Address] in
/-- Call the callback of a record if it has one. -/
def confirm (record : MessageRecord Callback Context)
    (result : ConfirmationResult) : Client Address Callback Context :=
  match record.callback with
  | some callback =>
      { client with
        confirmations :=
          client.confirmations ++ [⟨callback, record.context, result⟩] }
  | none => client

end Client

inductive ClientResult where
  | ok
  | invalidArg
  | error
deriving DecidableEq, Repr

/-- The arguments of `IoTHubClient_LL_SendEventAsync`, the block `malloc`
returns, the tick counter, and whether the message was cloned and given its
diagnostic data. -/
structure SendEventInput (Address : Type u) (Callback Context : Type) where
  message : Option EventMessage
  callback : Option Callback
  context : Option Context
  allocated : Option Address
  currentMs : Option (BitVec 32)
  cloned : Bool
  diagnosed : Bool

def attachMsTimesOutAfter (currentMessageTimeout : BitVec 32)
    (currentMs : Option (BitVec 32)) : Option (BitVec 32) :=
  if currentMessageTimeout = 0 then some 0
  else currentMs.map (· + currentMessageTimeout)

def sendEventAsync (input : SendEventInput Address Callback Context)
    (client : Client Address Callback Context) :
    ClientResult × Client Address Callback Context :=
  match input.message with
  | none => (.invalidArg, client)
  | some message =>
      if input.callback.isNone && input.context.isSome then
        (.invalidArg, client)
      else
        match input.allocated with
        | none => (.error, client)
        | some newEntry =>
            match attachMsTimesOutAfter client.currentMessageTimeout
                input.currentMs with
            | none => (.error, client)
            | some timesOutAfter =>
                if input.cloned && input.diagnosed then
                  let record : MessageRecord Callback Context :=
                    ⟨message, input.callback, input.context, timesOutAfter⟩
                  (.ok,
                    { client with
                      records :=
                        Function.update client.records newEntry (some record)
                      links :=
                        insertTailList client.waitingToSend newEntry
                          client.links
                      accepted := client.accepted ++ [record] })
                else
                  (.error, client)

/-- `IoTHubClient_LL_SendComplete`, at most `rounds` times round. -/
def sendCompleteRounds (completed : Address) (result : ConfirmationResult) :
    (rounds : Nat) → Client Address Callback Context →
      Option (Client Address Callback Context)
  | 0, _ => none
  | rounds + 1, client =>
      let (oldest, links) := removeHeadList completed client.links
      let removed := { client with links := links }
      if oldest = completed then
        some removed
      else
        match client.records oldest with
        | none => none
        | some record =>
            sendCompleteRounds completed result rounds
              ((removed.confirm record result).free oldest)

def sendComplete (completed : Address) (result : ConfirmationResult)
    (client : Client Address Callback Context) :
    Option (Client Address Callback Context) :=
  sendCompleteRounds completed result (client.accepted.length + 1) client

/-- The loop of `DoTimeouts` from `current` on. -/
def doTimeoutsRounds (nowTick : BitVec 32) :
    (rounds : Nat) → (current : Address) →
      Client Address Callback Context →
      Option (Client Address Callback Context)
  | 0, _, _ => none
  | rounds + 1, current, client =>
      if current = client.waitingToSend then
        some client
      else
        match client.records current with
        | none => none
        | some record =>
            let theNext := client.links.flink current
            if record.timesOutAfter ≠ 0 ∧ record.timesOutAfter < nowTick then
              let removed :=
                { client with
                  links := (removeEntryList current client.links).2 }
              doTimeoutsRounds nowTick rounds theNext
                ((removed.confirm record .messageTimeout).free current)
            else
              doTimeoutsRounds nowTick rounds theNext client

/-- `DoTimeouts`; `none` is a tick counter that fails. -/
def doTimeouts (currentMs : Option (BitVec 32))
    (client : Client Address Callback Context) :
    Option (Client Address Callback Context) :=
  match currentMs with
  | none => some client
  | some nowTick =>
      doTimeoutsRounds nowTick (client.accepted.length + 1)
        (client.links.flink client.waitingToSend) client

/-- What one `DoEvent` meets.  The numbers count the messages of a batch and
the properties of a single message. -/
structure EventAttempt where
  contentTypeReplaced : Bool
  payloadConstructed : Bool
  itemMade : Nat → Bool
  itemAppended : Nat → Bool
  headersCloned : Bool
  propertiesRead : Bool
  headerSet : Nat → Bool
  systemHeadersSet : Bool
  bufferCreated : Bool
  bufferBuilt : Bool
  executed : Bool
  statusCode : Nat

/-- The request goes out and is answered with success. -/
def EventAttempt.succeeds (attempt : EventAttempt) : Bool :=
  attempt.bufferCreated && attempt.bufferBuilt && attempt.executed &&
    attempt.statusCode < 300

/-- Move the oldest message to `eventConfirmations`. -/
def Client.takeHead (client : Client Address Callback Context) :
    Client Address Callback Context :=
  let (head, links) := removeHeadList client.waitingToSend client.links
  { client with
    links := insertTailList client.eventConfirmations head links }

/-- `MAKE_PAYLOAD_NO_ITEMS` is never returned. -/
inductive MakePayloadResult where
  | ok
  | error
  | firstItemDoesNotFit
deriving DecidableEq, Repr

/-- The loop of `makePayload`; `count` messages are in the payload. -/
def makePayloadRounds (attempt : EventAttempt) :
    (rounds count allMessagesSize : Nat) →
      Client Address Callback Context →
      Option (MakePayloadResult × Client Address Callback Context)
  | 0, _, _, _ => none
  | rounds + 1, count, allMessagesSize, client =>
      let actual := client.links.flink client.waitingToSend
      if actual = client.waitingToSend then
        some (.ok, client)
      else
        match client.records actual with
        | none => none
        | some record =>
            let messageSize := record.message.itemSize
            if count = 0 then
              if !attempt.itemMade count then
                some (.error, client)
              else if messageSize > maximumMessageSize then
                some (.firstItemDoesNotFit, client.takeHead)
              else if !attempt.itemAppended count then
                some (.error, client)
              else
                makePayloadRounds attempt rounds (count + 1)
                  (allMessagesSize + messageSize) client.takeHead
            else if !attempt.itemMade count then
              some (.ok, client)
            else if allMessagesSize + messageSize > maximumMessageSize then
              some (.ok, client)
            else if !attempt.itemAppended count then
              some (.ok, client)
            else
              makePayloadRounds attempt rounds (count + 1)
                (allMessagesSize + messageSize) client.takeHead

def makePayload (attempt : EventAttempt)
    (client : Client Address Callback Context) :
    Option (MakePayloadResult × Client Address Callback Context) :=
  if attempt.payloadConstructed then
    makePayloadRounds attempt (client.accepted.length + 1) 0 0 client
  else
    some (.error, client)

/-- The batch goes back to where it was taken from. -/
def Client.putBack (client : Client Address Callback Context) :
    Client Address Callback Context :=
  { client with
    links :=
      reversePutListBackIn client.eventConfirmations client.waitingToSend
        client.links }

/-- The batched branch of `DoEvent`. -/
def sendBatch (attempt : EventAttempt)
    (client : Client Address Callback Context) :
    Option (Client Address Callback Context) :=
  if attempt.contentTypeReplaced then
    match makePayload attempt client with
    | none => none
    | some (.ok, batched) =>
        if attempt.succeeds then
          sendComplete batched.eventConfirmations .ok batched
        else
          some batched.putBack
    | some (.firstItemDoesNotFit, batched) =>
        sendComplete batched.eventConfirmations .error batched
    | some (.error, batched) => some batched
  else
    some client

/-- How the loop over the properties ends. -/
inductive HeadersEnd where
  | ready
  | failed
  | tooLarge
deriving DecidableEq, Repr

/-- Every property adds to the size and becomes a header. -/
def propertyHeaders (headerSet : Nat → Bool) :
    List (Bytes × Bytes) → (index messageSize : Nat) → HeadersEnd
  | [], _, _ => .ready
  | property :: rest, index, messageSize =>
      let size := messageSize + propertySize property
      if size > maximumMessageSize then
        .tooLarge
      else if headerSet index then
        propertyHeaders headerSet rest (index + 1) size
      else
        .failed

/-- The other branch of `DoEvent`: the oldest message alone.  The headers of
the system properties are read from the message in any case, also behind a
`SendComplete` that has freed it. -/
def sendSingle (attempt : EventAttempt)
    (client : Client Address Callback Context) :
    Option (Client Address Callback Context) :=
  let entry := client.links.flink client.waitingToSend
  match client.records entry with
  | none => none
  | some record =>
      let messageSize := record.message.payloadSize
      if messageSize > maximumMessageSize then
        sendComplete client.eventConfirmations .error client.takeHead
      else if attempt.headersCloned && attempt.contentTypeReplaced &&
          attempt.propertiesRead then
        match propertyHeaders attempt.headerSet record.message.properties 0
            messageSize with
        | .tooLarge =>
            match sendComplete client.eventConfirmations .error
                client.takeHead with
            | none => none
            | some completed =>
                (completed.records entry).map fun _ => completed
        | .failed => some client
        | .ready =>
            if attempt.systemHeadersSet && attempt.succeeds then
              sendComplete client.eventConfirmations .ok client.takeHead
            else
              some client
      else
        some client

/-- `DoEvent` of the HTTP transport. -/
def transportDoEvent (attempt : EventAttempt)
    (client : Client Address Callback Context) :
    Option (Client Address Callback Context) :=
  if isListEmpty client.waitingToSend client.links then
    some client
  else if client.doBatchedTransfers then
    sendBatch attempt client
  else
    sendSingle attempt client

/-- `IoTHubClient_LL_DoWork` up to `DoEvent`. -/
def clientDoWork (currentMs : Option (BitVec 32)) (attempt : EventAttempt)
    (client : Client Address Callback Context) :
    Option (Client Address Callback Context) :=
  (doTimeouts currentMs client).bind (transportDoEvent attempt)

/-- The messages of `IoTHubClient_LL_Destroy`. -/
def destroyMessages (client : Client Address Callback Context) :
    Option (Client Address Callback Context) :=
  sendComplete client.waitingToSend .becauseDestroy client

end Client

end FunnelDispenser.Transport
