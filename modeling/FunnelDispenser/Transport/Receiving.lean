import FunnelDispenser.Transport.HttpAnswer

/-!
# Receiving commands

`DoMessages` asks the hub for a command when the last question is long enough
ago.  A command that arrives is handed to the callback of the client, and the
hub is told what became of it under the tag it came with; a command that
cannot be put together is abandoned.
-/

namespace FunnelDispenser.Transport

open CMemory Device Segments

/-- A message from the hub with its system properties. -/
structure ReceivedMessage where
  content : Bytes
  properties : PropertyMap
  messageId : Option Bytes
  correlationId : Option Bytes
  contentType : Option Bytes
  contentEncoding : Option Bytes
deriving DecidableEq, Repr

/-- `IoTHubMessage_CreateFromByteArray`. -/
def createFromByteArray (content : Bytes) : ReceivedMessage :=
  ⟨content, [], none, none, none, none⟩

def containsOnlyUsAscii (text : Bytes) : Bool :=
  text.all fun byte => 32 ≤ byte && byte ≤ 126

/-- `Map_AddOrUpdate` behind `ValidateAsciiCharactersFilter`. -/
def addProperty (key value : Bytes) (properties : PropertyMap) :
    Option PropertyMap :=
  if containsOnlyUsAscii key && containsOnlyUsAscii value then
    some (addOrUpdate key value properties)
  else
    none

def iothubAppPrefix : Bytes := bytesOf "iothub-app-"
def iothubMessageId : Bytes := bytesOf "iothub-messageid"
def iothubCorrelationId : Bytes := bytesOf "iothub-correlationid"
def iothubContentType : Bytes := bytesOf "ContentType"
def iothubContentEncoding : Bytes := bytesOf "ContentEncoding"

/-- What one header adds to the message; `none` is a property the filter
rejects. -/
def readHeader (completeHeader : Bytes) (message : ReceivedMessage) :
    Option ReceivedMessage :=
  let name := completeHeader.takeWhile fun byte => byte ≠ 58
  let value := (completeHeader.dropWhile fun byte => byte ≠ 58).drop 2
  if iothubAppPrefix <+: completeHeader then
    (addProperty (name.drop iothubAppPrefix.length) value
      message.properties).map
        fun properties => { message with properties := properties }
  else if iothubMessageId <+: completeHeader then
    some { message with messageId := some value }
  else if iothubCorrelationId <+: completeHeader then
    some { message with correlationId := some value }
  else if iothubContentType <+: completeHeader then
    some { message with contentType := some value }
  else if iothubContentEncoding <+: completeHeader then
    some { message with contentEncoding := some value }
  else
    some message

/-- The loop over the headers; `headerRead` tells whether the text of a header
and the memory for its value could be had. -/
def readHeaders (headerRead : Nat → Bool) :
    PropertyMap → (index : Nat) → ReceivedMessage → Option ReceivedMessage
  | [], _, message => some message
  | header :: rest, index, message =>
      if headerRead index then
        match readHeader (headerText header) message with
        | some read => readHeaders headerRead rest (index + 1) read
        | none => none
      else
        none

inductive Disposition where
  | accepted
  | rejected
  | abandoned
deriving DecidableEq, Repr

inductive HttpMethod where
  | post
  | delete
deriving DecidableEq, Repr

/-- A request that tells the hub what became of a message. -/
structure DispositionRequest where
  method : HttpMethod
  relativePath : Bytes
  ifMatch : Bytes
deriving DecidableEq, Repr

def apiVersion : Bytes := bytesOf "?api-version=2016-11-14"

/-- `abandonHTTPrelativePathBegin`. -/
def abandonPathBegin (encodedDeviceId : Bytes) : Bytes :=
  bytesOf "/devices/" ++ encodedDeviceId ++ bytesOf "/messages/devicebound/"

def dispositionSuffix : Disposition → Bytes
  | .abandoned => bytesOf "/abandon" ++ apiVersion
  | .rejected => apiVersion ++ bytesOf "&reject"
  | .accepted => apiVersion

/-- The request of `abandonOrAcceptMessage`; the path has the tag without its
quotes. -/
def abandonOrAcceptMessage (encodedDeviceId etag : Bytes)
    (action : Disposition) : DispositionRequest where
  method := if action = .abandoned then .post else .delete
  relativePath :=
    abandonPathBegin encodedDeviceId ++ (etag.drop 1).take (etag.length - 2) ++
      dispositionSuffix action
  ifMatch := etag

def isQuoted (etag : Bytes) : Bool :=
  2 ≤ etag.length && etag.head? = some 34 && etag.getLast? = some 34

/-- The part of the transport that asks for messages; the clock counts
seconds. -/
structure Receiver where
  pullMessage : Bool
  isFirstPoll : Bool
  lastPollTime : Int
  getMinimumPollingTime : Nat
  encodedDeviceId : Bytes
deriving DecidableEq, Repr

def defaultGetMinimumPollingTime : Nat := 25 * 60

/-- `IoTHubTransportHttp_Register` and `IoTHubTransportHttp_Subscribe`. -/
def Receiver.subscribed (encodedDeviceId : Bytes) : Receiver where
  pullMessage := true
  isFirstPoll := true
  lastPollTime := 0
  getMinimumPollingTime := defaultGetMinimumPollingTime
  encodedDeviceId := encodedDeviceId

/-- What one `DoMessages` meets.  `timeNow` is `none` without a clock, and
`response` when the request fails. -/
structure MessagesAttempt where
  timeNow : Option Int
  allocated : Bool
  response : Option HttpResponse
  messageCreated : Bool
  headersCounted : Bool
  headerRead : Nat → Bool
  callbackInfoCreated : Bool
  requestBuilt : Bool

/-- What the rest of the system sees of `DoMessages`. -/
inductive ReceiveEvent where
  | polled (timeNow : Option Int)
  | delivered (message : ReceivedMessage)
  | disposed (request : DispositionRequest)
deriving DecidableEq, Repr

def Receiver.pollingAllowed (receiver : Receiver) (timeNow : Option Int) :
    Bool :=
  receiver.isFirstPoll ||
    match timeNow with
    | none => true
    | some time =>
        (receiver.getMinimumPollingTime : Int) < time - receiver.lastPollTime

/-- The bookkeeping behind a poll that was answered. -/
def Receiver.notePoll (receiver : Receiver) (timeNow : Option Int) :
    Receiver :=
  match timeNow with
  | none => { receiver with isFirstPoll := true }
  | some time =>
      { receiver with isFirstPoll := false, lastPollTime := time }

/-- The message of an answer with status 200; `none` when it is to be
abandoned. -/
def assembleMessage (attempt : MessagesAttempt) (response : HttpResponse) :
    Option ReceivedMessage :=
  if attempt.messageCreated && attempt.headersCounted then
    match readHeaders attempt.headerRead response.headers 0
        (createFromByteArray response.content) with
    | some message =>
        if attempt.callbackInfoCreated then some message else none
    | none => none
  else
    none

section Callback

variable {State : Type}

/-- `messageCallback` of the client, when one is set. -/
abbrev MessageCallback (State : Type) :=
  Option (ReceivedMessage → State → Disposition × State)

/-- The disposition request, if it can be built. -/
def dispose (attempt : MessagesAttempt) (encodedDeviceId etag : Bytes)
    (action : Disposition) : List ReceiveEvent :=
  if attempt.requestBuilt then
    [.disposed (abandonOrAcceptMessage encodedDeviceId etag action)]
  else
    []

/-- `IoTHubClient_LL_MessageCallback` with its disposition. -/
def deliver (callback : MessageCallback State) (attempt : MessagesAttempt)
    (encodedDeviceId etag : Bytes) (message : ReceivedMessage)
    (state : State) : State × List ReceiveEvent :=
  match callback with
  | some handle =>
      let handled := handle message state
      (handled.2,
        .delivered message :: dispose attempt encodedDeviceId etag handled.1)
  | none => (state, dispose attempt encodedDeviceId etag .abandoned)

/-- What an answered poll leads to. -/
def handleResponse (callback : MessageCallback State)
    (attempt : MessagesAttempt) (encodedDeviceId : Bytes)
    (response : HttpResponse) (state : State) : State × List ReceiveEvent :=
  if response.statusCode = 200 then
    match getValueFromKey (bytesOf "ETag") response.headers with
    | none => (state, [])
    | some etag =>
        if isQuoted etag then
          match assembleMessage attempt response with
          | some message =>
              deliver callback attempt encodedDeviceId etag message state
          | none => (state, dispose attempt encodedDeviceId etag .abandoned)
        else
          (state, [])
  else
    (state, [])

/-- `DoMessages` of the HTTP transport. -/
def transportDoMessages (callback : MessageCallback State)
    (attempt : MessagesAttempt) (receiver : Receiver) (state : State) :
    Receiver × State × List ReceiveEvent :=
  if receiver.pullMessage && receiver.pollingAllowed attempt.timeNow &&
      attempt.allocated then
    match attempt.response with
    | none => (receiver, state, [])
    | some response =>
        let handled := handleResponse callback attempt
          receiver.encodedDeviceId response state
        (receiver.notePoll attempt.timeNow, handled.1,
          .polled attempt.timeNow :: handled.2)
  else
    (receiver, state, [])

end Callback

end FunnelDispenser.Transport
