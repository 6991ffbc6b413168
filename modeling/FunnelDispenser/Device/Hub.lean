import FunnelDispenser.Device.Switch

/-!
# The IoT hub client and its callbacks

The client keeps accepted messages in `waitingToSend`.  `DoWork` of the HTTP
transport tries the head message once, then takes at most one cloud message;
the two callbacks run inside it and nowhere else.
-/

namespace FunnelDispenser.Device

open CMemory Decimal Config

variable {F : Type} [DoubleArith F]

/-- What one report reads from outside: the sensors, the clock as text, the
free heap, and the results of creating and of handing over the message. -/
structure ReportInput (F : Type) where
  readings : SensorReadings F
  readDateTime : Bytes
  freeHeap : BitVec 32
  created : Bool
  handedOver : Bool
deriving DecidableEq, Repr

def ReportInput.accepted (input : ReportInput F) : Bool :=
  input.created && input.handedOver

def itoa (value : BitVec 32) : Bytes :=
  if 0 ≤ value.toInt then
    printNat value.toNat
  else
    45 :: printNat (-value).toNat

structure SensorErrors where
  count : Nat
  text : Bytes
deriving DecidableEq, Repr

def SensorErrors.add (error : Bytes) (errors : SensorErrors) :
    SensorErrors where
  count := errors.count + 1
  text :=
    if errors.text.length = 0 then error
    else errors.text ++ bytesOf ";" ++ error

def sensorErrors (sensors : SensorFlags) : SensorErrors :=
  let none : SensorErrors := ⟨0, []⟩
  let distance :=
    if sensors.distanceSensor then none
    else none.add (bytesOf "Distance sensor failed")
  let environment :=
    if sensors.environmentSensor then distance
    else distance.add (bytesOf "Environment sensor failed")
  if sensors.batterySensor then environment
  else environment.add (bytesOf "Battery sensor failed")

def takeReadings (readings : SensorReadings F) (board : Board F) : Board F :=
  let distance :=
    if board.sensors.distanceSensor then getDistance readings board
    else board
  let environment :=
    if distance.sensors.environmentSensor then
      printEnvironment (setEnvironment readings distance)
    else distance
  if environment.sensors.batterySensor then
    setBatteryStats readings environment
  else environment

omit [DoubleArith F] in
def composeDeviceStateMessage (readDateTime deviceState : Bytes)
    (errors : SensorErrors) (notes : Bytes) (data : DataDevice F) :
    DeviceStateMessage F where
  messageType := deviceState
  readDateTime := readDateTime
  distance := data.distance
  temperature := data.temperature
  humidity := data.humidity
  batteryPercentage := data.batteryPercentage
  batteryState := data.batteryState
  motionCount := data.motionCount
  switchCount := data.switchCount
  numberOfErrors := errors.count
  lastError := errors.text
  notes := notes

omit [DoubleArith F] in
def queueMessage (input : ReportInput F) (message : DeviceStateMessage F)
    (board : Board F) : Board F :=
  if input.created then
    if input.handedOver then
      { board with
        messagePending := true
        hub :=
          { board.hub with
            waitingToSend := board.hub.waitingToSend ++ [message]
            accepted := board.hub.accepted ++ [message] } }
    else
      board
  else
    board

/-- The message a report of these readings carries. -/
def reportMessage (input : ReportInput F) (board : Board F) :
    DeviceStateMessage F :=
  composeDeviceStateMessage input.readDateTime (bytesOf "DeviceState")
    (sensorErrors board.sensors) (itoa input.freeHeap)
    (takeReadings input.readings board).deviceData

/-- `SendData`, which `loop()` repeats line for line: read the sensors,
compose the message, queue it. -/
def sendData (input : ReportInput F) (board : Board F) : Board F :=
  queueMessage input (reportMessage input board)
    (takeReadings input.readings board)

omit [DoubleArith F] in
/-- `polls` are the samples taken while the switch is held down. -/
def onMessageSentCallback (result : ConfirmationResult)
    (polls : List SwitchPoll) (board : Board F) : Board F :=
  let shown :=
    if result = .ok then
      holdSwitch polls
        { board with
          outputs :=
            controlLed redLed false (controlLed redLed true board.outputs) }
    else
      board
  { shown with messagePending := false }

/-- A cloud message.  `content` is `none` when it cannot be retrieved,
`properties` when the message has no property map.  `commandId` is what the
uninitialised local holds. -/
structure CloudMessage where
  content : Option Bytes
  properties : Option (List (Bytes × Bytes))
  commandId : BitVec 32
deriving DecidableEq, Repr

/-- What handling one cloud message reads from outside. -/
structure CommandInput (F : Type) where
  report : ReportInput F
  write : WriteOutcome
deriving DecidableEq, Repr

def toLower (byte : UInt8) : UInt8 :=
  if 65 ≤ byte ∧ byte ≤ 90 then byte + 32 else byte

def equalsIgnoreCase (left right : Bytes) : Bool :=
  left.map toLower = right.map toLower

abbrev sendDataBody : Bytes := bytesOf "SendData"
abbrev displayBatteryBody : Bytes := bytesOf "DisplayBattery"
abbrev displayEnvironmentBody : Bytes := bytesOf "DisplayEnvironment"
abbrev displayDistanceBody : Bytes := bytesOf "DisplayDistance"
abbrev clearWifiBody : Bytes := bytesOf "ClearWIFI"
abbrev displayFreeHeapBody : Bytes := bytesOf "DisplayFreeHeap"
abbrev hideFreeHeapBody : Bytes := bytesOf "HideFreeHeap"
abbrev setLedBody : Bytes := bytesOf "SetLED"
abbrev configIntervalBody : Bytes := bytesOf "ConfigInterval"

/-- The nine commands in the order of their tests: body, number, effect. -/
def commandTable (input : CommandInput F) :
    List (Bytes × BitVec 32 × (Board F → Board F)) :=
  [(sendDataBody, 1, sendData input.report),
    (displayBatteryBody, 2, id),
    (displayEnvironmentBody, 3, printEnvironment),
    (displayDistanceBody, 4, getDistance input.report.readings),
    (clearWifiBody, 5, fun board =>
      { board with
        storage := clearWifi input.write board.storage
        resetDevice := true }),
    (displayFreeHeapBody, 6, fun board =>
      { board with displayFreeHeapFlag := true }),
    (hideFreeHeapBody, 7, fun board =>
      { board with displayFreeHeapFlag := false }),
    (setLedBody, 8, id),
    (configIntervalBody, 9, id)]

/-- The tests are independent of each other; each one that matches sets the
number and takes effect. -/
def dispatchCommand (input : CommandInput F) (content : Bytes)
    (commandId : BitVec 32) (board : Board F) : BitVec 32 × Board F :=
  (commandTable input).foldl
    (fun known command =>
      if content = command.1 then
        (command.2.1, command.2.2 known.2)
      else
        known)
    (commandId, board)

def propertyName : Interval → Bytes
  | .deepSleepInt => bytesOf "DeepSleepInt"
  | .tempPostInt => bytesOf "TempPostInt"
  | .distancePostInt => bytesOf "DistancePostInt"
  | .batteryStateInt => bytesOf "BatteryStateInt"
  | .allStateInt => bytesOf "AllStateInt"

def setLedProperty (toInt : Bytes → BitVec 32) (outputs : Outputs)
    (property : Bytes × Bytes) : Outputs :=
  let red :=
    if equalsIgnoreCase property.1 (bytesOf "red") then
      { outputs with redLedDuration := toInt property.2 }
    else outputs
  let green :=
    if equalsIgnoreCase property.1 (bytesOf "green") then
      { red with greenLedDuration := toInt property.2 }
    else red
  if equalsIgnoreCase property.1 (bytesOf "blue") then
    { green with blueLedDuration := toInt property.2 }
  else green

def setIntervalProperty (toInt : Bytes → BitVec 32) (config : Memory)
    (property : Bytes × Bytes) : Memory :=
  Interval.all.foldl
    (fun stored interval =>
      if equalsIgnoreCase property.1 (propertyName interval) then
        storeWord stored interval.address (toInt property.2)
      else stored)
    config

omit [DoubleArith F] in
/-- The second phase of a command: its properties. -/
def applyProperties (toInt : Bytes → BitVec 32) (write : WriteOutcome)
    (commandId : BitVec 32) (properties : List (Bytes × Bytes))
    (board : Board F) : Board F :=
  if properties.length > 0 then
    if commandId = 8 then
      { board with
        outputs := properties.foldl (setLedProperty toInt) board.outputs }
    else if commandId = 9 then
      { board with
        storage := (saveConfig write
          { board.storage with
            config := properties.foldl (setIntervalProperty toInt)
              board.storage.config }).1 }
    else
      board
  else
    board

def receiveMessageCallback (toInt : Bytes → BitVec 32)
    (input : CommandInput F) (message : CloudMessage) (board : Board F) :
    Board F :=
  let (commandId, commanded) :=
    match message.content with
    | some content =>
        dispatchCommand input content message.commandId board
    | none => (message.commandId, board)
  match message.properties with
  | some properties =>
      applyProperties toInt input.write commandId properties commanded
  | none => commanded

/-- The result of trying the head message: it stays queued, or it leaves the
queue with a result for its callback. -/
inductive SendOutcome where
  | retry
  | completed (result : ConfirmationResult)
deriving DecidableEq, Repr

/-- What one `DoWork` call meets: the result of the attempt, the switch
samples taken by the confirmation callback, and the cloud message. -/
structure DoWorkInput (F : Type) where
  send : SendOutcome
  holdPolls : List SwitchPoll
  message : Option CloudMessage
  command : CommandInput F
deriving DecidableEq, Repr

omit [DoubleArith F] in
def confirm (result : ConfirmationResult)
    (message : DeviceStateMessage F) (rest : List (DeviceStateMessage F))
    (hub : HubClient F) : HubClient F :=
  { hub with
    waitingToSend := rest
    confirmedOk :=
      if result = .ok then hub.confirmedOk ++ [message]
      else hub.confirmedOk }

omit [DoubleArith F] in
def doEvent (input : DoWorkInput F) (board : Board F) : Board F :=
  match board.hub.waitingToSend, input.send with
  | head :: rest, .completed result =>
      onMessageSentCallback result input.holdPolls
        { board with hub := confirm result head rest board.hub }
  | _, _ => board

def doMessages (toInt : Bytes → BitVec 32) (input : DoWorkInput F)
    (board : Board F) : Board F :=
  match input.message with
  | some message =>
      receiveMessageCallback toInt input.command message board
  | none => board

/-- `IoTHubClient_LL_DoWork` over the HTTP transport. -/
def doWork (toInt : Bytes → BitVec 32) (input : DoWorkInput F)
    (board : Board F) : Board F :=
  doMessages toInt input <| doEvent input
    { board with
      hub := { board.hub with doWorkCalls := board.hub.doWorkCalls + 1 } }

end FunnelDispenser.Device
