import FunnelDispenser.Config.Storage

/-!
# The shared state of the firmware

`Board` holds everything that `loop()`, the sensor functions, the switch
handler and the hub callbacks work on together: the last readings, the
configuration, the flags, the pins and the IoT client.  The variables that
only `setup()` and `loop()` touch are in `Device`.

The numbers of type `double` and `float` are a parameter.  The program
subtracts and compares them and compares with small constants, nothing more.
-/

namespace FunnelDispenser.Device

open CMemory Config

/-- The arithmetic on `double` the program uses. -/
class DoubleArith (F : Type) where
  ofNat : Nat → F
  sub : F → F → F
  abs : F → F
  lt : F → F → Bool
  /-- Two zero readings are within every threshold. -/
  zero_within : lt (ofNat 2) (abs (sub (ofNat 0) (ofNat 0))) = false

instance : DoubleArith ℚ where
  ofNat value := (value : ℚ)
  sub left right := left - right
  abs value := |value|
  lt left right := decide (left < right)
  zero_within := by norm_num

structure DataDevice (F : Type) where
  distance : F
  temperature : F
  humidity : F
  batteryPercentage : BitVec 32
  batteryState : BitVec 32
  motionCount : BitVec 32
  switchCount : BitVec 32
deriving DecidableEq, Repr

def DataDevice.triple {F : Type} (data : DataDevice F) : F × F × F :=
  (data.distance, data.temperature, data.humidity)

structure RtcData (F : Type) where
  distanceRtc : F
  temperatureRtc : F
  humidityRtc : F
  criticalFlag : BitVec 32
deriving DecidableEq, Repr

def RtcData.triple {F : Type} (data : RtcData F) : F × F × F :=
  (data.distanceRtc, data.temperatureRtc, data.humidityRtc)

/-- The members of a state message. -/
structure DeviceStateMessage (F : Type) where
  messageType : Bytes
  readDateTime : Bytes
  distance : F
  temperature : F
  humidity : F
  batteryPercentage : BitVec 32
  batteryState : BitVec 32
  motionCount : BitVec 32
  switchCount : BitVec 32
  numberOfErrors : Nat
  lastError : Bytes
  notes : Bytes
deriving DecidableEq, Repr

def DeviceStateMessage.triple {F : Type} (message : DeviceStateMessage F) :
    F × F × F :=
  (message.distance, message.temperature, message.humidity)

inductive ConfirmationResult where
  | ok
  | becauseDestroy
  | messageTimeout
  | error
deriving DecidableEq, Repr

/-- The client with its queue `waitingToSend`.  The other fields record what
happened since boot and steer nothing. -/
structure HubClient (F : Type) where
  waitingToSend : List (DeviceStateMessage F)
  doWorkCalls : Nat
  accepted : List (DeviceStateMessage F)
  confirmedOk : List (DeviceStateMessage F)
deriving DecidableEq, Repr

def HubClient.initial {F : Type} : HubClient F :=
  ⟨[], 0, [], []⟩

abbrev redLed : Nat := 13
abbrev blueLed : Nat := 3
abbrev greenLed : Nat := 15
abbrev shdnPin : Nat := 14

/-- The levels last written to the pins, and the variables of the LED
routines. -/
structure Outputs where
  pins : Nat → Bool
  activeKeepAliveLed : Bool
  keepAliveLedPin : Nat
  keepAliveLedInterval : BitVec 32
  keepAlivePreviousMillis : BitVec 32
  ledState : Bool
  msec : BitVec 32
  redLedDuration : BitVec 32
  greenLedDuration : BitVec 32
  blueLedDuration : BitVec 32

def Outputs.digitalWrite (outputs : Outputs) (pin : Nat) (level : Bool) :
    Outputs :=
  { outputs with pins := Function.update outputs.pins pin level }

def Outputs.initial : Outputs where
  pins := fun _ => false
  activeKeepAliveLed := false
  keepAliveLedPin := 0
  keepAliveLedInterval := 0
  keepAlivePreviousMillis := 0
  ledState := false
  msec := 0
  redLedDuration := 0
  greenLedDuration := 0
  blueLedDuration := 0

/-- The mode the environment sensor was last commanded to. -/
inductive BmeMode where
  | sleep
  | forced
deriving DecidableEq, Repr

/-- Which sensors answered during `setup()`. -/
structure SensorFlags where
  distanceSensor : Bool
  environmentSensor : Bool
  batterySensor : Bool
deriving DecidableEq, Repr

structure Board (F : Type) where
  sensors : SensorFlags
  deviceData : DataDevice F
  storage : Storage
  messagePending : Bool
  wifiResetCount : Nat
  resetDevice : Bool
  displayFreeHeapFlag : Bool
  outputs : Outputs
  bmeMode : BmeMode
  gaugeHibernating : Bool
  hub : HubClient F

/-- The global variables before `setup()` has run. -/
def Board.powerUp {F : Type} [DoubleArith F] (configFile : Option Bytes) :
    Board F where
  sensors := ⟨true, true, true⟩
  deviceData :=
    ⟨DoubleArith.ofNat 0, DoubleArith.ofNat 0, DoubleArith.ofNat 0,
      0, 0, 0, 0⟩
  storage := ⟨zeroConfig, configFile⟩
  messagePending := false
  wifiResetCount := 0
  resetDevice := false
  displayFreeHeapFlag := false
  outputs := Outputs.initial
  bmeMode := .sleep
  gaugeHibernating := false
  hub := HubClient.initial

/-- What the range sensor answers; the status steers only the log. -/
structure RangeMeasurement where
  range : UInt8
  status : UInt8
deriving DecidableEq, Repr

/-- What the sensors answer when they are read once. -/
structure SensorReadings (F : Type) where
  range : RangeMeasurement
  temperature : F
  humidity : F
  soc : BitVec 32
  soh : BitVec 32
deriving DecidableEq, Repr

section Sensors

variable {F : Type}

/-- Integer division turns millimetres into whole centimetres. -/
def getDistance [DoubleArith F] (readings : SensorReadings F)
    (board : Board F) : Board F :=
  { board with
    deviceData :=
      { board.deviceData with
        distance := DoubleArith.ofNat (readings.range.range.toNat / 10) } }

def setEnvironment (readings : SensorReadings F) (board : Board F) :
    Board F :=
  if board.sensors.environmentSensor then
    { board with
      bmeMode := .forced
      deviceData :=
        { board.deviceData with
          temperature := readings.temperature
          humidity := readings.humidity } }
  else
    board

/-- The readings go to the log only; the sensor is put to sleep. -/
def printEnvironment (board : Board F) : Board F :=
  { board with bmeMode := .sleep }

def setBatteryStats (readings : SensorReadings F) (board : Board F) :
    Board F :=
  if board.sensors.batterySensor then
    { board with
      deviceData :=
        { board.deviceData with
          batteryPercentage := readings.soc
          batteryState := readings.soh } }
  else
    board

def hibernate (board : Board F) : Board F :=
  { board with gaugeHibernating := true }

def clearHibernate (board : Board F) : Board F :=
  { board with gaugeHibernating := false }

end Sensors

end FunnelDispenser.Device
