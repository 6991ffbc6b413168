import FunnelDispenser.Device.HubEffects
import FunnelDispenser.Library.StepRuns
import FunnelDispenser.Provisioning.WebServer

/-!
# One pass of `loop()`

A pass reads the record in RTC memory, compares it with the readings, and
either works on a report, goes to sleep, or does nothing.
-/

namespace FunnelDispenser.Device

open CMemory Config Provisioning StepRuns

/-- The state between two passes.  `rtcMemory` is the record in RTC memory,
`rtcData` the copy in RAM.  `reportingPasses` counts the passes that entered
the reporting branch and steers nothing. -/
structure Firmware (F : Type) where
  board : Board F
  accessPoint : Bool
  runFlag : Bool
  criticalFlag : BitVec 32
  hubConnected : Bool
  previousSendMillis : BitVec 32
  resetCount : Nat
  rtcData : RtcData F
  rtcMemory : RtcData F
  reportingPasses : Nat

/-- A request served in this pass, and what the file system does if its
handler saves the configuration. -/
structure PortalInput where
  request : HttpRequest
  write : WriteOutcome
deriving DecidableEq, Repr

/-- Everything one pass reads from outside. -/
structure PassInput (F : Type) where
  rtcReadOk : Bool
  sample : SensorReadings F
  currentMillis : BitVec 32
  switchPoll : SwitchPoll
  keepAliveMillis : BitVec 32
  ledStartMillis : BitVec 32
  ledEndMillis : BitVec 32
  portal : Option PortalInput
  report : ReportInput F
  work : DoWorkInput F
  rtcWriteOk : Bool
deriving DecidableEq, Repr

/-- The ends of a pass that `loop()` does not return from. -/
inductive PassEnd where
  | deepSleep
  | reset
deriving DecidableEq, Repr

/-- `Max_Time`, the heartbeat threshold. -/
def maxTime : Int := 23

/-- `Init_Time`, the delay before a report in milliseconds. -/
def initTimeMillis : BitVec 32 := 10000

section Loop

variable {F : Type} [DoubleArith F]

/-- A stored reading outside of 0..200 counts as 0. -/
def sanitizeReading (reading : F) : F :=
  if DoubleArith.lt reading (DoubleArith.ofNat 0) ||
      DoubleArith.lt (DoubleArith.ofNat 200) reading then
    DoubleArith.ofNat 0
  else
    reading

def RtcData.sanitize (data : RtcData F) : RtcData F :=
  { data with
    distanceRtc := sanitizeReading data.distanceRtc
    temperatureRtc := sanitizeReading data.temperatureRtc
    humidityRtc := sanitizeReading data.humidityRtc }

def sampleSensors (readings : SensorReadings F) (board : Board F) :
    Board F :=
  getDistance readings <| setEnvironment readings <| clearHibernate
    { board with outputs := board.outputs.digitalWrite shdnPin true }

/-- The first block.  The read happens whenever the device is not an access
point; the sampling needs an idle device. -/
def readRtc (input : PassInput F) (device : Firmware F) : Firmware F :=
  if !device.accessPoint && input.rtcReadOk then
    let read := { device with rtcData := device.rtcMemory }
    if !read.runFlag && !read.board.messagePending then
      { read with
        rtcData := read.rtcData.sanitize
        board := sampleSensors input.sample read.board }
    else
      read
  else
    device

/-- `abs(stored - reading) > 2`, the test of every threshold. -/
def differs (stored reading : F) : Bool :=
  DoubleArith.lt (DoubleArith.ofNat 2)
    (DoubleArith.abs (DoubleArith.sub stored reading))

/-- The heartbeat is due, or a reading has moved from the record. -/
def exceedsBaseline (baseline : RtcData F) (data : DataDevice F) : Bool :=
  decide (maxTime ≤ baseline.criticalFlag.toInt) ||
    differs baseline.distanceRtc data.distance ||
    differs baseline.temperatureRtc data.temperature ||
    differs baseline.humidityRtc data.humidity

def reportDue (device : Firmware F) : Bool :=
  device.accessPoint || exceedsBaseline device.rtcData device.board.deviceData

omit [DoubleArith F] in
def sleepBlock (input : PassInput F) (device : Firmware F) :
    Outcome (Firmware F) (PassEnd × Firmware F) :=
  if !device.accessPoint && !device.runFlag &&
      !device.board.messagePending then
    let off := hibernate { device.board with bmeMode := .sleep }
    let counted :=
      { device.rtcData with
        criticalFlag := device.rtcData.criticalFlag + device.criticalFlag }
    .halted (.deepSleep,
      { device with
        board :=
          { off with outputs := off.outputs.digitalWrite shdnPin false }
        rtcData := counted
        rtcMemory :=
          if input.rtcWriteOk then counted else device.rtcMemory })
  else
    .again device

omit [DoubleArith F] in
/-- `if (resetDevice) resetCount++;` -/
def countReset (board : Board F) (resetCount : Nat) : Nat :=
  if board.resetDevice then resetCount + 1 else resetCount

omit [DoubleArith F] in
/-- The branch up to the count of passes with a reset pending. -/
def enterBranch (input : PassInput F) (device : Firmware F) : Firmware F :=
  let board := checkWifiReset input.switchPoll device.board
  { device with
    board := board
    runFlag := true
    resetCount := countReset board device.resetCount
    reportingPasses := device.reportingPasses + 1 }

omit [DoubleArith F] in
def driveLeds (input : PassInput F) (device : Firmware F) : Firmware F :=
  { device with
    board :=
      { device.board with
        outputs := ledWatch input.ledStartMillis input.ledEndMillis
          (keepAliveLed input.keepAliveMillis device.board.outputs) } }

omit [DoubleArith F] in
/-- The access point serves a client and lights the blue LED. -/
def servePortal (input : PassInput F) (device : Firmware F) : Firmware F :=
  let served :=
    match input.portal with
    | some portal =>
        (handleClient portal.write portal.request device.board).1
    | none => device.board
  { device with
    board :=
      { served with
        outputs :=
          { controlLed blueLed true served.outputs with
            blueLedDuration := 3000 } } }

omit [DoubleArith F] in
/-- What the report block writes before anything was sent. -/
def commitBaseline (device : Firmware F) : Firmware F :=
  { device with
    runFlag := false
    rtcData :=
      { distanceRtc := device.board.deviceData.distance
        temperatureRtc := device.board.deviceData.temperature
        humidityRtc := device.board.deviceData.humidity
        criticalFlag := 0 }
    criticalFlag := 0 }

/-- The rest of the report block: read again, compose and queue. -/
def sendReport (input : PassInput F) (device : Firmware F) : Firmware F :=
  { device with
    previousSendMillis := input.currentMillis
    board := sendData input.report device.board }

def serviceHub (toInt : Bytes → BitVec 32) (input : PassInput F)
    (device : Firmware F) : Firmware F :=
  { device with board := doWork toInt input.work device.board }

omit [DoubleArith F] in
/-- The ten seconds are over and nothing is pending. -/
def sendWindowOpen (input : PassInput F) (device : Firmware F) : Bool :=
  initTimeMillis ≤ input.currentMillis - device.previousSendMillis &&
    !device.board.messagePending

/-- How the reporting branch ends: a reset, a return from `loop()`, or on to
the last block. -/
inductive BranchEnd (F : Type) where
  | resets (device : Firmware F)
  | returns (device : Firmware F)
  | continues (device : Firmware F)

def reportingBranch (toInt : Bytes → BitVec 32) (input : PassInput F)
    (device : Firmware F) : BranchEnd F :=
  let entered := enterBranch input device
  if entered.board.resetDevice && entered.resetCount = 20 then
    .resets
      { entered with board := { entered.board with resetDevice := false } }
  else
    let lit := driveLeds input entered
    if lit.accessPoint then
      .continues (servePortal input lit)
    else if lit.hubConnected then
      if sendWindowOpen input lit then
        let committed := commitBaseline lit
        if committed.board.wifiResetCount > 0 ||
            committed.board.resetDevice then
          .returns committed
        else
          .continues (serviceHub toInt input (sendReport input committed))
      else
        .continues (serviceHub toInt input lit)
    else
      .continues { lit with runFlag := false }

def loop (toInt : Bytes → BitVec 32) (input : PassInput F)
    (device : Firmware F) : Outcome (Firmware F) (PassEnd × Firmware F) :=
  let loaded := readRtc input device
  if reportDue loaded then
    match reportingBranch toInt input loaded with
    | .resets final => .halted (.reset, final)
    | .returns final => .again final
    | .continues final => sleepBlock input final
  else
    sleepBlock input loaded

/-- The state a pass leaves, whether or not `loop()` returns. -/
def endOfPass : Outcome (Firmware F) (PassEnd × Firmware F) → Firmware F
  | .again device => device
  | .halted (_, device) => device

def CallsDoWork (toInt : Bytes → BitVec 32) (device : Firmware F)
    (input : PassInput F) : Prop :=
  device.board.hub.doWorkCalls <
    (endOfPass (loop toInt input device)).board.hub.doWorkCalls

def EntersBranch (toInt : Bytes → BitVec 32) (device : Firmware F)
    (input : PassInput F) : Prop :=
  device.reportingPasses <
    (endOfPass (loop toInt input device)).reportingPasses

end Loop

end FunnelDispenser.Device
