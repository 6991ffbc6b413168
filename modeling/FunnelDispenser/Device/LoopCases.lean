import FunnelDispenser.Device.Loop

/-!
# What a pass can do in station mode

`StationPass` lists the ways a pass of `loop()` ends while the device is not
an access point, each with the condition on its inputs under which it
happens.  Everything later on is derived from this case distinction.
-/

namespace FunnelDispenser.Device

open StepRuns

variable {F : Type} [DoubleArith F]

omit [DoubleArith F] in
def samples (input : PassInput F) (device : Firmware F) : Bool :=
  !device.accessPoint && input.rtcReadOk && !device.runFlag &&
    !device.board.messagePending

def comparedRecord (input : PassInput F) (device : Firmware F) : RtcData F :=
  if samples input device then
    device.rtcMemory.sanitize
  else if !device.accessPoint && input.rtcReadOk then
    device.rtcMemory
  else
    device.rtcData

def sampledData (readings : SensorReadings F) (sensors : SensorFlags)
    (data : DataDevice F) : DataDevice F :=
  { data with
    distance := DoubleArith.ofNat (readings.range.range.toNat / 10)
    temperature :=
      if sensors.environmentSensor then readings.temperature
      else data.temperature
    humidity :=
      if sensors.environmentSensor then readings.humidity
      else data.humidity }

def comparedData (input : PassInput F) (device : Firmware F) :
    DataDevice F :=
  if samples input device then
    sampledData input.sample device.board.sensors device.board.deviceData
  else
    device.board.deviceData

theorem sampleSensors_eq (readings : SensorReadings F) (board : Board F) :
    sampleSensors readings board =
      { board with
        outputs := board.outputs.digitalWrite shdnPin true
        gaugeHibernating := false
        bmeMode :=
          if board.sensors.environmentSensor then .forced
          else board.bmeMode
        deviceData :=
          sampledData readings board.sensors board.deviceData } := by
  rcases board with ⟨⟨_, _ | _, _⟩, data, storage, pending, count, reset,
    display, outputs, mode, gauge, hub⟩ <;> rfl

theorem readRtc_eq (input : PassInput F) (device : Firmware F) :
    readRtc input device =
      { device with
        rtcData := comparedRecord input device
        board :=
          if samples input device then
            sampleSensors input.sample device.board
          else device.board } := by
  by_cases reads : (!device.accessPoint && input.rtcReadOk) = true
  · by_cases idle :
        (!device.runFlag && !device.board.messagePending) = true
    · have sampling : samples input device = true := by
        rw [samples, Bool.and_assoc, reads, idle]
        rfl
      simp only [readRtc, reads, idle, comparedRecord, sampling, if_true]
    · have skipping : samples input device = false := by
        rw [samples, Bool.and_assoc, reads, Bool.true_and]
        exact Bool.eq_false_of_not_eq_true idle
      simp only [readRtc, reads, idle, comparedRecord, skipping, if_true,
        Bool.false_eq_true, if_false]
  · have skipping : samples input device = false := by
      rw [samples, Bool.and_assoc, Bool.eq_false_of_not_eq_true reads]
      rfl
    simp only [readRtc, reads, comparedRecord, skipping,
      Bool.false_eq_true, if_false]

theorem readRtc_deviceData (input : PassInput F) (device : Firmware F) :
    (readRtc input device).board.deviceData = comparedData input device := by
  rw [readRtc_eq, comparedData]
  by_cases sampling : samples input device = true
  · simp [sampling, sampleSensors_eq]
  · simp [sampling]

/-- The guard of the reporting branch in station mode. -/
def reportingDue (input : PassInput F) (device : Firmware F) : Bool :=
  exceedsBaseline (comparedRecord input device) (comparedData input device)

theorem reportDue_readRtc (input : PassInput F) {device : Firmware F}
    (station : device.accessPoint = false) :
    reportDue (readRtc input device) = reportingDue input device := by
  rw [reportDue, readRtc_deviceData, readRtc_eq]
  simp [station, reportingDue]

/-- The state in which the reporting branch turns to the hub. -/
def inBranch (input : PassInput F) (device : Firmware F) : Firmware F :=
  driveLeds input (enterBranch input (readRtc input device))

omit [DoubleArith F] in
/-- A reset is pending after the switch was polled. -/
def resetHeld (input : PassInput F) (device : Firmware F) : Bool :=
  device.board.resetDevice ||
    completesClear input.switchPoll device.board.wifiResetCount

omit [DoubleArith F] in
/-- The pass is the twentieth with a reset pending. -/
def resetsNow (input : PassInput F) (device : Firmware F) : Bool :=
  resetHeld input device && device.resetCount = 19

omit [DoubleArith F] in
/-- Ten seconds have passed, nothing is pending and the switch is not
pressed. -/
def windowOpen (input : PassInput F) (device : Firmware F) : Bool :=
  initTimeMillis ≤ input.currentMillis - device.previousSendMillis &&
    !device.board.messagePending && !input.switchPoll.pressed

/-- The board of `inBranch`, as far as the hub is concerned. -/
structure BranchBoard (input : PassInput F) (device : Firmware F)
    (board : Board F) : Prop where
  hub : board.hub = device.board.hub
  messagePending : board.messagePending =
    (device.board.messagePending || input.switchPoll.pressed)
  deviceData : board.deviceData = comparedData input device
  sensors : board.sensors = device.board.sensors
  resetDevice : board.resetDevice = resetHeld input device
  wifiResetCount : board.wifiResetCount =
    if completesClear input.switchPoll device.board.wifiResetCount then 0
    else nextPressCount input.switchPoll device.board.wifiResetCount

theorem readRtc_board_frame
    (input : PassInput F) (device : Firmware F) :
    (readRtc input device).board.hub = device.board.hub ∧
      (readRtc input device).board.messagePending =
        device.board.messagePending ∧
      (readRtc input device).board.sensors = device.board.sensors ∧
      (readRtc input device).board.resetDevice = device.board.resetDevice ∧
      (readRtc input device).board.wifiResetCount =
        device.board.wifiResetCount := by
  rw [readRtc_eq]
  by_cases sampling : samples input device = true <;>
    simp [sampling, sampleSensors_eq]

theorem inBranch_board (input : PassInput F) (device : Firmware F) :
    BranchBoard input device (inBranch input device).board := by
  obtain ⟨hub, pending, sensors, reset, count⟩ :=
    readRtc_board_frame input device
  have data := readRtc_deviceData input device
  constructor <;>
    simp [inBranch, driveLeds, enterBranch, hub, pending, sensors, reset,
      count, data, resetHeld]

section InBranch

variable (input : PassInput F) (device : Firmware F)

@[simp]
theorem inBranch_accessPoint :
    (inBranch input device).accessPoint = device.accessPoint := by
  rw [inBranch, readRtc_eq]
  rfl

@[simp]
theorem inBranch_runFlag : (inBranch input device).runFlag = true :=
  rfl

@[simp]
theorem inBranch_criticalFlag :
    (inBranch input device).criticalFlag = device.criticalFlag := by
  rw [inBranch, readRtc_eq]
  rfl

@[simp]
theorem inBranch_hubConnected :
    (inBranch input device).hubConnected = device.hubConnected := by
  rw [inBranch, readRtc_eq]
  rfl

@[simp]
theorem inBranch_previousSendMillis :
    (inBranch input device).previousSendMillis =
      device.previousSendMillis := by
  rw [inBranch, readRtc_eq]
  rfl

@[simp]
theorem inBranch_rtcData :
    (inBranch input device).rtcData = comparedRecord input device := by
  rw [inBranch, readRtc_eq]
  rfl

@[simp]
theorem inBranch_rtcMemory :
    (inBranch input device).rtcMemory = device.rtcMemory := by
  rw [inBranch, readRtc_eq]
  rfl

@[simp]
theorem inBranch_reportingPasses :
    (inBranch input device).reportingPasses =
      device.reportingPasses + 1 := by
  rw [inBranch, readRtc_eq]
  rfl

end InBranch

/-- The state after the report block: baseline committed, report queued or
not, hub serviced. -/
def afterReport (toInt : CMemory.Bytes → BitVec 32) (input : PassInput F)
    (device : Firmware F) : Firmware F :=
  serviceHub toInt input
    (sendReport input (commitBaseline (inBranch input device)))

def afterOffline (input : PassInput F) (device : Firmware F) : Firmware F :=
  { inBranch input device with runFlag := false }

def resetting (input : PassInput F) (device : Firmware F) : Firmware F :=
  let entered := enterBranch input (readRtc input device)
  { entered with board := { entered.board with resetDevice := false } }

/-- The ways a pass in station mode ends. -/
inductive StationPass (toInt : CMemory.Bytes → BitVec 32)
    (input : PassInput F) (device : Firmware F)
    (outcome : Outcome (Firmware F) (PassEnd × Firmware F)) : Prop where
  | quiet (skipped : reportingDue input device = false)
      (ends : outcome = sleepBlock input (readRtc input device))
  | resets (due : reportingDue input device = true)
      (now : resetsNow input device = true)
      (ends : outcome = .halted (.reset, resetting input device))
  | offline (due : reportingDue input device = true)
      (unconnected : device.hubConnected = false)
      (ends : outcome = sleepBlock input (afterOffline input device))
  | returns (due : reportingDue input device = true)
      (notNow : resetsNow input device = false)
      (connected : device.hubConnected = true)
      (opened : windowOpen input device = true)
      (held : device.board.resetDevice = true)
      (ends : outcome = .again (commitBaseline (inBranch input device)))
  | sends (due : reportingDue input device = true)
      (connected : device.hubConnected = true)
      (opened : windowOpen input device = true)
      (free : device.board.resetDevice = false)
      (ends : outcome = sleepBlock input (afterReport toInt input device))
  | waits (due : reportingDue input device = true)
      (notNow : resetsNow input device = false)
      (connected : device.hubConnected = true)
      (closed : windowOpen input device = false)
      (ends : outcome =
        .again (serviceHub toInt input (inBranch input device)))

private theorem sendWindowOpen_inBranch
    (input : PassInput F) (device : Firmware F) :
    sendWindowOpen input (inBranch input device) =
      windowOpen input device := by
  rw [sendWindowOpen, inBranch_previousSendMillis,
    (inBranch_board input device).messagePending, windowOpen,
    Bool.not_or, Bool.and_assoc]

/-- While the window is open the switch is not pressed, so the report block
is left early exactly when a reset was pending before the poll. -/
private theorem returns_iff
    {input : PassInput F} {device : Firmware F}
    (opened : windowOpen input device = true) :
    ((inBranch input device).board.wifiResetCount > 0 ∨
        (inBranch input device).board.resetDevice = true) ↔
      device.board.resetDevice = true := by
  have released : input.switchPoll.pressed = false := by
    simp only [windowOpen, Bool.and_eq_true, Bool.not_eq_true'] at opened
    exact opened.2
  have board := inBranch_board input device
  rw [board.wifiResetCount, board.resetDevice]
  simp [resetHeld, completesClear, nextPressCount, released]

private theorem reportingBranch_readRtc (toInt : CMemory.Bytes → BitVec 32)
    (input : PassInput F) {device : Firmware F}
    (station : device.accessPoint = false) :
    reportingBranch toInt input (readRtc input device) =
      if resetsNow input device then
        .resets (resetting input device)
      else if device.hubConnected then
        if windowOpen input device then
          if device.board.resetDevice then
            .returns (commitBaseline (inBranch input device))
          else
            .continues (afterReport toInt input device)
        else
          .continues (serviceHub toInt input (inBranch input device))
      else
        .continues (afterOffline input device) := by
  have board := inBranch_board input device
  have held : (enterBranch input (readRtc input device)).board.resetDevice =
      resetHeld input device := board.resetDevice
  have counted : (enterBranch input (readRtc input device)).resetCount =
      if resetHeld input device then device.resetCount + 1
      else device.resetCount := by
    change countReset (enterBranch input (readRtc input device)).board _ = _
    rw [countReset, held, readRtc_eq]
  have now :
      (resetHeld input device &&
        decide ((enterBranch input (readRtc input device)).resetCount =
          20)) = resetsNow input device := by
    rw [counted]
    cases pending : resetHeld input device <;> simp [resetsNow, pending]
  have early :
      (decide ((inBranch input device).board.wifiResetCount > 0) ||
        (inBranch input device).board.resetDevice) =
          device.board.resetDevice ∨ windowOpen input device = false := by
    cases opened : windowOpen input device
    · exact Or.inr rfl
    · left
      rw [Bool.eq_iff_iff]
      simpa using returns_iff opened
  simp only [reportingBranch]
  rw [held, now]
  change (if resetsNow input device then
      BranchEnd.resets (resetting input device)
    else if (inBranch input device).accessPoint then _
    else if (inBranch input device).hubConnected then
      if sendWindowOpen input (inBranch input device) then
        if decide ((inBranch input device).board.wifiResetCount > 0) ||
            (inBranch input device).board.resetDevice then
          BranchEnd.returns (commitBaseline (inBranch input device))
        else
          BranchEnd.continues (afterReport toInt input device)
      else
        BranchEnd.continues (serviceHub toInt input (inBranch input device))
    else BranchEnd.continues (afterOffline input device)) = _
  rw [inBranch_accessPoint, station, inBranch_hubConnected,
    sendWindowOpen_inBranch]
  rcases early with same | closed
  · simp only [same, Bool.false_eq_true, if_false]
  · simp only [closed, Bool.false_eq_true, if_false]

theorem reportingBranch_accessPoint (toInt : CMemory.Bytes → BitVec 32)
    (input : PassInput F) {device : Firmware F}
    (mode : device.accessPoint = true) :
    reportingBranch toInt input device =
      if (enterBranch input device).board.resetDevice &&
          decide ((enterBranch input device).resetCount = 20) then
        .resets
          { enterBranch input device with
            board :=
              { (enterBranch input device).board with
                resetDevice := false } }
      else
        .continues
          (servePortal input (driveLeds input (enterBranch input device))) := by
  have lit : (driveLeds input (enterBranch input device)).accessPoint =
      true := mode
  unfold reportingBranch
  simp only [lit, if_true]

/-- A pass of an access point resets the chip or goes on serving. -/
theorem loop_accessPoint (toInt : CMemory.Bytes → BitVec 32)
    (input : PassInput F) {device : Firmware F}
    (mode : device.accessPoint = true) :
    (∃ final, loop toInt input device = .halted (.reset, final)) ∨
      loop toInt input device =
        .again (servePortal input (driveLeds input
          (enterBranch input (readRtc input device)))) := by
  have loaded : (readRtc input device).accessPoint = true := by
    rw [readRtc_eq]
    exact mode
  have due : reportDue (readRtc input device) = true := by
    rw [reportDue, loaded]
    rfl
  have serves : sleepBlock input (servePortal input (driveLeds input
      (enterBranch input (readRtc input device)))) =
        .again (servePortal input (driveLeds input
          (enterBranch input (readRtc input device)))) := by
    have portal : (servePortal input (driveLeds input
        (enterBranch input (readRtc input device)))).accessPoint = true :=
      loaded
    rw [sleepBlock, portal]
    rfl
  have branch := reportingBranch_accessPoint toInt input loaded
  rw [loop, due, if_pos rfl]
  split at branch
  · rw [branch]
    exact Or.inl ⟨_, rfl⟩
  · rw [branch]
    exact Or.inr serves

/-- A pass of an access point, in the terms of this module. -/
theorem loop_accessPoint_eq (toInt : CMemory.Bytes → BitVec 32)
    (input : PassInput F) {device : Firmware F}
    (mode : device.accessPoint = true) :
    loop toInt input device =
      if resetsNow input device then
        .halted (.reset, resetting input device)
      else
        .again (servePortal input (inBranch input device)) := by
  have loaded : readRtc input device = device := by
    simp [readRtc, mode]
  have due : reportDue device = true := by
    rw [reportDue, mode]
    rfl
  have held : (enterBranch input device).board.resetDevice =
      resetHeld input device := by
    rw [resetHeld, ← checkWifiReset_resetDevice]
    rfl
  have now : (resetHeld input device &&
      decide ((enterBranch input device).resetCount = 20)) =
        resetsNow input device := by
    change (resetHeld input device &&
      decide (countReset (enterBranch input device).board
        device.resetCount = 20)) = _
    rw [countReset, held]
    cases pending : resetHeld input device <;> simp [resetsNow, pending]
  have serves : sleepBlock input
      (servePortal input (inBranch input device)) =
        .again (servePortal input (inBranch input device)) := by
    have portal : (servePortal input (inBranch input device)).accessPoint =
        true := (inBranch_accessPoint input device).trans mode
    rw [sleepBlock, portal]
    rfl
  rw [loop, loaded, due, if_pos rfl,
    reportingBranch_accessPoint toInt input mode, held, now]
  cases resetsNow input device
  · rw [inBranch, loaded] at serves
    rw [inBranch, loaded]
    exact serves
  · rw [resetting, loaded]
    rfl

/-- A pass in station mode, in the terms of this module. -/
theorem loop_station_eq (toInt : CMemory.Bytes → BitVec 32)
    (input : PassInput F) {device : Firmware F}
    (station : device.accessPoint = false) :
    loop toInt input device =
      if reportingDue input device then
        if resetsNow input device then
          .halted (.reset, resetting input device)
        else if device.hubConnected then
          if windowOpen input device then
            if device.board.resetDevice then
              .again (commitBaseline (inBranch input device))
            else
              sleepBlock input (afterReport toInt input device)
          else
            .again (serviceHub toInt input (inBranch input device))
        else
          sleepBlock input (afterOffline input device)
      else
        sleepBlock input (readRtc input device) := by
  have guard := reportDue_readRtc input station
  have branch := reportingBranch_readRtc toInt input station
  have waits : sleepBlock input
      (serviceHub toInt input (inBranch input device)) =
        .again (serviceHub toInt input (inBranch input device)) := by
    simp [sleepBlock, serviceHub]
  rw [loop, guard, branch]
  cases reportingDue input device
  · rfl
  · cases resetsNow input device
    · cases device.hubConnected
      · rfl
      · cases windowOpen input device
        · exact waits
        · cases device.board.resetDevice <;> rfl
    · rfl

theorem loop_station (toInt : CMemory.Bytes → BitVec 32)
    (input : PassInput F) {device : Firmware F}
    (station : device.accessPoint = false) :
    StationPass toInt input device (loop toInt input device) := by
  have ends := loop_station_eq toInt input station
  cases due : reportingDue input device
  · exact .quiet due (by simp [ends, due])
  · cases now : resetsNow input device
    · cases connected : device.hubConnected
      · exact .offline due connected (by simp [ends, due, now, connected])
      · cases opened : windowOpen input device
        · exact .waits due now connected opened
            (by simp [ends, due, now, connected, opened])
        · cases held : device.board.resetDevice
          · exact .sends due connected opened held
              (by simp [ends, due, now, connected, opened, held])
          · exact .returns due now connected opened held
              (by simp [ends, due, now, connected, opened, held])
    · exact .resets due now (by simp [ends, due, now])

omit [DoubleArith F] in
/-- The state in which the chip goes to deep sleep. -/
def asleep (input : PassInput F) (device : Firmware F) : Firmware F :=
  let off := hibernate { device.board with bmeMode := .sleep }
  let counted :=
    { device.rtcData with
      criticalFlag := device.rtcData.criticalFlag + device.criticalFlag }
  { device with
    board := { off with outputs := off.outputs.digitalWrite shdnPin false }
    rtcData := counted
    rtcMemory := if input.rtcWriteOk then counted else device.rtcMemory }

omit [DoubleArith F] in
theorem sleepBlock_eq (input : PassInput F) {device : Firmware F}
    (station : device.accessPoint = false) :
    sleepBlock input device =
      if device.runFlag || device.board.messagePending then .again device
      else .halted (.deepSleep, asleep input device) := by
  cases committed : device.runFlag <;>
    cases pending : device.board.messagePending <;>
      simp [sleepBlock, asleep, station, committed, pending]

omit [DoubleArith F] in
/-- The last block touches neither the client nor the pass count. -/
theorem endOfPass_sleepBlock (input : PassInput F) (device : Firmware F) :
    (endOfPass (sleepBlock input device)).board.hub = device.board.hub ∧
      (endOfPass (sleepBlock input device)).reportingPasses =
        device.reportingPasses := by
  unfold sleepBlock
  split <;> exact ⟨rfl, rfl⟩

/-- The ways `loop()` returns in station mode. -/
inductive Returned (toInt : CMemory.Bytes → BitVec 32) (input : PassInput F)
    (device next : Firmware F) : Prop where
  | quiet (skipped : reportingDue input device = false)
      (awake : (device.runFlag || device.board.messagePending) = true)
      (ends : next = readRtc input device)
  | offline (due : reportingDue input device = true)
      (unconnected : device.hubConnected = false)
      (ends : next = afterOffline input device)
  | returns (due : reportingDue input device = true)
      (connected : device.hubConnected = true)
      (opened : windowOpen input device = true)
      (held : device.board.resetDevice = true)
      (ends : next = commitBaseline (inBranch input device))
  | sends (due : reportingDue input device = true)
      (connected : device.hubConnected = true)
      (opened : windowOpen input device = true)
      (free : device.board.resetDevice = false)
      (pending :
        (afterReport toInt input device).board.messagePending = true)
      (ends : next = afterReport toInt input device)
  | waits (due : reportingDue input device = true)
      (notNow : resetsNow input device = false)
      (connected : device.hubConnected = true)
      (closed : windowOpen input device = false)
      (ends : next = serviceHub toInt input (inBranch input device))

/-- The ways a pass in station mode goes to sleep. -/
inductive FellAsleep (toInt : CMemory.Bytes → BitVec 32)
    (input : PassInput F) (device final : Firmware F) : Prop where
  | quiet (skipped : reportingDue input device = false)
      (committed : device.runFlag = false)
      (idle : device.board.messagePending = false)
      (ends : final = asleep input (readRtc input device))
  | offline (due : reportingDue input device = true)
      (unconnected : device.hubConnected = false)
      (idle : (inBranch input device).board.messagePending = false)
      (ends : final = asleep input (afterOffline input device))
  | sends (due : reportingDue input device = true)
      (connected : device.hubConnected = true)
      (opened : windowOpen input device = true)
      (free : device.board.resetDevice = false)
      (idle : (afterReport toInt input device).board.messagePending = false)
      (ends : final = asleep input (afterReport toInt input device))

section Ends

variable {toInt : CMemory.Bytes → BitVec 32} {input : PassInput F}
variable {device : Firmware F}

private theorem sleepBlock_readRtc
    (station : device.accessPoint = false) :
    sleepBlock input (readRtc input device) =
      if device.runFlag || device.board.messagePending then
        .again (readRtc input device)
      else .halted (.deepSleep, asleep input (readRtc input device)) := by
  have frame := readRtc_board_frame input device
  have flag : (readRtc input device).runFlag = device.runFlag := by
    rw [readRtc_eq]
  have mode : (readRtc input device).accessPoint = false := by
    rw [readRtc_eq]
    exact station
  rw [sleepBlock_eq input mode, flag, frame.2.1]

private theorem sleepBlock_afterOffline
    (station : device.accessPoint = false) :
    sleepBlock input (afterOffline input device) =
      if (inBranch input device).board.messagePending then
        .again (afterOffline input device)
      else .halted (.deepSleep, asleep input (afterOffline input device)) := by
  have mode : (afterOffline input device).accessPoint = false := by
    rw [← station, ← inBranch_accessPoint input device]
    rfl
  rw [sleepBlock_eq input mode]
  rfl

private theorem sleepBlock_afterReport
    (station : device.accessPoint = false) :
    sleepBlock input (afterReport toInt input device) =
      if (afterReport toInt input device).board.messagePending then
        .again (afterReport toInt input device)
      else
        .halted
          (.deepSleep, asleep input (afterReport toInt input device)) := by
  have mode : (afterReport toInt input device).accessPoint = false := by
    rw [← station, ← inBranch_accessPoint input device]
    rfl
  rw [sleepBlock_eq input mode]
  rfl

theorem returned_of_loop {next : Firmware F}
    (station : device.accessPoint = false)
    (stepped : loop toInt input device = .again next) :
    Returned toInt input device next := by
  cases loop_station toInt input station with
  | quiet skipped ends =>
      rw [ends, sleepBlock_readRtc station] at stepped
      split at stepped
      · cases stepped
        exact .quiet skipped ‹_› rfl
      · cases stepped
  | resets due now ends =>
      rw [ends] at stepped
      cases stepped
  | offline due unconnected ends =>
      rw [ends, sleepBlock_afterOffline station] at stepped
      split at stepped
      · cases stepped
        exact .offline due unconnected rfl
      · cases stepped
  | returns due notNow connected opened held ends =>
      rw [ends] at stepped
      cases stepped
      exact .returns due connected opened held rfl
  | sends due connected opened free ends =>
      rw [ends, sleepBlock_afterReport station] at stepped
      split at stepped
      · cases stepped
        exact .sends due connected opened free ‹_› rfl
      · cases stepped
  | waits due notNow connected closed ends =>
      rw [ends] at stepped
      cases stepped
      exact .waits due notNow connected closed rfl

theorem fellAsleep_of_loop {final : Firmware F}
    (station : device.accessPoint = false)
    (stepped : loop toInt input device = .halted (.deepSleep, final)) :
    FellAsleep toInt input device final := by
  cases loop_station toInt input station with
  | quiet skipped ends =>
      rw [ends, sleepBlock_readRtc station] at stepped
      split at stepped
      · cases stepped
      · cases stepped
        rename_i asleepNow
        rw [Bool.not_eq_true, Bool.or_eq_false_iff] at asleepNow
        exact .quiet skipped asleepNow.1 asleepNow.2 rfl
  | resets due now ends =>
      rw [ends] at stepped
      cases stepped
  | offline due unconnected ends =>
      rw [ends, sleepBlock_afterOffline station] at stepped
      split at stepped
      · cases stepped
      · cases stepped
        exact .offline due unconnected (Bool.eq_false_of_not_eq_true ‹_›) rfl
  | returns due notNow connected opened held ends =>
      rw [ends] at stepped
      cases stepped
  | sends due connected opened free ends =>
      rw [ends, sleepBlock_afterReport station] at stepped
      split at stepped
      · cases stepped
      · cases stepped
        exact .sends due connected opened free
          (Bool.eq_false_of_not_eq_true ‹_›) rfl
  | waits due notNow connected closed ends =>
      rw [ends] at stepped
      cases stepped

theorem loop_of_skipped (toInt : CMemory.Bytes → BitVec 32)
    (station : device.accessPoint = false)
    (committed : device.runFlag = false)
    (idle : device.board.messagePending = false)
    (skipped : reportingDue input device = false) :
    loop toInt input device =
      .halted (.deepSleep, asleep input (readRtc input device)) := by
  have guard := reportDue_readRtc input station
  rw [skipped] at guard
  simp only [loop, guard, Bool.false_eq_true, if_false,
    sleepBlock_readRtc station, committed, idle, Bool.or_self]

/-- Without a hub there is no report, and an idle pass falls asleep. -/
theorem loop_of_offline (toInt : CMemory.Bytes → BitVec 32)
    (station : device.accessPoint = false)
    (due : reportingDue input device = true)
    (notNow : resetsNow input device = false)
    (unconnected : device.hubConnected = false)
    (idle : (inBranch input device).board.messagePending = false) :
    loop toInt input device =
      .halted (.deepSleep, asleep input (afterOffline input device)) := by
  simp only [loop_station_eq toInt input station, due, notNow, unconnected,
    Bool.false_eq_true, if_true, if_false, sleepBlock_afterOffline station,
    idle]

omit [DoubleArith F] in
theorem samples_of_idle (station : device.accessPoint = false)
    (reads : input.rtcReadOk = true) (committed : device.runFlag = false)
    (idle : device.board.messagePending = false) :
    samples input device = true := by
  simp [samples, station, reads, committed, idle]

theorem comparedRecord_criticalFlag
    (station : device.accessPoint = false) (reads : input.rtcReadOk = true) :
    (comparedRecord input device).criticalFlag =
      device.rtcMemory.criticalFlag := by
  rw [comparedRecord]
  split
  · rfl
  · simp [station, reads]

theorem rtcMemory_asleep_readRtc (station : device.accessPoint = false)
    (reads : input.rtcReadOk = true) (writes : input.rtcWriteOk = true)
    (committed : device.runFlag = false)
    (idle : device.board.messagePending = false) :
    (asleep input (readRtc input device)).rtcMemory =
      { device.rtcMemory.sanitize with
        criticalFlag :=
          device.rtcMemory.criticalFlag + device.criticalFlag } := by
  have sampling := samples_of_idle station reads committed idle
  rw [readRtc_eq, comparedRecord, sampling]
  simp only [asleep, writes, if_true]
  rfl

theorem Returned.mode {next : Firmware F}
    (returned : Returned toInt input device next) :
    next.accessPoint = device.accessPoint ∧
      next.hubConnected = device.hubConnected ∧
      next.rtcMemory = device.rtcMemory := by
  have branch := inBranch_accessPoint input device
  have connected := inBranch_hubConnected input device
  have memory := inBranch_rtcMemory input device
  cases returned with
  | quiet skipped awake ends =>
      rw [ends, readRtc_eq]
      exact ⟨rfl, rfl, rfl⟩
  | offline due unconnected ends =>
      rw [ends]
      exact ⟨branch, connected, memory⟩
  | returns due wired opened held ends =>
      rw [ends]
      exact ⟨branch, connected, memory⟩
  | sends due wired opened free pending ends =>
      rw [ends]
      exact ⟨branch, connected, memory⟩
  | waits due notNow wired closed ends =>
      rw [ends]
      exact ⟨branch, connected, memory⟩

theorem entersBranch_iff (station : device.accessPoint = false) :
    EntersBranch toInt device input ↔ reportingDue input device = true := by
  unfold EntersBranch
  cases loop_station toInt input station with
  | quiet skipped ends =>
      have same : (readRtc input device).reportingPasses =
          device.reportingPasses := by
        rw [readRtc_eq]
      rw [ends, (endOfPass_sleepBlock input _).2, same, skipped]
      simp
  | resets due now ends =>
      rw [ends, due]
      change _ < (inBranch input device).reportingPasses ↔ _
      simp
  | offline due unconnected ends =>
      rw [ends, (endOfPass_sleepBlock input _).2, due]
      change _ < (inBranch input device).reportingPasses ↔ _
      simp
  | returns due notNow connected opened held ends =>
      rw [ends, due]
      change _ < (inBranch input device).reportingPasses ↔ _
      simp
  | sends due connected opened free ends =>
      rw [ends, (endOfPass_sleepBlock input _).2, due]
      change _ < (inBranch input device).reportingPasses ↔ _
      simp
  | waits due notNow connected closed ends =>
      rw [ends, due]
      change _ < (inBranch input device).reportingPasses ↔ _
      simp

end Ends

end FunnelDispenser.Device
