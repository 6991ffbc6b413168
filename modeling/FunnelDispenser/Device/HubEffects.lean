import FunnelDispenser.Device.Hub

/-!
# What sending and the callbacks change

One effect statement for each function of `Hub`: everything `loop()` needs to
know about a report, about handling a cloud message and about `DoWork`.
-/

namespace FunnelDispenser.Device

open CMemory Config

variable {F : Type} [DoubleArith F]

def measured (readings : SensorReadings F) (sensors : SensorFlags)
    (data : DataDevice F) : DataDevice F :=
  { data with
    distance :=
      if sensors.distanceSensor then
        DoubleArith.ofNat (readings.range.range.toNat / 10)
      else data.distance
    temperature :=
      if sensors.environmentSensor then readings.temperature
      else data.temperature
    humidity :=
      if sensors.environmentSensor then readings.humidity
      else data.humidity
    batteryPercentage :=
      if sensors.batterySensor then readings.soc
      else data.batteryPercentage
    batteryState :=
      if sensors.batterySensor then readings.soh
      else data.batteryState }

/-- Reading the sensors changes the readings and the sensor mode. -/
theorem takeReadings_eq (readings : SensorReadings F) (board : Board F) :
    takeReadings readings board =
      { board with
        deviceData := measured readings board.sensors board.deviceData
        bmeMode :=
          if board.sensors.environmentSensor then .sleep
          else board.bmeMode } := by
  rcases board with ⟨⟨_ | _, _ | _, _ | _⟩, data, storage, pending, count,
    reset, display, outputs, mode, gauge, hub⟩ <;> rfl

/-- A report measures, and hands the measured values to the client when the
client accepts them. -/
theorem sendData_eq (input : ReportInput F) (board : Board F) :
    sendData input board =
      { takeReadings input.readings board with
        messagePending := board.messagePending || input.accepted
        hub :=
          if input.accepted then
            { board.hub with
              waitingToSend :=
                board.hub.waitingToSend ++ [reportMessage input board]
              accepted :=
                board.hub.accepted ++ [reportMessage input board] }
          else board.hub } := by
  rw [sendData, takeReadings_eq]
  rcases input with ⟨readings, readDateTime, freeHeap, _ | _, _ | _⟩ <;>
    simp [queueMessage, ReportInput.accepted]

/-- The message carries the readings the report leaves behind. -/
theorem reportMessage_triple (input : ReportInput F) (board : Board F) :
    (reportMessage input board).triple =
      (measured input.readings board.sensors board.deviceData).triple := by
  rw [reportMessage, takeReadings_eq]
  rfl

section Callbacks

omit [DoubleArith F]

variable (result : ConfirmationResult) (polls : List SwitchPoll)
variable (board : Board F)

@[simp]
theorem onMessageSentCallback_messagePending :
    (onMessageSentCallback result polls board).messagePending = false :=
  rfl

@[simp]
theorem onMessageSentCallback_hub :
    (onMessageSentCallback result polls board).hub = board.hub := by
  unfold onMessageSentCallback
  split <;> simp

@[simp]
theorem onMessageSentCallback_deviceData :
    (onMessageSentCallback result polls board).deviceData =
      board.deviceData := by
  unfold onMessageSentCallback
  split <;> simp

@[simp]
theorem onMessageSentCallback_sensors :
    (onMessageSentCallback result polls board).sensors =
      board.sensors := by
  unfold onMessageSentCallback
  split <;> simp

variable {board} in
theorem resetDevice_of_onMessageSentCallback
    (pending : board.resetDevice = true) :
    (onMessageSentCallback result polls board).resetDevice = true := by
  unfold onMessageSentCallback
  split
  · exact resetDevice_of_holdSwitch polls pending
  · exact pending

end Callbacks

/-- The nine bodies are distinct, so at most one test matches. -/
theorem dispatchCommand_eq (input : CommandInput F) (content : Bytes)
    (commandId : BitVec 32) (board : Board F) :
    dispatchCommand input content commandId board =
      match (commandTable input).find?
          (fun command => content = command.1) with
      | some command => (command.2.1, command.2.2 board)
      | none => (commandId, board) := by
  have general : ∀ (table : List (Bytes × BitVec 32 × (Board F → Board F)))
      (known : BitVec 32 × Board F),
      (table.map Prod.fst).Nodup →
      table.foldl
          (fun known command =>
            if content = command.1 then (command.2.1, command.2.2 known.2)
            else known) known =
        match table.find? (fun command => content = command.1) with
        | some command => (command.2.1, command.2.2 known.2)
        | none => known := by
    intro table
    induction table with
    | nil => intros; rfl
    | cons command rest inductionHypothesis =>
        intro known distinct
        obtain ⟨notInRest, restDistinct⟩ := List.nodup_cons.mp distinct
        rw [List.foldl_cons, inductionHypothesis _ restDistinct]
        by_cases same : content = command.1
        · -- behind the match no further test can succeed
          have noOther : rest.find?
              (fun other => decide (content = other.1)) = none := by
            rw [List.find?_eq_none]
            intro other member
            have different : command.1 ≠ other.1 := by
              intro equality
              exact notInRest
                (List.mem_map.mpr ⟨other, member, equality.symm⟩)
            simpa [same] using different
          rw [noOther, List.find?_cons_of_pos (by simpa using same),
            if_pos same]
        · simp only [List.find?_cons, same, decide_false, if_false]
  exact general (commandTable input) (commandId, board) (by
    simp only [commandTable, List.map_cons, List.map_nil]
    decide)

/-- What handling a message with this content does to the flags, the queue
and the readings. -/
structure CommandEffect (input : CommandInput F) (content : Option Bytes)
    (before after : Board F) : Prop where
  hub : after.hub =
    if content = some sendDataBody then (sendData input.report before).hub
    else before.hub
  messagePending : after.messagePending =
    (before.messagePending ||
      (content = some sendDataBody && input.report.accepted))
  deviceData : after.deviceData =
    if content = some sendDataBody then
      measured input.report.readings before.sensors before.deviceData
    else if content = some displayDistanceBody then
      (getDistance input.report.readings before).deviceData
    else before.deviceData
  sensors : after.sensors = before.sensors
  wifiResetCount : after.wifiResetCount = before.wifiResetCount
  resetDevice : after.resetDevice =
    (before.resetDevice || content = some clearWifiBody)

/-- A command that queues nothing changes at most the readings and the
reset flag. -/
private theorem commandEffect_of_unqueued
    {input : CommandInput F} {content : Bytes} {before after : Board F}
    (notSend : content ≠ sendDataBody) (hub : after.hub = before.hub)
    (messagePending : after.messagePending = before.messagePending)
    (deviceData : after.deviceData =
      if content = displayDistanceBody then
        (getDistance input.report.readings before).deviceData
      else before.deviceData)
    (sensors : after.sensors = before.sensors)
    (wifiResetCount : after.wifiResetCount = before.wifiResetCount)
    (resetDevice : after.resetDevice =
      (before.resetDevice || content = clearWifiBody)) :
    CommandEffect input (some content) before after := by
  constructor
  · simpa [notSend] using hub
  · simpa [notSend] using messagePending
  · simpa [notSend] using deviceData
  · exact sensors
  · exact wifiResetCount
  · simpa using resetDevice

theorem dispatchCommand_effect (input : CommandInput F) (content : Bytes)
    (commandId : BitVec 32) (board : Board F) :
    CommandEffect input (some content) board
      (dispatchCommand input content commandId board).2 := by
  rw [dispatchCommand_eq]
  cases found : (commandTable input).find?
      (fun command => content = command.1) with
  | none =>
      simp only [commandTable, List.find?_eq_none, List.mem_cons,
        List.not_mem_nil, or_false, forall_eq_or_imp, forall_eq,
        decide_eq_true_eq] at found
      obtain ⟨notSend, _, _, notDistance, notClear, _⟩ := found
      exact commandEffect_of_unqueued notSend rfl rfl
        (by simp [notDistance]) rfl rfl (by simp [notClear])
  | some command =>
      have same : content = command.1 := by
        simpa using List.find?_some found
      have member := List.mem_of_find?_eq_some found
      subst same
      simp only [commandTable, List.mem_cons, List.not_mem_nil,
        or_false] at member
      have unchanged : ∀ flag : Bool, flag = (flag || false) := by simp
      rcases member with rfl | rfl | rfl | rfl | rfl | rfl | rfl | rfl | rfl
      all_goals dsimp only
      · change CommandEffect input (some sendDataBody) board
          (sendData input.report board)
        have notClear : sendDataBody ≠ clearWifiBody := by decide
        constructor <;> simp [sendData_eq, takeReadings_eq, notClear]
      · exact commandEffect_of_unqueued (by decide) rfl rfl rfl rfl rfl
          (unchanged _)
      · exact commandEffect_of_unqueued (by decide) rfl rfl rfl rfl rfl
          (unchanged _)
      · exact commandEffect_of_unqueued (by decide) rfl rfl rfl rfl rfl
          (unchanged _)
      · exact commandEffect_of_unqueued (by decide) rfl rfl rfl rfl rfl
          (Bool.or_true _).symm
      · exact commandEffect_of_unqueued (by decide) rfl rfl rfl rfl rfl
          (unchanged _)
      · exact commandEffect_of_unqueued (by decide) rfl rfl rfl rfl rfl
          (unchanged _)
      · exact commandEffect_of_unqueued (by decide) rfl rfl rfl rfl rfl
          (unchanged _)
      · exact commandEffect_of_unqueued (by decide) rfl rfl rfl rfl rfl
          (unchanged _)

omit [DoubleArith F] in
/-- The properties reach the LED durations and the configuration only. -/
theorem applyProperties_eq (toInt : Bytes → BitVec 32) (write : WriteOutcome)
    (commandId : BitVec 32) (properties : List (Bytes × Bytes))
    (board : Board F) :
    applyProperties toInt write commandId properties board =
      { board with
        outputs :=
          (applyProperties toInt write commandId properties board).outputs
        storage :=
          (applyProperties toInt write commandId properties
            board).storage } := by
  unfold applyProperties
  split
  · split
    · rfl
    · split <;> rfl
  · rfl

private theorem CommandEffect.applyProperties
    {input : CommandInput F} {content : Option Bytes}
    {before after : Board F} (effect : CommandEffect input content before after)
    (toInt : Bytes → BitVec 32) (write : WriteOutcome)
    (commandId : BitVec 32) (properties : List (Bytes × Bytes)) :
    CommandEffect input content before
      (applyProperties toInt write commandId properties after) := by
  rw [applyProperties_eq]
  exact ⟨effect.hub, effect.messagePending, effect.deviceData,
    effect.sensors, effect.wifiResetCount, effect.resetDevice⟩

theorem receiveMessageCallback_effect (toInt : Bytes → BitVec 32)
    (input : CommandInput F) (message : CloudMessage) (board : Board F) :
    CommandEffect input message.content board
      (receiveMessageCallback toInt input message board) := by
  obtain ⟨content, properties, stale⟩ := message
  cases content with
  | none =>
      have effect : CommandEffect input none board board := by
        constructor <;> simp
      cases properties with
      | none => exact effect
      | some properties => exact effect.applyProperties toInt _ _ _
  | some content =>
      have effect := dispatchCommand_effect input content stale board
      cases properties with
      | none => exact effect
      | some properties => exact effect.applyProperties toInt _ _ _

/-- The cloud command asks for a report that is accepted. -/
def commandQueues (input : DoWorkInput F) : Bool :=
  match input.message with
  | some message =>
      message.content = some sendDataBody && input.command.report.accepted
  | none => false

omit [DoubleArith F] in
/-- The cloud command clears the credentials and asks for a reset. -/
def commandClears (input : DoWorkInput F) : Bool :=
  match input.message with
  | some message => message.content = some clearWifiBody
  | none => false

def commandData (input : DoWorkInput F) (sensors : SensorFlags)
    (data : DataDevice F) : DataDevice F :=
  match input.message with
  | some message =>
      if message.content = some sendDataBody then
        measured input.command.report.readings sensors data
      else if message.content = some displayDistanceBody then
        { data with
          distance := DoubleArith.ofNat
            (input.command.report.readings.range.range.toNat / 10) }
      else
        data
  | none => data

section Attempt

omit [DoubleArith F]

variable (input : DoWorkInput F) (queue : List (DeviceStateMessage F))

def finishesHead : Bool :=
  !queue.isEmpty && input.send ≠ .retry

/-- The messages this attempt confirms as received. -/
def confirmedNow : List (DeviceStateMessage F) :=
  if input.send = .completed .ok then queue.take 1 else []

def remaining : List (DeviceStateMessage F) :=
  if finishesHead input queue then queue.tail else queue

end Attempt

structure DoWorkEffect (input : DoWorkInput F) (before after : Board F) :
    Prop where
  doWorkCalls : after.hub.doWorkCalls = before.hub.doWorkCalls + 1
  messagePending : after.messagePending =
    ((before.messagePending &&
        !finishesHead input before.hub.waitingToSend) ||
      commandQueues input)
  queued : ∃ added : List (DeviceStateMessage F),
    added.length = (if commandQueues input then 1 else 0) ∧
    after.hub.waitingToSend =
      remaining input before.hub.waitingToSend ++ added ∧
    after.hub.accepted = before.hub.accepted ++ added
  confirmedOk : after.hub.confirmedOk =
    before.hub.confirmedOk ++ confirmedNow input before.hub.waitingToSend
  deviceData : after.deviceData =
    commandData input before.sensors before.deviceData
  sensors : after.sensors = before.sensors
  resetDevice : (before.resetDevice || commandClears input) = true →
    after.resetDevice = true

structure DoEventEffect (input : DoWorkInput F) (before after : Board F) :
    Prop where
  hub : after.hub =
    { before.hub with
      waitingToSend := remaining input before.hub.waitingToSend
      confirmedOk := before.hub.confirmedOk ++
        confirmedNow input before.hub.waitingToSend }
  messagePending : after.messagePending =
    (before.messagePending &&
      !finishesHead input before.hub.waitingToSend)
  deviceData : after.deviceData = before.deviceData
  sensors : after.sensors = before.sensors
  resetDevice : before.resetDevice = true → after.resetDevice = true

omit [DoubleArith F] in
theorem doEvent_effect (input : DoWorkInput F) (board : Board F) :
    DoEventEffect input board (doEvent input board) := by
  cases queue : board.hub.waitingToSend with
  | nil =>
      have same : doEvent input board = board := by
        simp only [doEvent, queue]
      rw [same]
      constructor <;> simp [queue, finishesHead, remaining, confirmedNow]
      rw [← queue]
  | cons head rest =>
      cases sent : input.send with
      | retry =>
          have same : doEvent input board = board := by
            simp only [doEvent, queue, sent]
          rw [same]
          constructor <;>
            simp [queue, sent, finishesHead, remaining, confirmedNow]
          rw [← queue]
      | completed result =>
          have stepped : doEvent input board =
              onMessageSentCallback result input.holdPolls
                { board with hub := confirm result head rest board.hub } := by
            simp only [doEvent, queue, sent]
          rw [stepped]
          refine ⟨?_, ?_, ?_, ?_, fun pending => ?_⟩
          · rw [onMessageSentCallback_hub]
            by_cases isOk : result = .ok <;>
              simp [confirm, queue, sent, finishesHead, remaining,
                confirmedNow, isOk]
          · simp [queue, sent, finishesHead]
          · rw [onMessageSentCallback_deviceData]
          · rw [onMessageSentCallback_sensors]
          · exact resetDevice_of_onMessageSentCallback _ _ pending

theorem doWork_effect (toInt : Bytes → BitVec 32) (input : DoWorkInput F)
    (board : Board F) :
    DoWorkEffect input board (doWork toInt input board) := by
  have event := doEvent_effect input
    { board with
      hub := { board.hub with doWorkCalls := board.hub.doWorkCalls + 1 } }
  unfold doWork
  generalize doEvent input
    { board with
      hub := { board.hub with doWorkCalls := board.hub.doWorkCalls + 1 } } =
    evented at event
  cases handled : input.message with
  | none =>
      simp only [doMessages, handled]
      refine ⟨?_, ?_, ⟨[], ?_, ?_, ?_⟩, ?_, ?_, event.sensors, ?_⟩
      · rw [event.hub]
      · simpa [commandQueues, handled] using event.messagePending
      · simp [commandQueues, handled]
      · rw [event.hub, List.append_nil]
      · rw [event.hub, List.append_nil]
      · rw [event.hub]
      · simpa [commandData, handled] using event.deviceData
      · simpa [commandClears, handled] using event.resetDevice
  | some message =>
      simp only [doMessages, handled]
      have effect := receiveMessageCallback_effect toInt input.command
        message evented
      refine ⟨?_, ?_, ?_, ?_, ?_, ?_, ?_⟩
      · rw [effect.hub]
        split
        · rw [sendData_eq]
          simp only [event.hub]
          split <;> rfl
        · rw [event.hub]
      · rw [effect.messagePending, event.messagePending]
        simp [commandQueues, handled]
      · rw [effect.hub]
        by_cases asks : message.content = some sendDataBody
        · cases accepts : input.command.report.accepted
          · exact ⟨[], by simp [commandQueues, handled, asks, accepts],
              by simp [asks, sendData_eq, accepts, event.hub],
              by simp [asks, sendData_eq, accepts, event.hub]⟩
          · exact ⟨[reportMessage input.command.report evented],
              by simp [commandQueues, handled, asks, accepts],
              by simp [asks, sendData_eq, accepts, event.hub],
              by simp [asks, sendData_eq, accepts, event.hub]⟩
        · exact ⟨[], by simp [commandQueues, handled, asks],
            by simp [asks, event.hub], by simp [asks, event.hub]⟩
      · rw [effect.hub]
        split
        · rw [sendData_eq]
          simp only [event.hub]
          split <;> rfl
        · rw [event.hub]
      · rw [effect.deviceData, event.deviceData, event.sensors]
        simp only [commandData, handled, getDistance, event.deviceData]
      · rw [effect.sensors, event.sensors]
      · intro pending
        rw [effect.resetDevice]
        rcases Bool.or_eq_true_iff.mp pending with held | clears
        · rw [event.resetDevice held, Bool.true_or]
        · simp only [commandClears, handled] at clears
          rw [clears, Bool.or_true]

/-- With nothing to send and nothing received `DoWork` only counts. -/
theorem doWork_idle (toInt : Bytes → BitVec 32) {input : DoWorkInput F}
    {board : Board F} (empty : board.hub.waitingToSend = [])
    (silent : input.message = none) :
    doWork toInt input board =
      { board with
        hub :=
          { board.hub with doWorkCalls := board.hub.doWorkCalls + 1 } } := by
  simp only [doWork, doMessages, silent, doEvent, empty]

end FunnelDispenser.Device
