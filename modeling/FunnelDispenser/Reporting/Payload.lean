import FunnelDispenser.Device.Hub
import FunnelDispenser.Time.DateText

/-!
# The text of a state message

`ComposeDeviceStateMessage` assembles twelve members in a pool and prints
them into a buffer of the same size.  A member that finds no room in the pool
would be missing and a text that finds none in the buffer would be cut, both
without an error.
-/

namespace FunnelDispenser.Reporting

open CMemory Decimal Json Device Time

def messageMaxLen : Nat := 512

/-- `writeFloat`, of which nothing is used but the length of its longest
output, a sign with seven digits, a point and a signed exponent. -/
structure FloatPrinter (F : Type) where
  print : F → Bytes
  length_print_le : ∀ value, (print value).length ≤ 13

section Payload

variable {F : Type} (printer : FloatPrinter F)

/-- The assignments of `ComposeDeviceStateMessage` in their order. -/
def messageSources (message : DeviceStateMessage F) :
    List (Bytes × JsonSource) :=
  [(bytesOf "MessageType", .chars message.messageType),
    (bytesOf "ReadDateTime", .chars message.readDateTime),
    (bytesOf "Distance", .value (.float (printer.print message.distance))),
    (bytesOf "Temperature",
      .value (.float (printer.print message.temperature))),
    (bytesOf "Humidity", .value (.float (printer.print message.humidity))),
    (bytesOf "BatteryPercentage",
      .value (.ofInt message.batteryPercentage)),
    (bytesOf "BatteryState", .value (.ofInt message.batteryState)),
    (bytesOf "MotionCount", .value (.ofInt message.motionCount)),
    (bytesOf "SwitchCount", .value (.ofInt message.switchCount)),
    (bytesOf "NumberOfErrors",
      .value (.ofInt (BitVec.ofNat 32 message.numberOfErrors))),
    (bytesOf "LastError", .chars message.lastError),
    (bytesOf "Notes", .chars message.notes)]

def messageJson (message : DeviceStateMessage F) : JsonObject :=
  let (jsonBuffer, root) := createObject (StaticJsonBuffer.empty messageMaxLen)
  (setMembers jsonBuffer root (messageSources printer message)).2

/-- The bytes of `payload` up to the terminator. -/
def messagePayload (message : DeviceStateMessage F) : Bytes :=
  printTo messageMaxLen (messageJson printer message)

def messageMembers (message : DeviceStateMessage F) :
    List (Bytes × JsonVariant) :=
  (messageSources printer message).map fun source =>
    (source.1, source.2.stored)

private def messageKeys : List String :=
  ["MessageType", "ReadDateTime", "Distance", "Temperature", "Humidity",
    "BatteryPercentage", "BatteryState", "MotionCount", "SwitchCount",
    "NumberOfErrors", "LastError", "Notes"]

private theorem messageKeys_plain :
    ∀ key ∈ messageKeys.map bytesOf, Plain key := by
  have letters :
      messageKeys.all (fun key => key.toList.all printable) = true := by
    decide
  intro key member
  obtain ⟨literal, listed, rfl⟩ := List.mem_map.mp member
  exact plain_bytesOf (List.all_eq_true.mp letters literal listed)

private theorem messageKeys_length :
    ((messageKeys.map bytesOf).map List.length).sum = 129 := by
  have letters :
      (messageKeys.map fun key => key.toList.length).sum = 129 := by
    decide
  have lengths : (messageKeys.map bytesOf).map List.length =
      messageKeys.map fun key => key.toList.length := by
    rw [List.map_map]
    exact List.map_congr_left fun key _ => List.length_map _
  rw [lengths, letters]

private theorem separators_plain :
    Plain (bytesOf "-") ∧ Plain (bytesOf " ") ∧ Plain (bytesOf ":") :=
  ⟨plain_bytesOf (by decide), plain_bytesOf (by decide),
    plain_bytesOf (by decide)⟩

private theorem deviceState_plain : Plain (bytesOf "DeviceState") :=
  plain_bytesOf (by decide)

/-- The longest texts of a report; none of them needs an escape. -/
structure ShortTexts (message : DeviceStateMessage F) : Prop where
  messageType : message.messageType = bytesOf "DeviceState"
  readDateTime : message.readDateTime.length ≤ 24
  readDateTime_plain : Plain message.readDateTime
  lastError : message.lastError.length ≤ 71
  lastError_plain : Plain message.lastError
  notes : message.notes.length ≤ 11
  notes_plain : Plain message.notes

variable {printer}

/-- Nodes for all members, and room for the four texts behind them. -/
private theorem poolBytes_le
    {message : DeviceStateMessage F} (short : ShortTexts message) :
    roundSizeUp headerSize +
        ((messageSources printer message).map fun source =>
          source.2.poolBytes).sum ≤ messageMaxLen := by
  have chars : ∀ {text : Bytes} {words : Nat}, text.length < 4 * words →
      (JsonSource.chars text).poolBytes ≤ 16 + 4 * words := by
    intro text words length
    simp only [JsonSource.poolBytes, objectNodeSize, roundSizeUp]
    omega
  have value : ∀ variant : JsonVariant,
      (JsonSource.value variant).poolBytes ≤ 16 := fun _ => Nat.le_refl _
  have type : (bytesOf "DeviceState").length < 4 * 3 := by decide
  rw [← short.messageType] at type
  have bounds : List.Forall₂ (· ≤ ·)
      ((messageSources printer message).map fun source =>
        source.2.poolBytes)
      [16 + 4 * 3, 16 + 4 * 7, 16, 16, 16, 16, 16, 16, 16, 16,
        16 + 4 * 18, 16 + 4 * 3] :=
    .cons (chars type) <|
    .cons (chars (Nat.lt_of_le_of_lt short.readDateTime (by omega))) <|
    .cons (value _) <| .cons (value _) <| .cons (value _) <|
    .cons (value _) <| .cons (value _) <| .cons (value _) <|
    .cons (value _) <| .cons (value _) <|
    .cons (chars (Nat.lt_succ_of_le short.lastError)) <|
    .cons (chars (Nat.lt_succ_of_le short.notes)) .nil
  exact Nat.le_trans
    (Nat.add_le_add_left bounds.sum_le_sum (roundSizeUp headerSize))
    (by decide)

theorem messageJson_of_shortTexts
    {message : DeviceStateMessage F} (short : ShortTexts message) :
    messageJson printer message =
      ⟨true, messageMembers printer message⟩ := by
  have created :
      createObject (StaticJsonBuffer.empty messageMaxLen) =
        (⟨messageMaxLen, headerSize⟩, ⟨true, []⟩) := by decide
  have distinct :
      (([] : List (Bytes × JsonVariant)).map Prod.fst ++
        (messageSources printer message).map Prod.fst).Nodup := by
    simp only [messageSources, List.map_cons, List.map_nil,
      List.nil_append]
    decide
  have stored : (setMembers ⟨messageMaxLen, headerSize⟩ ⟨true, []⟩
        (messageSources printer message)).2 =
      ⟨true, [] ++ messageMembers printer message⟩ :=
    setMembers_fits (messageSources printer message) distinct
      (poolBytes_le short)
  simp only [messageJson, created]
  exact stored

/-- The longest values: the texts take their quotes, a float 13 bytes and an
integer 11. -/
private theorem length_values_le
    {message : DeviceStateMessage F} (short : ShortTexts message) :
    ((messageMembers printer message).map fun member =>
      (writeVariant member.2).length).sum ≤ 219 := by
  have quoted : ∀ {text : Bytes} {bound : Nat}, Plain text →
      text.length ≤ bound →
        (writeVariant (.string text)).length ≤ bound + 2 := by
    intro text bound plain length
    rw [writeVariant_string, length_writeString_of_plain plain]
    omega
  have type : (bytesOf "DeviceState").length ≤ 11 := by decide
  rw [← short.messageType] at type
  have typePlain : Plain message.messageType := by
    rw [short.messageType]
    exact deviceState_plain
  have bounds : List.Forall₂ (· ≤ ·)
      ((messageMembers printer message).map fun member =>
        (writeVariant member.2).length)
      [13, 26, 13, 13, 13, 11, 11, 11, 11, 11, 73, 13] :=
    .cons (quoted typePlain type) <|
    .cons (quoted short.readDateTime_plain short.readDateTime) <|
    .cons (printer.length_print_le _) <|
    .cons (printer.length_print_le _) <|
    .cons (printer.length_print_le _) <|
    .cons (length_writeVariant_ofInt_le _) <|
    .cons (length_writeVariant_ofInt_le _) <|
    .cons (length_writeVariant_ofInt_le _) <|
    .cons (length_writeVariant_ofInt_le _) <|
    .cons (length_writeVariant_ofInt_le _) <|
    .cons (quoted short.lastError_plain short.lastError) <|
    .cons (quoted short.notes_plain short.notes) .nil
  exact Nat.le_trans bounds.sum_le_sum (by decide)

theorem length_writeObject_le
    {message : DeviceStateMessage F} (short : ShortTexts message) :
    (writeObject ⟨true, messageMembers printer message⟩).length ≤ 397 := by
  have keys :
      (messageMembers printer message).map Prod.fst =
        messageKeys.map bytesOf := rfl
  have plainKeys : ∀ member ∈ messageMembers printer message,
      Plain member.1 := by
    intro member inMembers
    apply messageKeys_plain
    rw [← keys]
    exact List.mem_map_of_mem inMembers
  have keyLengths : ((messageMembers printer message).map fun member =>
      member.1.length).sum = 129 := by
    rw [← messageKeys_length, ← keys, List.map_map]
    rfl
  have nonempty : messageMembers printer message ≠ [] :=
    List.cons_ne_nil _ _
  have count : (messageMembers printer message).length = 12 := rfl
  have values : ((messageMembers printer message).map fun member =>
      (writeVariant member.2).length).sum ≤ 219 :=
    length_values_le short
  rw [writeObject, List.length_cons,
    length_writeMembers_of_plain nonempty plainKeys, keyLengths, count]
  omega

end Payload

inductive Sensor where
  | distance
  | environment
  | battery
deriving DecidableEq, Repr

namespace Sensor

def answers (sensors : SensorFlags) : Sensor → Bool
  | .distance => sensors.distanceSensor
  | .environment => sensors.environmentSensor
  | .battery => sensors.batterySensor

def failure : Sensor → Bytes
  | .distance => bytesOf "Distance sensor failed"
  | .environment => bytesOf "Environment sensor failed"
  | .battery => bytesOf "Battery sensor failed"

end Sensor

/-- The sensors that did not answer during `setup()`, in the order of the
report. -/
def failedSensors (sensors : SensorFlags) : List Sensor :=
  [Sensor.distance, Sensor.environment, Sensor.battery].filter fun sensor =>
    !sensor.answers sensors

theorem sensorErrors_eq (sensors : SensorFlags) :
    sensorErrors sensors =
      ⟨(failedSensors sensors).length,
        List.intercalate (bytesOf ";")
          ((failedSensors sensors).map Sensor.failure)⟩ := by
  rcases sensors with ⟨_ | _, _ | _, _ | _⟩ <;> decide

theorem length_add_le (error : Bytes) (errors : SensorErrors) :
    (errors.add error).text.length ≤
      errors.text.length + 1 + error.length := by
  have separator : (bytesOf ";").length = 1 := by decide
  unfold SensorErrors.add
  split
  · simp only
    omega
  · simp only [List.length_append, separator]
    omega

theorem plain_add {error : Bytes} {errors : SensorErrors}
    (earlier : Plain errors.text) (added : Plain error) :
    Plain (errors.add error).text := by
  unfold SensorErrors.add
  split
  · exact added
  · exact (plain_append_iff _ _).mpr ⟨(plain_append_iff _ _).mpr
      ⟨earlier, plain_bytesOf (by decide)⟩, added⟩

private theorem plain_addUnless (answers : Bool) {error : Bytes}
    {errors : SensorErrors} (earlier : Plain errors.text)
    (added : Plain error) :
    Plain (if answers then errors else errors.add error).text := by
  cases answers
  · exact plain_add earlier added
  · exact earlier

theorem plain_sensorErrors (sensors : SensorFlags) :
    Plain (sensorErrors sensors).text := by
  have none : Plain (SensorErrors.mk 0 []).text := by simp [Plain]
  exact plain_addUnless _ (plain_addUnless _ (plain_addUnless _ none
    (plain_bytesOf (by decide))) (plain_bytesOf (by decide)))
    (plain_bytesOf (by decide))

private theorem length_addUnless_le (answers : Bool) (error : Bytes)
    {errors : SensorErrors} {bound : Nat}
    (earlier : errors.text.length ≤ bound) :
    (if answers then errors else errors.add error).text.length ≤
      bound + 1 + error.length := by
  cases answers
  · have added := length_add_le error errors
    simp only [Bool.false_eq_true, if_false]
    omega
  · simp only [if_true]
    omega

theorem length_sensorErrors_le (sensors : SensorFlags) :
    (sensorErrors sensors).text.length ≤ 71 := by
  have distance : (bytesOf "Distance sensor failed").length = 22 := by
    decide
  have environment : (bytesOf "Environment sensor failed").length = 25 := by
    decide
  have battery : (bytesOf "Battery sensor failed").length = 21 := by
    decide
  have none : (SensorErrors.mk 0 []).text.length ≤ 0 := Nat.le_refl 0
  have text := length_addUnless_le sensors.batterySensor
    (bytesOf "Battery sensor failed")
    (length_addUnless_le sensors.environmentSensor
      (bytesOf "Environment sensor failed")
      (length_addUnless_le sensors.distanceSensor
        (bytesOf "Distance sensor failed") none))
  rw [distance, environment, battery] at text
  exact text

theorem plain_itoa (value : BitVec 32) : Plain (itoa value) := by
  unfold itoa
  split
  · exact plain_printNat _
  · exact (plain_append_iff (bytesOf "-") _).mpr
      ⟨separators_plain.1, plain_printNat _⟩

theorem length_itoa_le (value : BitVec 32) : (itoa value).length ≤ 11 := by
  unfold itoa
  split
  · have digits := length_printNat_le value.isLt
    omega
  · have digits := length_printNat_le (-value).isLt
    rw [List.length_cons]
    omega

theorem plain_dateTimeText (cache : TimeCache) (reads : ClockReads) :
    Plain (dateTimeText cache reads) := by
  obtain ⟨dash, blank, colon⟩ := separators_plain
  simp only [dateTimeText, plain_append_iff, plain_printNat, dash, blank,
    colon, and_self]

section Report

variable {F : Type} [DoubleArith F]

theorem shortTexts_reportMessage (cache : TimeCache)
    (reads : ClockReads) (input : ReportInput F) (board : Board F) :
    ShortTexts
      (reportMessage
        { input with readDateTime := dateTimeText cache reads } board) where
  messageType := rfl
  readDateTime := length_dateTimeText_le cache reads
  readDateTime_plain := plain_dateTimeText cache reads
  lastError := length_sensorErrors_le board.sensors
  lastError_plain := plain_sensorErrors board.sensors
  notes := length_itoa_le input.freeHeap
  notes_plain := plain_itoa input.freeHeap

end Report

def signedText (value : BitVec 32) : Bytes :=
  if value.toInt < 0 then bytesOf "-" ++ printNat value.toInt.natAbs
  else printNat value.toInt.natAbs

def quotedText (text : Bytes) : Bytes :=
  bytesOf "\"" ++ text ++ bytesOf "\""

/-- The failed sensors in their order, separated by semicolons. -/
def errorsText (failed : List Sensor) : Bytes :=
  List.intercalate (bytesOf ";") (failed.map Sensor.failure)

section Text

variable {F : Type} (printer : FloatPrinter F)

/-- What is reported, as the pool has to hold it. -/
def reportMembers (dateTime : Bytes) (failed : List Sensor)
    (freeHeap : BitVec 32) (data : DataDevice F) :
    List (Bytes × JsonVariant) :=
  [(bytesOf "MessageType", .string (bytesOf "DeviceState")),
    (bytesOf "ReadDateTime", .string dateTime),
    (bytesOf "Distance", .float (printer.print data.distance)),
    (bytesOf "Temperature", .float (printer.print data.temperature)),
    (bytesOf "Humidity", .float (printer.print data.humidity)),
    (bytesOf "BatteryPercentage", .ofInt data.batteryPercentage),
    (bytesOf "BatteryState", .ofInt data.batteryState),
    (bytesOf "MotionCount", .ofInt data.motionCount),
    (bytesOf "SwitchCount", .ofInt data.switchCount),
    (bytesOf "NumberOfErrors", .ofInt (BitVec.ofNat 32 failed.length)),
    (bytesOf "LastError", .string (errorsText failed)),
    (bytesOf "Notes", .string (signedText freeHeap))]

/-- The same as it has to be printed. -/
def reportText (dateTime : Bytes) (failed : List Sensor)
    (freeHeap : BitVec 32) (data : DataDevice F) : Bytes :=
  let members :=
    [("MessageType", quotedText (bytesOf "DeviceState")),
      ("ReadDateTime", quotedText dateTime),
      ("Distance", printer.print data.distance),
      ("Temperature", printer.print data.temperature),
      ("Humidity", printer.print data.humidity),
      ("BatteryPercentage", signedText data.batteryPercentage),
      ("BatteryState", signedText data.batteryState),
      ("MotionCount", signedText data.motionCount),
      ("SwitchCount", signedText data.switchCount),
      ("NumberOfErrors", printNat failed.length),
      ("LastError", quotedText (errorsText failed)),
      ("Notes", quotedText (signedText freeHeap))]
  bytesOf "\x7b" ++
    List.intercalate (bytesOf ",") (members.map fun member =>
      quotedText (bytesOf member.1) ++ bytesOf ":" ++ member.2) ++
    bytesOf "\x7d"

theorem toNat_of_sign (value : BitVec 32) :
    (0 ≤ value.toInt → value.toNat = value.toInt.natAbs) ∧
      (value.toInt < 0 → (-value).toNat = value.toInt.natAbs) := by
  have bound := value.isLt
  have signed := BitVec.toInt_eq_toNat_cond value
  rw [BitVec.toNat_neg]
  split at signed
  · omega
  · omega

theorem itoa_eq (value : BitVec 32) : itoa value = signedText value := by
  obtain ⟨positive, negative⟩ := toNat_of_sign value
  have minus : bytesOf "-" = [45] := by decide
  rw [itoa, signedText]
  by_cases sign : 0 ≤ value.toInt
  · rw [if_pos sign, if_neg (by omega), positive sign]
  · rw [if_neg sign, if_pos (by omega), negative (by omega), minus]
    rfl

theorem writeVariant_ofInt (value : BitVec 32) :
    writeVariant (.ofInt value) = signedText value := by
  rw [← itoa_eq]
  unfold JsonVariant.ofInt itoa
  split
  · rfl
  · rfl

theorem length_failedSensors_le (sensors : SensorFlags) :
    (failedSensors sensors).length ≤ 3 :=
  List.length_filter_le _ _

theorem signedText_ofNat {count : Nat} (small : count < 2 ^ 31) :
    signedText (BitVec.ofNat 32 count) = printNat count := by
  have value : (BitVec.ofNat 32 count).toInt = count := by
    rw [BitVec.toInt_eq_toNat_cond, BitVec.toNat_ofNat]
    omega
  rw [signedText, value, if_neg (by omega), Int.natAbs_natCast]

theorem writeObject_reportMembers {dateTime : Bytes} (plain : Plain dateTime)
    (sensors : SensorFlags) (freeHeap : BitVec 32) (data : DataDevice F) :
    writeObject
        ⟨true, reportMembers printer dateTime (failedSensors sensors) freeHeap
          data⟩ =
      reportText printer dateTime (failedSensors sensors) freeHeap data := by
  have quote : bytesOf "\"" = [quoteByte] := by decide
  have quoted : ∀ {text : Bytes}, Plain text →
      writeString text = quotedText text := by
    intro text plain
    rw [writeString_of_plain plain, quotedText, quote]
    rfl
  have keys := messageKeys_plain
  simp only [messageKeys, List.map_cons, List.map_nil, List.forall_mem_cons,
    List.not_mem_nil, false_implies, implies_true, and_true] at keys
  obtain ⟨messageType, readDateTime, distance, temperature, humidity,
    batteryPercentage, batteryState, motionCount, switchCount,
    numberOfErrors, lastError, notes⟩ := keys
  have errors : Plain (errorsText (failedSensors sensors)) := by
    have text := plain_sensorErrors sensors
    rwa [sensorErrors_eq] at text
  have heap : Plain (signedText freeHeap) := itoa_eq freeHeap ▸
    plain_itoa freeHeap
  have count := signedText_ofNat
    (Nat.lt_of_le_of_lt (length_failedSensors_le sensors)
      (by decide : 3 < 2 ^ 31))
  have opening : bytesOf "\x7b" = [openBraceByte] := by decide
  have closing : bytesOf "\x7d" = [closeBraceByte] := by decide
  have comma : bytesOf "," = [commaByte] := by decide
  have colon : bytesOf ":" = [colonByte] := by decide
  have nonempty : reportMembers printer dateTime (failedSensors sensors)
      freeHeap data ≠ [] := List.cons_ne_nil _ _
  rw [writeObject, writeMembers_eq nonempty, reportText, opening, closing,
    comma, colon]
  simp only [reportMembers, List.map_cons, List.map_nil, writeMember,
    writeVariant_string, writeVariant_float, writeVariant_ofInt, count,
    quoted messageType, quoted readDateTime, quoted distance,
    quoted temperature, quoted humidity, quoted batteryPercentage,
    quoted batteryState, quoted motionCount, quoted switchCount,
    quoted numberOfErrors, quoted lastError, quoted notes, quoted plain,
    quoted errors, quoted heap, quoted deviceState_plain]
  simp only [List.append_assoc, List.cons_append, List.nil_append]

variable [DoubleArith F]

theorem messageMembers_reportMessage (input : ReportInput F)
    (board : Board F) :
    messageMembers printer (reportMessage input board) =
      reportMembers printer input.readDateTime (failedSensors board.sensors)
        input.freeHeap (takeReadings input.readings board).deviceData := by
  rw [reportMembers, ← itoa_eq]
  simp only [reportMessage, sensorErrors_eq]
  rfl

/-- Whatever the readings, the failed sensors, the clock and the free heap
are, a report carries all its members, its text is printed in full, and its
errors are those of the failed sensors. -/
theorem messagePayload_complete (cache : TimeCache) (reads : ClockReads)
    (input : ReportInput F) (board : Board F) :
    let dateTime := dateTimeText cache reads
    let failed := failedSensors board.sensors
    let data := (takeReadings input.readings board).deviceData
    let message := reportMessage { input with readDateTime := dateTime } board
    messageJson printer message =
        ⟨true, reportMembers printer dateTime failed input.freeHeap data⟩ ∧
      messagePayload printer message =
        reportText printer dateTime failed input.freeHeap data ++ [0] ∧
      (messagePayload printer message).length ≤ messageMaxLen ∧
      message.numberOfErrors = failed.length ∧
      message.lastError = errorsText failed := by
  intro dateTime failed data message
  have short : ShortTexts message :=
    shortTexts_reportMessage cache reads input board
  have members : messageMembers printer message =
      reportMembers printer dateTime failed input.freeHeap data :=
    messageMembers_reportMessage printer
      { input with readDateTime := dateTime } board
  have stored : messageJson printer message =
      ⟨true, messageMembers printer message⟩ :=
    messageJson_of_shortTexts short
  have length :
      (writeObject ⟨true, messageMembers printer message⟩).length ≤ 397 :=
    length_writeObject_le short
  have text := writeObject_reportMembers printer
    (plain_dateTimeText cache reads) board.sensors input.freeHeap data
  rw [members] at stored length
  have printed : messagePayload printer message =
      reportText printer dateTime failed input.freeHeap data ++ [0] := by
    rw [messagePayload, stored, printTo_of_fits
      (Nat.le_trans (Nat.succ_le_succ length) (by decide)), text]
  refine ⟨stored, printed, ?_, ?_, ?_⟩
  · rw [printed, ← text, List.length_append]
    exact Nat.le_trans (Nat.succ_le_succ length) (by decide)
  · exact congrArg SensorErrors.count (sensorErrors_eq board.sensors)
  · exact congrArg SensorErrors.text (sensorErrors_eq board.sensors)

end Text

end FunnelDispenser.Reporting
