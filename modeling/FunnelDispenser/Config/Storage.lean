import FunnelDispenser.Config.Layout
import FunnelDispenser.Json.Parser

/-!
# Saving and loading the configuration

`saveConfig` prints `DeviceConfig` into `/config.json`, `loadConfig` parses
the file back.  Both work in a 400-byte pool.
-/

namespace FunnelDispenser.Config

open CMemory Json

/-- `DeviceConfig` together with the content of `/config.json`. -/
structure Storage where
  config : Memory
  configFile : Option Bytes

/-- What the file system does when the file is opened for writing and the
text is printed into it. -/
inductive WriteOutcome where
  | openFails
  | stopsAfter (count : Nat)
  | complete
deriving DecidableEq, Repr

/-- The pool of both functions, `StaticJsonBuffer<400>`. -/
def configPool : Nat := 400

def connectionStringKey : Bytes := bytesOf "CS"
def ssidNameKey : Bytes := bytesOf "SN"
def ssidPassKey : Bytes := bytesOf "SP"
def postAllInfoKey : Bytes := bytesOf "PAI"

/-- The assignments of `saveConfig` in their order. -/
def configMembers (config : Memory) : List (Bytes × JsonSource) :=
  [(connectionStringKey, .chars (fieldText config connectionStringAddress)),
    (ssidNameKey, .chars (fieldText config ssidNameAddress)),
    (ssidPassKey, .chars (fieldText config ssidPassAddress))] ++
  Interval.all.map (fun interval =>
    (interval.key, .value (.ofInt (loadWord config interval.address)))) ++
  [(postAllInfoKey, .value (.boolean (loadBool config postAllInfoAddress)))]

def configJson (config : Memory) : JsonObject :=
  let (buffer, json) := createObject (StaticJsonBuffer.empty configPool)
  (setMembers buffer json (configMembers config)).2

/-- The file is truncated by opening it; what reached it before the flash
was full stays.  The result of `printTo` is not looked at. -/
def saveConfig (outcome : WriteOutcome) (storage : Storage) :
    Storage × Bool :=
  let text := writeObject (configJson storage.config)
  match outcome with
  | .openFails => (storage, false)
  | .stopsAfter count =>
      ({ storage with configFile := some (text.take count) }, true)
  | .complete => ({ storage with configFile := some text }, true)

/-- What `loadConfig` sees beyond the file: the heap bytes behind its buffer,
and the number a union read as a float gives. -/
structure HeapView where
  tail : Bytes
  pointerRead : BitVec 32
deriving DecidableEq, Repr

/-- `fault` is a copy from the null pointer. -/
inductive LoadOutcome where
  | loaded (config : Memory)
  | failed
  | fault

def readFields (heap : HeapView) (json : JsonObject) (config : Memory) :
    LoadOutcome :=
  match json.getString connectionStringKey, json.getString ssidNameKey,
    json.getString ssidPassKey with
  | some connectionString, some ssidName, some ssidPass =>
      let texts := storeTexts config connectionString ssidName ssidPass
      let numbers := storeIntervals
        (fun interval => json.getInteger heap.pointerRead interval.key)
        texts Interval.all
      .loaded <| storeBool numbers postAllInfoAddress <|
        json.getBoolean heap.pointerRead postAllInfoKey
  | _, _, _ => .fault

def maximumConfigSize : Nat := 1024

def loadConfig (heap : HeapView) (storage : Storage) : LoadOutcome :=
  match storage.configFile with
  | none => .failed
  | some bytes =>
      if bytes.length > maximumConfigSize then
        .failed
      else
        match parseDocument configPool (bytes ++ heap.tail) with
        | .done json _ _ =>
            if json.success then
              readFields heap json storage.config
            else
              .failed
        | .invalid => .failed
        | .exhausted => .failed

theorem loadConfig_of_file (heap : HeapView) {storage : Storage}
    {bytes : Bytes} (file : storage.configFile = some bytes)
    (small : bytes.length ≤ maximumConfigSize) :
    loadConfig heap storage =
      match parseDocument configPool (bytes ++ heap.tail) with
      | .done json _ _ =>
          if json.success then
            readFields heap json storage.config
          else
            .failed
      | .invalid => .failed
      | .exhausted => .failed := by
  unfold loadConfig
  rw [file]
  exact if_neg (Nat.not_lt.mpr small)

theorem saveConfig_complete (storage : Storage) :
    saveConfig .complete storage =
      (⟨storage.config,
        some (writeObject (configJson storage.config))⟩, true) := by
  rfl

@[simp]
theorem saveConfig_config (outcome : WriteOutcome) (storage : Storage) :
    (saveConfig outcome storage).1.config = storage.config := by
  cases outcome <;> rfl

section Pool

variable {reach : Nat}

/-- A connection string may take the name along, but no more. -/
theorem Fields.lengths_lt (settings : Fields reach)
    (within : reach ≤ ssidPassAddress) :
    settings.connectionString.text.length < 244 ∧
      settings.ssidName.text.length < 64 ∧
      settings.ssidPass.text.length < 32 :=
  ⟨Nat.lt_of_lt_of_le settings.connectionString.fits within,
    settings.ssidName.fits, settings.ssidPass.fits⟩

/-- The pool bytes the three strings take, each aligned. -/
def Fields.textBytes (settings : Fields reach) : Nat :=
  roundSizeUp (settings.connectionString.text.length + 1) +
    roundSizeUp (settings.ssidName.text.length + 1) +
    roundSizeUp (settings.ssidPass.text.length + 1)

theorem Settings.textBytes_le (settings : Settings) :
    settings.textBytes ≤ 276 := by
  obtain ⟨connectionBound, nameBound, passBound⟩ := settings.lengths_lt
  simp only [Fields.textBytes, roundSizeUp]
  omega

def Fields.textMembers (settings : Fields reach) :
    List (Bytes × JsonVariant) :=
  [(connectionStringKey, .string settings.connectionString.text),
    (ssidNameKey, .string settings.ssidName.text),
    (ssidPassKey, .string settings.ssidPass.text)]

def Fields.valueMembers (settings : Fields reach) :
    List (Bytes × JsonVariant) :=
  Interval.all.map (fun interval =>
    (interval.key, .ofInt (settings.interval interval))) ++
  [(postAllInfoKey, .boolean settings.postAllInfo)]

/-- How many of the number members get a node behind the strings. -/
def Fields.storedValues (settings : Fields reach) : Nat :=
  (344 - settings.textBytes) / objectNodeSize

private theorem setMembers_append
    (buffer : StaticJsonBuffer) (object : JsonObject)
    (first second : List (Bytes × JsonSource)) :
    setMembers buffer object (first ++ second) =
      setMembers (setMembers buffer object first).1
        (setMembers buffer object first).2 second := by
  induction first generalizing buffer object with
  | nil => rfl
  | cons member rest inductionHypothesis =>
      simp only [List.cons_append, setMembers, inductionHypothesis]

/-- The assignments of `saveConfig` to a configuration with these values. -/
theorem configMembers_of_represents
    (within : reach ≤ ssidPassAddress)
    {config : Memory} {settings : Fields reach}
    (represents : Represents config settings) :
    configMembers config =
      [(connectionStringKey, .chars settings.connectionString.text),
        (ssidNameKey, .chars settings.ssidName.text),
        (ssidPassKey, .chars settings.ssidPass.text)] ++
      settings.valueMembers.map fun value =>
        (value.1, JsonSource.value value.2) := by
  simp only [configMembers,
    represents.connectionString_eq (Nat.le_trans within (by decide)),
    represents.ssidName_eq, represents.ssidPass_eq,
    represents.interval, represents.postAllInfo,
    Fields.valueMembers, List.map_append, List.map_map,
    List.map_cons, List.map_nil, List.append_assoc,
    Function.comp_def]

/-- The strings fit even when the connection string takes the name along. -/
theorem setMembers_texts (within : reach ≤ ssidPassAddress)
    (settings : Fields reach) :
    setMembers ⟨configPool, headerSize⟩ ⟨true, []⟩
        [(connectionStringKey, .chars settings.connectionString.text),
          (ssidNameKey, .chars settings.ssidName.text),
          (ssidPassKey, .chars settings.ssidPass.text)] =
      (⟨configPool, 56 +
          roundSizeUp (settings.connectionString.text.length + 1) +
          roundSizeUp (settings.ssidName.text.length + 1) +
          (settings.ssidPass.text.length + 1)⟩,
        ⟨true, settings.textMembers⟩) := by
  obtain ⟨connectionBound, nameBound, passBound⟩ :=
    settings.lengths_lt within
  rw [setMembers, setMember_chars _ (by simp) (by
    simp only [configPool, headerSize, objectNodeSize, roundSizeUp]
    omega)]
  simp only
  rw [setMembers, setMember_chars _ (by
    simp only [List.nil_append, List.map_cons, List.map_nil]
    decide) (by
    simp only [configPool, headerSize, objectNodeSize, roundSizeUp]
    omega)]
  simp only
  rw [setMembers, setMember_chars _ (by
    simp only [List.nil_append, List.cons_append, List.map_cons,
      List.map_nil]
    decide) (by
    simp only [configPool, headerSize, objectNodeSize, roundSizeUp]
    omega)]
  simp only [setMembers, Fields.textMembers, List.nil_append,
    List.cons_append, Prod.mk.injEq, and_true]
  simp only [configPool, headerSize, objectNodeSize, roundSizeUp,
    StaticJsonBuffer.mk.injEq, true_and]
  omega

theorem Fields.keys_nodup (settings : Fields reach) :
    ((settings.textMembers ++ settings.valueMembers).map
      Prod.fst).Nodup := by
  simp only [Fields.textMembers, Fields.valueMembers, Interval.all,
    List.map_cons, List.map_nil, List.cons_append, List.nil_append]
  decide

/-- Behind the strings there is room for exactly the first `storedValues`
numbers. -/
theorem configJson_of_represents
    (within : reach ≤ ssidPassAddress)
    {config : Memory} {settings : Fields reach}
    (represents : Represents config settings) :
    configJson config =
      ⟨true, settings.textMembers ++
        settings.valueMembers.take settings.storedValues⟩ := by
  have created :
      createObject (StaticJsonBuffer.empty configPool) =
        (⟨configPool, headerSize⟩, ⟨true, []⟩) := by decide
  have room :
      (configPool - roundSizeUp
          (56 + roundSizeUp (settings.connectionString.text.length + 1) +
            roundSizeUp (settings.ssidName.text.length + 1) +
            (settings.ssidPass.text.length + 1))) / objectNodeSize =
        settings.storedValues := by
    simp only [configPool, Fields.storedValues, Fields.textBytes,
      objectNodeSize, roundSizeUp]
    omega
  simp only [configJson, created]
  rw [configMembers_of_represents within represents, setMembers_append,
    setMembers_texts within settings]
  simp only
  rw [setMembers_values _ _ _ settings.keys_nodup]
  simp only [room]

end Pool

end FunnelDispenser.Config
