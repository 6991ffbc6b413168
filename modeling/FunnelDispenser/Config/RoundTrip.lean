import FunnelDispenser.Config.Storage
import FunnelDispenser.Json.RoundTrip

/-!
# What a saved configuration loads as

Saving and loading is a function on settings: `Settings.kept` says which
fields the 400-byte pool has room for.  The strings always survive; the last
two numbers are lost behind long strings.
-/

namespace FunnelDispenser.Config

open CMemory Json

/-- The settings that come back.  `AllStateInt` needs the strings to leave
80 bytes of the pool, `PostAllInfo` 96. -/
def Settings.kept (settings : Settings) : Settings :=
  { settings with
    interval := fun interval =>
      if interval = .allStateInt ∧ 264 < settings.textBytes then 0
      else settings.interval interval
    postAllInfo := settings.postAllInfo && settings.textBytes ≤ 248 }

theorem Settings.kept_eq_self {settings : Settings}
    (short : settings.textBytes ≤ 248) :
    settings.kept = settings := by
  have room : ¬ 264 < settings.textBytes := by omega
  simp only [Settings.kept, room, and_false, if_false, short, decide_true,
    Bool.and_true]

section Members

variable {reach : Nat}

def savedMembers (settings : Fields reach) :
    List (Bytes × JsonVariant) :=
  settings.textMembers ++ settings.valueMembers.take settings.storedValues

def parsedMembers (settings : Fields reach) :
    List (Bytes × JsonVariant) :=
  (savedMembers settings).map fun member =>
    (member.1, parsedForm member.2)

private theorem savedMembers_sublist (settings : Fields reach) :
    (savedMembers settings).Sublist
      (settings.textMembers ++ settings.valueMembers) :=
  List.Sublist.append_left (List.take_sublist _ _) _

private theorem savedMembers_distinct (settings : Fields reach) :
    ((savedMembers settings).map Prod.fst).Nodup :=
  settings.keys_nodup.sublist
    ((savedMembers_sublist settings).map _)

private theorem parsedMembers_distinct (settings : Fields reach) :
    ((parsedMembers settings).map Prod.fst).Nodup := by
  simpa only [parsedMembers, List.map_map, Function.comp_def] using
    savedMembers_distinct settings

private theorem savedMembers_cases
    {settings : Fields reach} {member : Bytes × JsonVariant}
    (saved : member ∈ savedMembers settings) :
    member ∈ settings.textMembers ∨ member ∈ settings.valueMembers :=
  List.mem_append.mp ((savedMembers_sublist settings).subset saved)

private theorem mem_valueMembers
    {settings : Fields reach} {member : Bytes × JsonVariant}
    (listed : member ∈ settings.valueMembers) :
    (∃ interval : Interval,
        member = (interval.key, .ofInt (settings.interval interval))) ∨
      member = (postAllInfoKey, .boolean settings.postAllInfo) := by
  simp only [Fields.valueMembers, List.mem_append, List.mem_map,
    List.mem_singleton] at listed
  rcases listed with ⟨interval, _, rfl⟩ | rfl
  · exact Or.inl ⟨interval, rfl⟩
  · exact Or.inr rfl

private theorem ofInt_cases (value : BitVec 32) :
    ∃ magnitude, magnitude < 2 ^ 32 ∧
      (JsonVariant.ofInt value = .positiveInteger magnitude ∨
        JsonVariant.ofInt value = .negativeInteger magnitude) := by
  unfold JsonVariant.ofInt
  split
  · exact ⟨value.toNat, value.isLt, Or.inl rfl⟩
  · exact ⟨(-value).toNat, (-value).isLt, Or.inr rfl⟩

private theorem savedMembers_tokens (settings : Fields reach) :
    ∀ member ∈ savedMembers settings, IsToken member.2 := by
  intro member saved
  rcases savedMembers_cases saved with text | value
  · simp only [Fields.textMembers, List.mem_cons, List.not_mem_nil,
      or_false] at text
    rcases text with rfl | rfl | rfl
    · exact settings.connectionString.nonzero
    · exact settings.ssidName.nonzero
    · exact settings.ssidPass.nonzero
  · rcases mem_valueMembers value with ⟨interval, rfl⟩ | rfl
    · obtain ⟨magnitude, _, positive | negative⟩ :=
        ofInt_cases (settings.interval interval)
      · simp only [positive, IsToken]
      · simp only [negative, IsToken]
    · trivial

private theorem savedMembers_keys (settings : Fields reach) :
    ∀ member ∈ savedMembers settings, ∀ byte ∈ member.1, byte ≠ 0 := by
  intro member saved
  rcases savedMembers_cases saved with text | value
  · simp only [Fields.textMembers, List.mem_cons, List.not_mem_nil,
      or_false] at text
    rcases text with rfl | rfl | rfl <;> exact nonzero_of_all rfl
  · rcases mem_valueMembers value with ⟨interval, rfl⟩ | rfl
    · cases interval <;> exact nonzero_of_all rfl
    · exact nonzero_of_all rfl

private theorem savedMembers_length_le (settings : Fields reach) :
    (savedMembers settings).length ≤ 9 := by
  have bound := (savedMembers_sublist settings).length_le
  simpa [Fields.textMembers, Fields.valueMembers, Interval.all]
    using bound

private def memberBound (member : Bytes × JsonVariant) : Nat :=
  2 * member.1.length + 4 + printedBound member.2

private theorem printedBound_ofInt (value : BitVec 32) :
    printedBound (.ofInt value) = 11 := by
  obtain ⟨magnitude, _, positive | negative⟩ := ofInt_cases value
  · simp only [positive, printedBound]
  · simp only [negative, printedBound]

theorem length_writeObject_saved_le (within : reach ≤ ssidPassAddress)
    (settings : Fields reach) :
    (writeObject ⟨true, settings.textMembers ++
        settings.valueMembers.take settings.storedValues⟩).length ≤
      maximumConfigSize := by
  obtain ⟨connectionBound, nameBound, passBound⟩ :=
    settings.lengths_lt within
  have printed :
      (writeMembers (savedMembers settings)).length ≤
        1 + ((savedMembers settings).map memberBound).sum := by
    apply length_writeMembers_le
    intro member saved magnitude shape
    rcases savedMembers_cases saved with text | value
    · simp only [Fields.textMembers, List.mem_cons, List.not_mem_nil,
        or_false] at text
      rcases text with rfl | rfl | rfl <;> simp at shape
    · rcases mem_valueMembers value with ⟨interval, rfl⟩ | rfl
      · obtain ⟨known, bound, positive | negative⟩ :=
          ofInt_cases (settings.interval interval)
        · rcases shape with shape | shape <;>
            simp_all
        · rcases shape with shape | shape <;>
            simp_all
      · simp at shape
  have whole :
      ((savedMembers settings).map memberBound).sum ≤
        ((settings.textMembers ++ settings.valueMembers).map
          memberBound).sum :=
    List.Sublist.sum_le_sum ((savedMembers_sublist settings).map _)
      (by simp)
  have total :
      ((settings.textMembers ++ settings.valueMembers).map
          memberBound).sum =
        2 * settings.connectionString.text.length +
          2 * settings.ssidName.text.length +
          2 * settings.ssidPass.text.length + 156 := by
    simp only [Fields.textMembers, Fields.valueMembers, Interval.all,
      memberBound, List.map_cons, List.map_nil, List.cons_append,
      List.nil_append, List.sum_cons, List.sum_nil, printedBound_ofInt]
    simp only [printedBound, connectionStringKey, ssidNameKey,
      ssidPassKey, postAllInfoKey, Interval.key, bytesOf]
    simp
    omega
  change (writeMembers (savedMembers settings)).length + 1 ≤ 1024
  omega

private theorem find_text
    {settings : Fields reach} {key : Bytes} (text : Bytes)
    (listed : (key, JsonVariant.string text) ∈ settings.textMembers) :
    JsonObject.find ⟨true, parsedMembers settings⟩ key =
      some (.string text) := by
  apply find_of_mem (parsedMembers_distinct settings)
  exact List.mem_map.mpr
    ⟨_, List.mem_append_left _ listed, rfl⟩

private theorem find_value
    {settings : Fields reach} (key : Bytes) (variant : JsonVariant)
    {count : Nat} (enough : count ≤ settings.storedValues)
    (listed : (key, variant) ∈ settings.valueMembers.take count) :
    JsonObject.find ⟨true, parsedMembers settings⟩ key =
      some (parsedForm variant) := by
  apply find_of_mem (parsedMembers_distinct settings)
  exact List.mem_map.mpr
    ⟨_, List.mem_append_right _
      ((List.take_prefix_take_left enough).subset listed), rfl⟩

/-- A key whose member found no room is not there. -/
private theorem find_dropped
    {settings : Fields reach} (key : Bytes) (variant : JsonVariant)
    {count : Nat} (short : settings.storedValues ≤ count)
    (listed : (key, variant) ∈ settings.valueMembers.drop count) :
    JsonObject.find ⟨true, parsedMembers settings⟩ key = none := by
  rw [find_eq_none_iff]
  intro present
  simp only [parsedMembers, savedMembers, List.map_map, List.mem_map,
    Function.comp_apply] at present
  obtain ⟨member, saved, sameKey⟩ := present
  have whole := settings.keys_nodup
  rw [← List.take_append_drop settings.storedValues settings.valueMembers,
    ← List.append_assoc, List.map_append] at whole
  have later : (key, variant) ∈
      settings.valueMembers.drop settings.storedValues :=
    (List.drop_suffix_drop_left _ short).subset listed
  exact (List.nodup_append.mp whole).2.2 key
    (List.mem_map.mpr ⟨member, saved, sameKey⟩) key
    (List.mem_map.mpr ⟨_, later, rfl⟩) rfl

/-- Loading a saved configuration copies the strings back; the numbers are
what the parsed members give. -/
theorem loadConfig_savedFields (within : reach ≤ ssidPassAddress)
    {config : Memory} {settings : Fields reach}
    (represents : Represents config settings)
    (heap : HeapView) (target : Memory) :
    loadConfig heap ⟨target, some (writeObject (configJson config))⟩ =
      .loaded (storeNumbers
        (fun interval =>
          JsonObject.getInteger ⟨true, parsedMembers settings⟩
            heap.pointerRead interval.key)
        (JsonObject.getBoolean ⟨true, parsedMembers settings⟩
          heap.pointerRead postAllInfoKey)
        (storeTexts target settings.connectionString.text
          settings.ssidName.text settings.ssidPass.text)) := by
  have size := length_writeObject_saved_le within settings
  obtain ⟨buffer, parsed⟩ := parseDocument_writeObject configPool
    (savedMembers settings) heap.tail (savedMembers_distinct settings)
    (savedMembers_keys settings) (savedMembers_tokens settings) (by
      have count := savedMembers_length_le settings
      simp only [headerSize, objectNodeSize, configPool]
      omega)
  have connectionString :
      JsonObject.getString ⟨true, parsedMembers settings⟩
          connectionStringKey =
        some settings.connectionString.text := by
    rw [JsonObject.getString, find_text _ (List.mem_cons_self ..)]
    rfl
  have ssidName :
      JsonObject.getString ⟨true, parsedMembers settings⟩ ssidNameKey =
        some settings.ssidName.text := by
    rw [JsonObject.getString,
      find_text settings.ssidName.text (by simp [Fields.textMembers])]
    rfl
  have ssidPass :
      JsonObject.getString ⟨true, parsedMembers settings⟩ ssidPassKey =
        some settings.ssidPass.text := by
    rw [JsonObject.getString,
      find_text settings.ssidPass.text (by simp [Fields.textMembers])]
    rfl
  rw [configJson_of_represents within represents]
  have file :
      (Storage.mk target
          (some (writeObject ⟨true, savedMembers settings⟩))).configFile =
        some (writeObject ⟨true, savedMembers settings⟩) := rfl
  have loads := loadConfig_of_file heap file size
  rw [parsed] at loads
  refine loads.trans ?_
  simp only [JsonObject.success, if_true]
  change readFields heap ⟨true, parsedMembers settings⟩ target = _
  simp only [readFields, connectionString, ssidName, ssidPass]
  rfl

end Members

private theorem getInteger_parsed
    (settings : Settings) (pointerRead : BitVec 32) (interval : Interval) :
    JsonObject.getInteger ⟨true, parsedMembers settings⟩ pointerRead
        interval.key =
      settings.kept.interval interval := by
  have bound := settings.textBytes_le
  have fourFit : 4 ≤ settings.storedValues := by
    simp only [Fields.storedValues, objectNodeSize]
    omega
  by_cases last : interval = .allStateInt
  · subst last
    by_cases long : 264 < settings.textBytes
    · have short : settings.storedValues ≤ 4 := by
        simp only [Fields.storedValues, objectNodeSize]
        omega
      have missing := find_dropped (Interval.key .allStateInt)
        (.ofInt (settings.interval .allStateInt)) short
        (by simp [Fields.valueMembers, Interval.all])
      simp only [JsonObject.getInteger, missing, Settings.kept, long,
        and_self, if_true]
    · have fiveFit : 5 ≤ settings.storedValues := by
        simp only [Fields.storedValues, objectNodeSize]
        omega
      have found := find_value (Interval.key .allStateInt)
        (.ofInt (settings.interval .allStateInt)) fiveFit
        (by simp [Fields.valueMembers, Interval.all])
      simp only [JsonObject.getInteger, found,
        asInteger_parsedForm_ofInt, Settings.kept, long, and_false,
        if_false]
  · have found := find_value interval.key
      (.ofInt (settings.interval interval)) fourFit
      (by
        cases interval <;>
          first
            | exact absurd rfl last
            | simp [Fields.valueMembers, Interval.all])
    simp only [JsonObject.getInteger, found, asInteger_parsedForm_ofInt,
      Settings.kept, last, false_and, if_false]

private theorem getBoolean_parsed
    (settings : Settings) (pointerRead : BitVec 32) :
    JsonObject.getBoolean ⟨true, parsedMembers settings⟩ pointerRead
        postAllInfoKey =
      settings.kept.postAllInfo := by
  by_cases fits : settings.textBytes ≤ 248
  · have sixFit : 6 ≤ settings.storedValues := by
      simp only [Fields.storedValues, objectNodeSize]
      omega
    have found := find_value postAllInfoKey
      (.boolean settings.postAllInfo) sixFit
      (by simp [Fields.valueMembers, Interval.all])
    simp only [JsonObject.getBoolean, found,
      asBoolean_parsedForm_boolean, Settings.kept, fits, decide_true,
      Bool.and_true]
  · have short : settings.storedValues ≤ 5 := by
      simp only [Fields.storedValues, objectNodeSize]
      omega
    have missing := find_dropped postAllInfoKey
      (.boolean settings.postAllInfo) short
      (by simp [Fields.valueMembers, Interval.all])
    simp only [JsonObject.getBoolean, missing, Settings.kept, fits,
      decide_false, Bool.and_false]

/-- Loading a saved configuration gives the kept settings, whatever the
heap holds behind the file and whatever `DeviceConfig` held before. -/
theorem loadConfig_saved
    {config : Memory} {settings : Settings}
    (represents : Represents config settings)
    (heap : HeapView) (target : Memory) :
    ∃ restored,
      loadConfig heap
          ⟨target, some (writeObject (configJson config))⟩ =
        .loaded restored ∧
      Represents restored settings.kept := by
  refine ⟨_, ?_, represents_storeSettings target settings.kept⟩
  rw [loadConfig_savedFields (by decide) represents]
  simp only [getInteger_parsed, getBoolean_parsed]
  rfl

/-- Two records agree on all nine fields. -/
structure SameFields (left right : Memory) : Prop where
  connectionString :
    fieldText left connectionStringAddress =
      fieldText right connectionStringAddress
  ssidName :
    fieldText left ssidNameAddress = fieldText right ssidNameAddress
  ssidPass :
    fieldText left ssidPassAddress = fieldText right ssidPassAddress
  interval : ∀ interval : Interval,
    loadWord left interval.address = loadWord right interval.address
  postAllInfo :
    loadBool left postAllInfoAddress = loadBool right postAllInfoAddress

/-- `saveConfig` succeeds, `loadConfig` of a fresh boot succeeds on the file
it left, and the nine fields are those that were saved. -/
def RoundTrips (config : Memory) (previous : Option Bytes)
    (heap : HeapView) : Prop :=
  (saveConfig .complete ⟨config, previous⟩).2 = true ∧
    ∃ restored,
      loadConfig heap ⟨zeroConfig,
        (saveConfig .complete ⟨config, previous⟩).1.configFile⟩ =
          .loaded restored ∧
      SameFields restored config

/-- Whether a configuration survives is a matter of its settings alone. -/
theorem roundTrips_iff_kept
    {config : Memory} {settings : Settings}
    (represents : Represents config settings)
    (previous : Option Bytes) (heap : HeapView) :
    RoundTrips config previous heap ↔
      (∀ interval,
        settings.kept.interval interval = settings.interval interval) ∧
      settings.kept.postAllInfo = settings.postAllInfo := by
  obtain ⟨restored, loaded, keeps⟩ :=
    loadConfig_saved represents heap zeroConfig
  constructor
  · rintro ⟨_, other, otherLoaded, same⟩
    have sameRestored : LoadOutcome.loaded other = .loaded restored :=
      otherLoaded.symm.trans loaded
    cases sameRestored
    refine ⟨fun interval => ?_, ?_⟩
    · rw [← keeps.interval, ← represents.interval, same.interval]
    · rw [← keeps.postAllInfo, ← represents.postAllInfo,
        same.postAllInfo]
  · rintro ⟨intervals, postAllInfo⟩
    refine ⟨rfl, restored, loaded, ?_, ?_, ?_, ?_, ?_⟩
    · rw [keeps.connectionString_eq (by decide),
        represents.connectionString_eq (by decide)]
      rfl
    · rw [keeps.ssidName_eq, represents.ssidName_eq]
      rfl
    · rw [keeps.ssidPass_eq, represents.ssidPass_eq]
      rfl
    · intro interval
      rw [keeps.interval, represents.interval, intervals]
    · rw [keeps.postAllInfo, represents.postAllInfo, postAllInfo]

/-- A configuration comes back unchanged exactly when the fields behind the
strings either have room in the pool or hold what a missing field reads as. -/
theorem roundTrips_iff_pool_suffices
    {config : Memory} {settings : Settings}
    (represents : Represents config settings)
    (previous : Option Bytes) (heap : HeapView) :
    RoundTrips config previous heap ↔
      (settings.textBytes ≤ 264 ∨ settings.interval .allStateInt = 0) ∧
      (settings.textBytes ≤ 248 ∨ settings.postAllInfo = false) := by
  rw [roundTrips_iff_kept represents]
  apply and_congr
  · constructor
    · intro intervals
      have last := intervals .allStateInt
      by_cases long : 264 < settings.textBytes
      · exact Or.inr (by simpa [Settings.kept, long] using last.symm)
      · exact Or.inl (Nat.not_lt.mp long)
    · rintro (short | zero) interval
      · simp [Settings.kept, Nat.not_lt.mpr short]
      · by_cases last : interval = .allStateInt
        · subst last
          simp [Settings.kept, zero]
        · simp [Settings.kept, last]
  · by_cases short : settings.textBytes ≤ 248
    · simp [Settings.kept, short]
    · cases value : settings.postAllInfo <;>
        simp [Settings.kept, short, value]

private def repeated (size count : Nat) (fits : count < size) :
    FieldText size :=
  ⟨List.replicate count 65, fun byte member => by
    rw [List.eq_of_mem_replicate member]
    decide, by simpa using fits⟩

/-- A configuration with full strings and the last two fields set. -/
def fullSettings : Settings where
  connectionString := repeated _ 179 (by decide)
  ssidName := repeated _ 63 (by decide)
  ssidPass := repeated _ 31 (by decide)
  interval := fun _ => 60000
  postAllInfo := true

/-- A configuration with short strings and the last two fields set. -/
def shortSettings : Settings where
  connectionString := repeated _ 100 (by decide)
  ssidName := repeated _ 8 (by decide)
  ssidPass := repeated _ 10 (by decide)
  interval := fun _ => 60000
  postAllInfo := true

theorem roundTrips_iff_pool_suffices_shortSettings :
    Represents (storeSettings zeroConfig shortSettings) shortSettings ∧
      RoundTrips (storeSettings zeroConfig shortSettings) none ⟨[], 0⟩ :=
  ⟨represents_storeSettings _ _,
    (roundTrips_iff_pool_suffices
      (represents_storeSettings zeroConfig shortSettings) none ⟨[], 0⟩).mpr
        ⟨Or.inl (by decide), Or.inl (by decide)⟩⟩

theorem not_roundTrips_fullSettings :
    Represents (storeSettings zeroConfig fullSettings) fullSettings ∧
      ¬ RoundTrips (storeSettings zeroConfig fullSettings) none ⟨[], 0⟩ := by
  refine ⟨represents_storeSettings _ _, ?_⟩
  rw [roundTrips_iff_kept (represents_storeSettings _ _)]
  rintro ⟨_, postAllInfo⟩
  have size : fullSettings.textBytes = 276 := by
    simp only [Fields.textBytes, fullSettings, repeated,
      List.length_replicate, roundSizeUp]
  rw [Settings.kept, size] at postAllInfo
  cases postAllInfo

end FunnelDispenser.Config
