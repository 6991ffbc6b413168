import FunnelDispenser.Config.Storage
import FunnelDispenser.Json.Finished

/-!
# Loading any file

What `loadConfig` owes to a boot that finds an arbitrary file, and the files
with which it delivers.  The buffer is as long as the file and has no
terminator; a lookup that finds no text yields the null pointer, and `strcpy`
checks neither that nor a length.
-/

namespace FunnelDispenser.Config

open CMemory Json

/-- The field took the text of its key, with its terminator in its own
array. -/
def FilledFrom (json : JsonObject) (after : Memory) (key : Bytes)
    (address size : Nat) : Prop :=
  ∃ text, json.getString key = some text ∧
    HoldsCString after address text ∧
    strcpyFootprint address text ⊆ Set.Ico address (address + size)

/-- The record after a load that succeeds. -/
structure LoadedFrom (heap : HeapView) (json : JsonObject)
    (before after : Memory) : Prop where
  connectionString : FilledFrom json after connectionStringKey
    connectionStringAddress connectionStringSize
  ssidName : FilledFrom json after ssidNameKey ssidNameAddress ssidNameSize
  ssidPass : FilledFrom json after ssidPassKey ssidPassAddress ssidPassSize
  interval : ∀ interval : Interval,
    loadWord after interval.address =
      json.getInteger heap.pointerRead interval.key
  postAllInfo :
    loadBool after postAllInfoAddress =
      json.getBoolean heap.pointerRead postAllInfoKey
  frame : ∀ position, postAllInfoAddress < position →
    after position = before position

/-- `loadConfig` ends, reads the bytes of the file only, copies from no null
pointer, and what it loads comes field by field from the file.  The failed
outcome carries no memory: `DeviceConfig` is as it was. -/
structure RobustLoad (heap : HeapView) (storage : Storage) : Prop where
  ends : ∀ bytes, storage.configFile = some bytes →
    parseDocument configPool (bytes ++ heap.tail) ≠ .exhausted
  inside : ∀ bytes, storage.configFile = some bytes →
    bytes.length ≤ maximumConfigSize →
    documentInside configPool bytes = true
  noFault : loadConfig heap storage ≠ .fault
  loaded : ∀ after, loadConfig heap storage = .loaded after →
    ∃ bytes json rest buffer, storage.configFile = some bytes ∧
      parseDocument configPool (bytes ++ heap.tail) =
        .done json rest buffer ∧
      LoadedFrom heap json storage.config after

/-- The member is a text that is shorter than the array. -/
def Fits (json : JsonObject) (key : Bytes) (size : Nat) : Prop :=
  ∃ text, json.getString key = some text ∧ text.length < size

structure FitsFields (json : JsonObject) : Prop where
  connectionString : Fits json connectionStringKey connectionStringSize
  ssidName : Fits json ssidNameKey ssidNameSize
  ssidPass : Fits json ssidPassKey ssidPassSize

/-- Either the file alone is a complete object with three fitting strings, or
one of its bytes makes the parser give up. -/
def Loadable (bytes : Bytes) : Prop :=
  match parseDocument configPool bytes with
  | .done json _ _ => json.success = true → FitsFields json
  | _ => documentInside configPool bytes = true

theorem Loadable.inside {bytes : Bytes} (loadable : Loadable bytes) :
    documentInside configPool bytes = true := by
  unfold Loadable at loadable
  split at loadable
  · rename_i json rest buffer finished
    exact documentInside_of_done finished
  · exact loadable

theorem storeSettings_frame (config : Memory) (settings : Settings)
    {position : Nat} (outside : postAllInfoAddress < position) :
    storeSettings config settings position = config position := by
  obtain ⟨connectionBound, nameBound, passBound⟩ := settings.lengths_lt
  have behind : ∀ {address : Nat} {text : Bytes},
      address + text.length < 296 →
        position ∉ strcpyFootprint address text := by
    intro address text bound
    simp only [postAllInfoAddress] at outside
    simp only [strcpyFootprint, Set.mem_Icc]
    omega
  rw [storeSettings, storeNumbers,
    storeBool_frame _ _ _ _ (Nat.ne_of_gt outside),
    storeIntervals_frame, storeTexts, strcpy_frame, strcpy_frame,
    strcpy_frame]
  · apply behind
    simp only [connectionStringAddress]
    omega
  · apply behind
    simp only [ssidNameAddress]
    omega
  · apply behind
    simp only [ssidPassAddress]
    omega
  · intro interval _
    have above := interval.address_bounds.2
    omega

/-- Fitting strings make the assignments a store of nine settings. -/
theorem readFields_of_fits (heap : HeapView) {json : JsonObject}
    (clean : json.WithoutNul) (fits : FitsFields json) (config : Memory) :
    ∃ settings : Settings,
      readFields heap json config =
          .loaded (storeSettings config settings) ∧
        json.getString connectionStringKey =
          some settings.connectionString.text ∧
        json.getString ssidNameKey = some settings.ssidName.text ∧
        json.getString ssidPassKey = some settings.ssidPass.text ∧
        (∀ interval, settings.interval interval =
          json.getInteger heap.pointerRead interval.key) ∧
        settings.postAllInfo =
          json.getBoolean heap.pointerRead postAllInfoKey := by
  obtain ⟨connectionString, connectionFound, connectionFits⟩ :=
    fits.connectionString
  obtain ⟨ssidName, nameFound, nameFits⟩ := fits.ssidName
  obtain ⟨ssidPass, passFound, passFits⟩ := fits.ssidPass
  refine ⟨⟨⟨connectionString, clean.getString connectionFound,
      connectionFits⟩, ⟨ssidName, clean.getString nameFound, nameFits⟩,
      ⟨ssidPass, clean.getString passFound, passFits⟩,
      fun interval => json.getInteger heap.pointerRead interval.key,
      json.getBoolean heap.pointerRead postAllInfoKey⟩, ?_,
    connectionFound, nameFound, passFound, fun _ => rfl, rfl⟩
  simp only [readFields, connectionFound, nameFound, passFound]
  rfl

theorem filledFrom_of_holds {json : JsonObject} {after : Memory}
    {key : Bytes} {address size : Nat} (text : FieldText size)
    (found : json.getString key = some text.text)
    (held : HoldsCString after address text.text) :
    FilledFrom json after key address size := by
  refine ⟨text.text, found, held, ?_⟩
  intro position written
  have fits := text.fits
  simp only [strcpyFootprint, Set.mem_Icc] at written
  simp only [Set.mem_Ico]
  omega

/-- With fitting strings every field is filled from its own key. -/
theorem readFields_loadedFrom (heap : HeapView) {json : JsonObject}
    (clean : json.WithoutNul) (fits : FitsFields json) (config : Memory) :
    ∃ after, readFields heap json config = .loaded after ∧
      LoadedFrom heap json config after := by
  obtain ⟨settings, read, connectionString, ssidName, ssidPass, intervals,
    postAllInfo⟩ := readFields_of_fits heap clean fits config
  have represents := represents_storeSettings config settings
  refine ⟨_, read,
    filledFrom_of_holds _ connectionString represents.connectionString,
    filledFrom_of_holds _ ssidName represents.ssidName,
    filledFrom_of_holds _ ssidPass represents.ssidPass, ?_, ?_, ?_⟩
  · intro interval
    rw [represents.interval, intervals]
  · rw [represents.postAllInfo, postAllInfo]
  · intro position outside
    exact storeSettings_frame config settings outside

theorem FilledFrom.fits {json : JsonObject} {after : Memory} {key : Bytes}
    {address size : Nat} (filled : FilledFrom json after key address size) :
    Fits json key size := by
  obtain ⟨text, found, _, footprint⟩ := filled
  refine ⟨text, found, ?_⟩
  have last : address + text.length ∈ strcpyFootprint address text :=
    Set.right_mem_Icc.mpr (Nat.le_add_right _ _)
  have inside := (Set.mem_Ico.mp (footprint last)).2
  omega

theorem readFields_cases (heap : HeapView) (json : JsonObject)
    (config : Memory) :
    readFields heap json config = .fault ∨
      ∃ after, readFields heap json config = .loaded after := by
  unfold readFields
  split
  · exact Or.inr ⟨_, rfl⟩
  · exact Or.inl rfl

theorem loadConfig_of_loadable (heap : HeapView) {storage : Storage}
    {bytes : Bytes} (file : storage.configFile = some bytes)
    (small : bytes.length ≤ maximumConfigSize)
    (loadable : Loadable bytes) :
    loadConfig heap storage = .failed ∨
      ∃ json rest buffer after,
        parseDocument configPool (bytes ++ heap.tail) =
            .done json rest buffer ∧
          loadConfig heap storage = .loaded after ∧
          LoadedFrom heap json storage.config after := by
  have appended := parseDocument_append loadable.inside heap.tail
  rw [loadConfig_of_file heap file small]
  unfold Loadable at loadable
  cases finished : parseDocument configPool bytes with
  | done json rest buffer =>
      rw [finished] at loadable appended
      rw [appended]
      by_cases success : json.success = true
      · obtain ⟨after, read, loaded⟩ := readFields_loadedFrom heap
          (parseDocument_withoutNul finished) (loadable success)
          storage.config
        refine Or.inr ⟨json, rest ++ heap.tail, buffer, after, rfl, ?_, loaded⟩
        simp only [Parsed.append, success, if_true, read]
      · refine Or.inl ?_
        simp only [Parsed.append, success]
        rfl
  | invalid =>
      rw [finished] at appended
      rw [appended]
      exact Or.inl rfl
  | exhausted =>
      rw [finished] at appended
      rw [appended]
      exact Or.inl rfl

/-- No file and a file above the size limit are refused before parsing. -/
theorem loadConfig_of_allLoadable (heap : HeapView) (storage : Storage)
    (loadable : ∀ bytes, storage.configFile = some bytes →
      bytes.length ≤ maximumConfigSize → Loadable bytes) :
    loadConfig heap storage = .failed ∨
      ∃ bytes json rest buffer after, storage.configFile = some bytes ∧
        parseDocument configPool (bytes ++ heap.tail) =
            .done json rest buffer ∧
          loadConfig heap storage = .loaded after ∧
          LoadedFrom heap json storage.config after := by
  cases file : storage.configFile with
  | none =>
      refine Or.inl ?_
      rw [loadConfig, file]
  | some bytes =>
      by_cases small : bytes.length ≤ maximumConfigSize
      · rcases loadConfig_of_loadable heap file small
            (loadable bytes file small) with
          failed | ⟨json, rest, buffer, after, parsed, loaded, whole⟩
        · exact Or.inl failed
        · exact Or.inr
            ⟨bytes, json, rest, buffer, after, rfl, parsed, loaded, whole⟩
      · refine Or.inl ?_
        simp only [loadConfig, file]
        rw [if_pos (Nat.lt_of_not_le small)]

/-- A robust load of a complete object has found three fitting strings. -/
theorem RobustLoad.fits {heap : HeapView} {storage : Storage}
    (robust : RobustLoad heap storage) {bytes rest : Bytes}
    {json : JsonObject} {buffer : StaticJsonBuffer}
    (file : storage.configFile = some bytes)
    (small : bytes.length ≤ maximumConfigSize)
    (parsed : parseDocument configPool (bytes ++ heap.tail) =
      .done json rest buffer)
    (success : json.success = true) :
    FitsFields json := by
  have read := loadConfig_of_file heap file small
  rw [parsed] at read
  simp only [success, if_true] at read
  rcases readFields_cases heap json storage.config with
    faulted | ⟨after, loaded⟩
  · exact absurd (read.trans faulted) robust.noFault
  · obtain ⟨other, sameJson, _, _, sameFile, sameParse, whole⟩ :=
      robust.loaded after (read.trans loaded)
    have sameBytes : bytes = other :=
      Option.some.inj (file.symm.trans sameFile)
    rw [← sameBytes, parsed] at sameParse
    injection sameParse with sameObject _ _
    rw [sameObject]
    exact ⟨whole.connectionString.fits, whole.ssidName.fits,
      whole.ssidPass.fits⟩

/-- `loadConfig` is robust on exactly the loadable files, on no file, and on
files it does not read for their size. -/
theorem robustLoad_iff (heap : HeapView) (storage : Storage) :
    RobustLoad heap storage ↔
      ∀ bytes, storage.configFile = some bytes →
        bytes.length ≤ maximumConfigSize → Loadable bytes := by
  constructor
  · intro robust bytes file small
    have inside := robust.inside bytes file small
    have appended := parseDocument_append inside heap.tail
    unfold Loadable
    cases finished : parseDocument configPool bytes with
    | done json rest buffer =>
        intro success
        rw [finished] at appended
        exact robust.fits file small appended success
    | invalid => exact inside
    | exhausted => exact inside
  · intro loadable
    refine ⟨fun bytes _ => parseDocument_ne_exhausted _ _,
      fun bytes file small => (loadable bytes file small).inside, ?_, ?_⟩
    · rcases loadConfig_of_allLoadable heap storage loadable with
        failed | ⟨_, _, _, _, after, _, _, loaded, _⟩
      · rw [failed]
        exact LoadOutcome.noConfusion
      · rw [loaded]
        exact LoadOutcome.noConfusion
    · intro after loaded
      rcases loadConfig_of_allLoadable heap storage loadable with
        failed | ⟨bytes, json, rest, buffer, other, file, parsed, same, whole⟩
      · rw [failed] at loaded
        cases loaded
      · rw [same] at loaded
        cases loaded
        exact ⟨bytes, json, rest, buffer, file, parsed, whole⟩

/-- A complete object whose password fills its array to the last byte. -/
def longPassFile : Bytes :=
  bytesOf "\x7b\"CS\":\"\",\"SN\":\"\",\"SP\":\"" ++
    List.replicate 32 97 ++ bytesOf "\"\x7d"

private theorem longPassFile_small :
    longPassFile.length ≤ maximumConfigSize := by
  decide +kernel

private theorem longPassFile_parses :
    (match parseDocument configPool (longPassFile ++ []) with
      | .done json _ _ =>
          json.success &&
            json.getString ssidPassKey = some (List.replicate 32 97)
      | _ => false) = true := by
  decide +kernel

private theorem emptyFile_outside : documentInside configPool [] = false := by
  decide +kernel

private theorem emptyObject_faults :
    (match loadConfig ⟨[], 0⟩ ⟨zeroConfig, some (bytesOf "\x7b\x7d")⟩ with
      | .fault => true
      | _ => false) = true := by
  decide +kernel

/-- An empty object is copied from the null pointer, an empty file is read
behind its end, and a 32-byte password loses its terminator to the next
field. -/
theorem not_robustLoad_malformed :
    ¬ RobustLoad ⟨[], 0⟩ ⟨zeroConfig, some (bytesOf "\x7b\x7d")⟩ ∧
      ¬ RobustLoad ⟨[], 0⟩ ⟨zeroConfig, some []⟩ ∧
      ¬ RobustLoad ⟨[], 0⟩ ⟨zeroConfig, some longPassFile⟩ := by
  refine ⟨?_, ?_, ?_⟩
  · intro robust
    have faults := emptyObject_faults
    split at faults
    · rename_i faulted
      exact robust.noFault faulted
    · cases faults
  · intro robust
    have inside := robust.inside [] rfl (Nat.zero_le _)
    rw [emptyFile_outside] at inside
    cases inside
  · intro robust
    have parses := longPassFile_parses
    split at parses
    · rename_i json rest buffer parsed
      simp only [Bool.and_eq_true, decide_eq_true_eq] at parses
      obtain ⟨success, ssidPass⟩ := parses
      obtain ⟨text, found, short⟩ :=
        (robust.fits rfl longPassFile_small parsed success).ssidPass
      rw [ssidPass] at found
      cases found
      exact absurd short (by decide)
    · cases parses

end FunnelDispenser.Config
