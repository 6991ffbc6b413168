import FunnelDispenser.Config.RoundTrip

/-!
# What `saveConfig` reports

The callers restart the device on the strength of the result.  It says
whether the file could be opened, not whether the text reached it.
-/

namespace FunnelDispenser.Config

open CMemory Json

/-- All nine fields of a configuration, in the order of the file. -/
def fieldMembers (config : Memory) : List (Bytes × JsonVariant) :=
  [(connectionStringKey, .string (fieldText config connectionStringAddress)),
    (ssidNameKey, .string (fieldText config ssidNameAddress)),
    (ssidPassKey, .string (fieldText config ssidPassAddress))] ++
  Interval.all.map (fun interval =>
    (interval.key, .ofInt (loadWord config interval.address))) ++
  [(postAllInfoKey, .boolean (loadBool config postAllInfoAddress))]

def configText (config : Memory) : Bytes :=
  writeObject ⟨true, fieldMembers config⟩

/-- The pool has room for every field. -/
def FitsPool (config : Memory) : Prop :=
  configJson config = ⟨true, fieldMembers config⟩

theorem fieldMembers_eq {reach : Nat} (within : reach ≤ ssidPassAddress)
    {config : Memory} {settings : Fields reach}
    (represents : Represents config settings) :
    fieldMembers config = settings.textMembers ++ settings.valueMembers := by
  have bounded : reach ≤ ramSize := Nat.le_trans within (by decide)
  simp only [fieldMembers, Fields.textMembers, Fields.valueMembers,
    represents.connectionString_eq bounded, represents.ssidName_eq,
    represents.ssidPass_eq, represents.interval, represents.postAllInfo,
    List.append_assoc]

/-- Strings of up to 248 aligned bytes leave room for all the numbers. -/
theorem fitsPool_iff {reach : Nat} (within : reach ≤ ssidPassAddress)
    {config : Memory} {settings : Fields reach}
    (represents : Represents config settings) :
    FitsPool config ↔ settings.textBytes ≤ 248 := by
  have count : settings.valueMembers.length = 6 := rfl
  rw [FitsPool, configJson_of_represents within represents,
    fieldMembers_eq within represents]
  constructor
  · intro same
    have stored : settings.valueMembers.take settings.storedValues =
        settings.valueMembers := by
      simpa using same
    have lengths := congrArg List.length stored
    rw [List.length_take, count, Fields.storedValues, objectNodeSize]
      at lengths
    omega
  · intro short
    rw [List.take_of_length_le]
    rw [count, Fields.storedValues, objectNodeSize]
    omega

theorem saveConfig_file (outcome : WriteOutcome) {storage : Storage}
    (fits : FitsPool storage.config) :
    saveConfig outcome storage =
      match outcome with
      | .openFails => (storage, false)
      | .stopsAfter count =>
          ({ storage with
              configFile := some ((configText storage.config).take count) },
            true)
      | .complete =>
          ({ storage with configFile := some (configText storage.config) },
            true) := by
  unfold FitsPool at fits
  cases outcome <;> simp only [saveConfig, fits, configText]

/-- Success means that the file holds the whole text; failure means that it
is as it was. -/
structure SaveReports (outcome : WriteOutcome) (storage : Storage) :
    Prop where
  succeeded :
    (saveConfig outcome storage).2 = true ↔
      (saveConfig outcome storage).1.configFile =
        some (configText storage.config)
  failed : (saveConfig outcome storage).2 = false →
    (saveConfig outcome storage).1.configFile = storage.configFile

/-- The file system takes the whole text, or refuses to open a file that does
not hold it already. -/
def TakesWholeText (storage : Storage) : WriteOutcome → Prop
  | .openFails => storage.configFile ≠ some (configText storage.config)
  | .stopsAfter count => (configText storage.config).length ≤ count
  | .complete => True

theorem not_saveReports_of_short {storage : Storage}
    (fits : FitsPool storage.config) {count : Nat}
    (short : count < (configText storage.config).length) :
    ¬ SaveReports (.stopsAfter count) storage := by
  intro reports
  have written := reports.succeeded.mp (by rw [saveConfig_file _ fits])
  rw [saveConfig_file _ fits] at written
  have lengths := congrArg List.length (Option.some.inj written)
  rw [List.length_take] at lengths
  omega

theorem saveReports_iff (outcome : WriteOutcome) {storage : Storage}
    (fits : FitsPool storage.config) :
    SaveReports outcome storage ↔ TakesWholeText storage outcome := by
  have saved := saveConfig_file outcome fits
  cases outcome with
  | openFails =>
      constructor
      · intro reports same
        have reported := reports.succeeded.mpr (by rw [saved]; exact same)
        rw [saved] at reported
        cases reported
      · intro different
        refine ⟨?_, fun _ => by rw [saved]⟩
        rw [saved]
        exact iff_of_false Bool.false_ne_true different
  | stopsAfter count =>
      constructor
      · intro reports
        by_contra short
        exact not_saveReports_of_short fits (Nat.lt_of_not_le short) reports
      · intro enough
        refine ⟨?_, ?_⟩
        · rw [saved]
          simp only [List.take_of_length_le enough]
        · rw [saved]
          intro failed
          cases failed
  | complete =>
      refine iff_of_true ⟨?_, ?_⟩ trivial
      · rw [saved]
        exact iff_of_true rfl rfl
      · rw [saved]
        intro failed
        cases failed

/-- A short configuration over an empty object in the file. -/
def shortStorage : Storage :=
  ⟨storeSettings zeroConfig shortSettings, some [123, 125]⟩

private theorem shortStorage_fits : FitsPool shortStorage.config := by
  have represents : Represents shortStorage.config shortSettings :=
    represents_storeSettings zeroConfig shortSettings
  rw [fitsPool_iff (by decide) represents]
  decide

private theorem shortStorage_length :
    10 < (configText shortStorage.config).length := by
  decide +kernel

theorem saveReports_iff_shortStorage :
    SaveReports .complete shortStorage ∧
      SaveReports .openFails shortStorage := by
  refine ⟨(saveReports_iff _ shortStorage_fits).mpr trivial,
    (saveReports_iff _ shortStorage_fits).mpr ?_⟩
  intro same
  have lengths := congrArg List.length (Option.some.inj same)
  have long := shortStorage_length
  rw [← lengths] at long
  exact absurd long (by decide)

/-- The flash is full after ten bytes. -/
theorem not_saveReports_fullFlash :
    FitsPool shortStorage.config ∧
      ¬ SaveReports (.stopsAfter 10) shortStorage :=
  ⟨shortStorage_fits,
    not_saveReports_of_short shortStorage_fits shortStorage_length⟩

end FunnelDispenser.Config
