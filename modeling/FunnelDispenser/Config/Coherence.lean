import FunnelDispenser.Config.RoundTrip

/-!
# RAM and flash

Every routine that changes `DeviceConfig` saves it at once.  What a reset or
a power failure leaves is therefore what RAM held, apart from the numbers
that found no room in the pool.
-/

namespace FunnelDispenser.Config

open CMemory Json

/-- The configuration `setup()` goes on with behind `loadConfig`. -/
def bootConfig (heap : HeapView) (configFile : Option Bytes) :
    Option Memory :=
  match loadConfig heap ⟨zeroConfig, configFile⟩ with
  | .loaded config => some config
  | .failed => some zeroConfig
  | .fault => none

/-- Every boot on this file starts with these settings. -/
def BootsWith (configFile : Option Bytes) (settings : Settings) : Prop :=
  ∀ heap, ∃ config,
    bootConfig heap configFile = some config ∧ Represents config settings

/-- RAM holds these settings, and the next boot finds what is kept of
them. -/
structure Coherent (storage : Storage) (settings : Settings) : Prop where
  represents : Represents storage.config settings
  bootsWith : BootsWith storage.configFile settings.kept

theorem Settings.kept_idem (settings : Settings) :
    settings.kept.kept = settings.kept := by
  have intervals :
      settings.kept.kept.interval = settings.kept.interval := by
    funext interval
    change (if interval = .allStateInt ∧ 264 < settings.textBytes then 0
      else settings.kept.interval interval) = _
    simp only [Settings.kept]
    split <;> rfl
  have flag : settings.kept.kept.postAllInfo = settings.kept.postAllInfo := by
    change (settings.kept.postAllInfo && settings.textBytes ≤ 248) = _
    simp only [Settings.kept]
    rw [Bool.and_assoc, Bool.and_self]
  change ({ settings.kept with
    interval := settings.kept.kept.interval
    postAllInfo := settings.kept.kept.postAllInfo } : Settings) = _
  rw [intervals, flag]

theorem coherent_saveConfig {config : Memory} {settings : Settings}
    (represents : Represents config settings) (previous : Option Bytes) :
    Coherent (saveConfig .complete ⟨config, previous⟩).1 settings where
  represents := represents
  bootsWith := by
    intro heap
    obtain ⟨restored, loaded, keeps⟩ :=
      loadConfig_saved represents heap zeroConfig
    refine ⟨restored, ?_, keeps⟩
    rw [saveConfig_complete, bootConfig, loaded]

theorem Coherent.boot {storage : Storage} {settings : Settings}
    (coherent : Coherent storage settings) (heap : HeapView) :
    ∃ config, bootConfig heap storage.configFile = some config ∧
      Coherent ⟨config, storage.configFile⟩ settings.kept := by
  obtain ⟨config, booted, represents⟩ := coherent.bootsWith heap
  refine ⟨config, booted, represents, ?_⟩
  rw [settings.kept_idem]
  exact coherent.bootsWith

def textBytes (config : Memory) : Nat :=
  roundSizeUp ((fieldText config connectionStringAddress).length + 1) +
    roundSizeUp ((fieldText config ssidNameAddress).length + 1) +
    roundSizeUp ((fieldText config ssidPassAddress).length + 1)

/-- What a boot restores of a configuration: the strings, and the numbers that
found room behind them in the pool. -/
structure RestoredFrom (config restored : Memory) : Prop where
  connectionString :
    fieldText restored connectionStringAddress =
      fieldText config connectionStringAddress
  ssidName :
    fieldText restored ssidNameAddress = fieldText config ssidNameAddress
  ssidPass :
    fieldText restored ssidPassAddress = fieldText config ssidPassAddress
  interval : ∀ interval : Interval,
    loadWord restored interval.address =
      if interval = .allStateInt ∧ 264 < textBytes config then 0
      else loadWord config interval.address
  postAllInfo :
    loadBool restored postAllInfoAddress =
      (loadBool config postAllInfoAddress && textBytes config ≤ 248)

theorem restoredFrom_of_represents {config restored : Memory}
    {settings : Settings} (represents : Represents config settings)
    (again : Represents restored settings.kept) :
    RestoredFrom config restored := by
  have bytes : textBytes config = settings.textBytes := by
    rw [textBytes, represents.connectionString_eq (by decide),
      represents.ssidName_eq, represents.ssidPass_eq]
    rfl
  constructor
  · rw [again.connectionString_eq (by decide),
      represents.connectionString_eq (by decide)]
    rfl
  · rw [again.ssidName_eq, represents.ssidName_eq]
    rfl
  · rw [again.ssidPass_eq, represents.ssidPass_eq]
    rfl
  · intro interval
    rw [again.interval, represents.interval, bytes]
    rfl
  · rw [again.postAllInfo, represents.postAllInfo, bytes]
    rfl

theorem Coherent.restoredFrom {storage : Storage} {settings : Settings}
    (coherent : Coherent storage settings) (heap : HeapView) :
    ∃ config, bootConfig heap storage.configFile = some config ∧
      RestoredFrom storage.config config := by
  obtain ⟨config, booted, again⟩ := coherent.bootsWith heap
  exact ⟨config, booted, restoredFrom_of_represents coherent.represents again⟩

def factorySettings : Settings where
  connectionString := .empty _ (Nat.succ_pos _)
  ssidName := .empty _ (Nat.succ_pos _)
  ssidPass := .empty _ (Nat.succ_pos _)
  interval := fun _ => 0
  postAllInfo := false

theorem represents_zeroConfig : Represents zeroConfig factorySettings where
  connectionString := (holdsCString_nil_iff _ _).mpr rfl
  ssidName := (holdsCString_nil_iff _ _).mpr rfl
  ssidPass := (holdsCString_nil_iff _ _).mpr rfl
  interval := fun _ => rfl
  postAllInfo := rfl

theorem factorySettings_kept : factorySettings.kept = factorySettings :=
  Settings.kept_eq_self (by decide)

theorem coherent_factory : Coherent ⟨zeroConfig, none⟩ factorySettings where
  represents := represents_zeroConfig
  bootsWith := by
    intro heap
    refine ⟨zeroConfig, rfl, ?_⟩
    rw [factorySettings_kept]
    exact represents_zeroConfig

section Writers

variable {config : Memory} {settings : Settings}
variable (represents : Represents config settings)
include represents

/-- A connection string that fits its array replaces the old one and nothing
else. -/
theorem Represents.strcpyConnectionString
    (connectionString : FieldText connectionStringSize) :
    Represents
      (strcpy config connectionStringAddress connectionString.text)
      { settings with connectionString := connectionString } := by
  have bound : connectionString.text.length < 180 := connectionString.fits
  refine ⟨strcpy_holds _ _ _ connectionString.nonzero, ?_, ?_,
    fun interval => ?_, ?_⟩
  · apply represents.ssidName.strcpy_disjoint
    simp only [connectionStringAddress, ssidNameAddress]
    omega
  · apply represents.ssidPass.strcpy_disjoint
    simp only [connectionStringAddress, ssidPassAddress]
    omega
  · have lower := interval.address_bounds.1
    simp only [ssidPassAddress, ssidPassSize] at lower
    rw [loadWord_strcpy_disjoint _ _ _ _ (by
      simp only [connectionStringAddress]
      omega)]
    exact represents.interval interval
  · rw [loadBool, strcpy_frame _ _ _ _ (by
      simp only [strcpyFootprint, Set.mem_Icc, connectionStringAddress,
        postAllInfoAddress]
      omega)]
    exact represents.postAllInfo

/-- A stored interval replaces the old one and nothing else. -/
theorem Represents.storeInterval (interval : Interval) (value : BitVec 32) :
    Represents (storeWord config interval.address value)
      { settings with
        interval := Function.update settings.interval interval value } := by
  obtain ⟨connectionBound, nameBound, passBound⟩ := settings.lengths_lt
  obtain ⟨lower, upper⟩ := interval.address_bounds
  simp only [ssidPassAddress, ssidPassSize, postAllInfoAddress] at lower upper
  have below : ∀ position, position < 276 →
      storeWord config interval.address value position = config position :=
    fun position inside => storeWord_frame _ _ _ _ (by omega)
  refine ⟨?_, ?_, ?_, fun tested => ?_, ?_⟩
  · apply represents.connectionString.of_agree
    intro offset inside
    apply below
    simp only [connectionStringAddress] at inside ⊢
    omega
  · apply represents.ssidName.of_agree
    intro offset inside
    apply below
    simp only [ssidNameAddress] at inside ⊢
    omega
  · apply represents.ssidPass.of_agree
    intro offset inside
    apply below
    simp only [ssidPassAddress] at inside ⊢
    omega
  · by_cases same : tested = interval
    · subst same
      rw [loadWord_storeWord]
      exact (Function.update_self tested value settings.interval).symm
    · have apart := Interval.address_disjoint same
      have kept : loadWord (storeWord config interval.address value)
          tested.address = loadWord config tested.address :=
        loadWord_of_agree fun offset inside =>
          storeWord_frame _ _ _ _ (by omega)
      rw [kept, represents.interval]
      exact (Function.update_of_ne same value settings.interval).symm
  · rw [loadBool, storeWord_frame _ _ _ _ (by
      simp only [postAllInfoAddress]
      omega)]
    exact represents.postAllInfo

end Writers

end FunnelDispenser.Config
