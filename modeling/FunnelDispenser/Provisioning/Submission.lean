import FunnelDispenser.Config.RoundTrip
import FunnelDispenser.Device.Setup

/-!
# Submitted credentials

The two handlers of the portal copy their arguments unchecked.  As long as
the arguments fit their arrays nothing else changes, and the credentials come
back from the file even behind a connection string that has lost its own NUL.
-/

namespace FunnelDispenser.Provisioning

open CMemory Config Device Json

/-- The credentials of a request, once they are known to fit. -/
structure Credentials where
  ssidName : FieldText ssidNameSize
  ssidPass : FieldText ssidPassSize

structure Carries (request : HttpRequest) (credentials : Credentials) :
    Prop where
  ssidName : cStr (request.arg ssidArg) = credentials.ssidName.text
  ssidPass : cStr (request.arg ssidPassArg) = credentials.ssidPass.text

section Copies

variable {request : HttpRequest} {credentials : Credentials}
variable (carries : Carries request credentials) (config : Memory)
include carries

theorem Carries.submitConfig_eq :
    submitConfig request config =
      strcpy (strcpy config ssidNameAddress credentials.ssidName.text)
        ssidPassAddress credentials.ssidPass.text := by
  rw [submitConfig, carries.ssidName, carries.ssidPass]

theorem Carries.ssidName_holds :
    HoldsCString (submitConfig request config) ssidNameAddress
      credentials.ssidName.text := by
  have bound : credentials.ssidName.text.length < 64 :=
    credentials.ssidName.fits
  rw [carries.submitConfig_eq]
  apply (strcpy_holds _ _ _ credentials.ssidName.nonzero).strcpy_disjoint
  simp only [ssidNameAddress, ssidPassAddress]
  omega

theorem Carries.ssidPass_holds :
    HoldsCString (submitConfig request config) ssidPassAddress
      credentials.ssidPass.text := by
  rw [carries.submitConfig_eq]
  exact strcpy_holds _ _ _ credentials.ssidPass.nonzero

/-- The connection string ends before the password, because the new name
does. -/
theorem Carries.represents :
    ∃ fields : Fields ssidPassAddress,
      fields.ssidName = credentials.ssidName ∧
        fields.ssidPass = credentials.ssidPass ∧
        Represents (submitConfig request config) fields := by
  have bound : credentials.ssidName.text.length < 64 :=
    credentials.ssidName.fits
  have terminated := (carries.ssidName_holds config).terminated
  rw [← Nat.zero_add (ssidNameAddress + credentials.ssidName.text.length)]
    at terminated
  obtain ⟨text, length, held⟩ := exists_holdsCString terminated
  have fits : text.length < ssidPassAddress := by
    simp only [ssidNameAddress, ssidPassAddress] at length ⊢
    omega
  exact
    ⟨{ connectionString := ⟨text, held.nonzero, fits⟩
       ssidName := credentials.ssidName
       ssidPass := credentials.ssidPass
       interval := fun interval =>
        loadWord (submitConfig request config) interval.address
       postAllInfo :=
        loadBool (submitConfig request config) postAllInfoAddress },
      rfl, rfl, held, carries.ssidName_holds config,
      carries.ssidPass_holds config, fun _ => rfl, rfl⟩

/-- Saved and loaded again, the credentials are those of the request. -/
theorem Carries.beginArguments_eq (heap : HeapView) (target : Memory) :
    ∃ restored,
      loadConfig heap ⟨target,
          some (writeObject (configJson (submitConfig request config)))⟩ =
        .loaded restored ∧
      beginArguments restored =
        (credentials.ssidName.text, credentials.ssidPass.text) := by
  obtain ⟨fields, sameName, samePass, represents⟩ :=
    carries.represents config
  have nameBound : credentials.ssidName.text.length < 64 :=
    credentials.ssidName.fits
  have passBound : credentials.ssidPass.text.length < 32 :=
    credentials.ssidPass.fits
  refine ⟨_, loadConfig_savedFields (Nat.le_refl _) represents heap target, ?_⟩
  rw [sameName, samePass]
  refine Prod.ext ?_ ?_
  · refine fieldText_of_holds credentials.ssidName
      (storeNumbers_holds _ _ (storeTexts_ssidName _ _ _ _) ?_) (by decide)
    simp only [ssidNameAddress, ssidPassAddress, ssidPassSize]
    omega
  · refine fieldText_of_holds credentials.ssidPass
      (storeNumbers_holds _ _
        (strcpy_holds _ _ _ credentials.ssidPass.nonzero) ?_) (by decide)
    simp only [ssidPassAddress, ssidPassSize]
    omega

end Copies

def arrayBytes (address size : Nat) : Set Nat :=
  Set.Ico address (address + size)

/-- A copy of `text` writes only into the array, and the array ends up with a
terminator in it. -/
structure CopyStaysInside (address size : Nat) (text : Bytes)
    (after : Memory) : Prop where
  written : strcpyFootprint address text ⊆ arrayBytes address size
  terminated : ∃ position ∈ arrayBytes address size, after position = 0

theorem footprint_inside_iff {address size : Nat} {text : Bytes} :
    strcpyFootprint address text ⊆ arrayBytes address size ↔
      text.length < size := by
  constructor
  · intro inside
    have last := inside (a := address + text.length)
      (Set.mem_Icc.mpr ⟨Nat.le_add_right _ _, Nat.le_refl _⟩)
    rw [arrayBytes, Set.mem_Ico] at last
    omega
  · intro fits position written
    rw [strcpyFootprint, Set.mem_Icc] at written
    rw [arrayBytes, Set.mem_Ico]
    omega

/-- A held string that fits leaves its terminator in the array. -/
theorem copyStaysInside_of_holds {address size : Nat} {text : Bytes}
    {after : Memory} (held : HoldsCString after address text)
    (fits : text.length < size) :
    CopyStaysInside address size text after where
  written := footprint_inside_iff.mpr fits
  terminated := by
    refine ⟨address + text.length, ?_, held.terminated⟩
    rw [arrayBytes, Set.mem_Ico]
    omega

section Handlers

variable {F : Type}

/-- `handleSubmit` stays inside the credentials, and what was submitted is
what `WiFi.begin` gets after a completed save. -/
structure SubmitCorrect (write : WriteOutcome) (heap : HeapView)
    (request : HttpRequest) (before : Board F) : Prop where
  ssidName : CopyStaysInside ssidNameAddress ssidNameSize
    (cStr (request.arg ssidArg))
    (handleSubmit write request before).1.storage.config
  ssidPass : CopyStaysInside ssidPassAddress ssidPassSize
    (cStr (request.arg ssidPassArg))
    (handleSubmit write request before).1.storage.config
  otherBytes : ∀ position,
    position ∉ arrayBytes ssidNameAddress ssidNameSize →
    position ∉ arrayBytes ssidPassAddress ssidPassSize →
      (handleSubmit write request before).1.storage.config position =
        before.storage.config position
  interval : ∀ interval : Interval,
    loadWord (handleSubmit write request before).1.storage.config
        interval.address =
      loadWord before.storage.config interval.address
  postAllInfo :
    loadBool (handleSubmit write request before).1.storage.config
        postAllInfoAddress =
      loadBool before.storage.config postAllInfoAddress
  board :
    (handleSubmit write request before).1 =
      { before with
        storage := (handleSubmit write request before).1.storage
        resetDevice := true }
  reloaded : write = .complete →
    (handleSubmit write request before).2 = thankYouPage →
      ∃ restored,
        loadConfig heap ⟨zeroConfig,
          (handleSubmit write request before).1.storage.configFile⟩ =
            .loaded restored ∧
        beginArguments restored =
          (request.arg ssidArg, request.arg ssidPassArg)

/-- `handleSetupSubmit` stays inside the connection string. -/
structure SetupSubmitCorrect (write : WriteOutcome) (request : HttpRequest)
    (before : Board F) : Prop where
  connectionString :
    CopyStaysInside connectionStringAddress connectionStringSize
      (cStr (request.arg deviceInfoArg))
      (handleSetupSubmit write request before).1.storage.config
  otherBytes : ∀ position,
    position ∉ arrayBytes connectionStringAddress connectionStringSize →
      (handleSetupSubmit write request before).1.storage.config position =
        before.storage.config position
  interval : ∀ interval : Interval,
    loadWord (handleSetupSubmit write request before).1.storage.config
        interval.address =
      loadWord before.storage.config interval.address
  postAllInfo :
    loadBool (handleSetupSubmit write request before).1.storage.config
        postAllInfoAddress =
      loadBool before.storage.config postAllInfoAddress
  board :
    (handleSetupSubmit write request before).1 =
      { before with
        storage := (handleSetupSubmit write request before).1.storage
        resetDevice := true }

/-- Both handlers, whatever the file system does; without its argument a
handler changes nothing. -/
def HandlersCorrect (request : HttpRequest) (heap : HeapView)
    (before : Board F) : Prop :=
  ∀ write,
    (if request.hasArg ssidArg then
      SubmitCorrect write heap request before
    else (handleSubmit write request before).1 = before) ∧
    (if request.hasArg deviceInfoArg then
      SetupSubmitCorrect write request before
    else (handleSetupSubmit write request before).1 = before)

/-- The credentials contain no NUL and leave room for their terminators. -/
structure CredentialsFit (request : HttpRequest) : Prop where
  ssidNonzero : ∀ byte ∈ request.arg ssidArg, byte ≠ 0
  ssidLength : (request.arg ssidArg).length ≤ 63
  ssidPassNonzero : ∀ byte ∈ request.arg ssidPassArg, byte ≠ 0
  ssidPassLength : (request.arg ssidPassArg).length ≤ 31

/-- Every argument a handler copies fits its array.  Of `DI` only the
characters in front of its first NUL are copied. -/
def ArgumentsFit (request : HttpRequest) : Prop :=
  (request.hasArg ssidArg = true → CredentialsFit request) ∧
    (request.hasArg deviceInfoArg = true →
      (cStr (request.arg deviceInfoArg)).length ≤ 179)

theorem handleSubmit_config {request : HttpRequest}
    (present : request.hasArg ssidArg = true) (write : WriteOutcome)
    (before : Board F) :
    (handleSubmit write request before).1.storage.config =
      submitConfig request before.storage.config := by
  rw [handleSubmit, if_pos present, saveConfig_config]

theorem handleSetupSubmit_config {request : HttpRequest}
    (present : request.hasArg deviceInfoArg = true) (write : WriteOutcome)
    (before : Board F) :
    (handleSetupSubmit write request before).1.storage.config =
      setupSubmitConfig request before.storage.config := by
  rw [handleSetupSubmit, if_pos present, saveConfig_config]

/-- A copy that fits leaves every byte outside of its array alone. -/
theorem strcpy_outside {address size position : Nat} {text : Bytes}
    (config : Memory) (fits : text.length < size)
    (outside : position ∉ arrayBytes address size) :
    strcpy config address text position = config position := by
  apply strcpy_frame
  intro written
  exact outside (footprint_inside_iff.mpr fits written)

theorem interval_outside (interval : Interval) {offset address size : Nat}
    (inside : offset < 4) (below : address + size ≤ 276) :
    interval.address + offset ∉ arrayBytes address size := by
  have lower := interval.address_bounds.1
  simp only [ssidPassAddress, ssidPassSize] at lower
  rw [arrayBytes, Set.mem_Ico]
  omega

theorem postAllInfo_outside {address size : Nat}
    (below : address + size ≤ 276) :
    postAllInfoAddress ∉ arrayBytes address size := by
  rw [arrayBytes, Set.mem_Ico, postAllInfoAddress]
  omega

def CredentialsFit.credentials {request : HttpRequest}
    (fits : CredentialsFit request) : Credentials where
  ssidName := ⟨request.arg ssidArg, fits.ssidNonzero,
    Nat.lt_succ_of_le fits.ssidLength⟩
  ssidPass := ⟨request.arg ssidPassArg, fits.ssidPassNonzero,
    Nat.lt_succ_of_le fits.ssidPassLength⟩

theorem CredentialsFit.carries {request : HttpRequest}
    (fits : CredentialsFit request) :
    Carries request fits.credentials where
  ssidName := cStr_eq_self fits.ssidNonzero
  ssidPass := cStr_eq_self fits.ssidPassNonzero

theorem submitConfig_outside {request : HttpRequest}
    (fits : CredentialsFit request) (config : Memory) {position : Nat}
    (outsideName : position ∉ arrayBytes ssidNameAddress ssidNameSize)
    (outsidePass : position ∉ arrayBytes ssidPassAddress ssidPassSize) :
    submitConfig request config position = config position := by
  rw [fits.carries.submitConfig_eq,
    strcpy_outside _ fits.credentials.ssidPass.fits outsidePass,
    strcpy_outside _ fits.credentials.ssidName.fits outsideName]

theorem submitCorrect_of_fit {request : HttpRequest}
    (present : request.hasArg ssidArg = true)
    (fits : CredentialsFit request) (write : WriteOutcome)
    (heap : HeapView) (before : Board F) :
    SubmitCorrect write heap request before := by
  have config := handleSubmit_config present write before
  have carries := fits.carries
  constructor
  · rw [config, carries.ssidName]
    exact copyStaysInside_of_holds (carries.ssidName_holds _)
      fits.credentials.ssidName.fits
  · rw [config, carries.ssidPass]
    exact copyStaysInside_of_holds (carries.ssidPass_holds _)
      fits.credentials.ssidPass.fits
  · intro position outsideName outsidePass
    rw [config]
    exact submitConfig_outside fits _ outsideName outsidePass
  · intro interval
    apply loadWord_of_agree
    intro offset inside
    rw [config]
    exact submitConfig_outside fits _
      (interval_outside interval inside (by decide))
      (interval_outside interval inside (by decide))
  · rw [config, loadBool, loadBool,
      submitConfig_outside fits _ (postAllInfo_outside (by decide))
        (postAllInfo_outside (by decide))]
  · rw [handleSubmit, if_pos present]
  · intro complete _
    obtain ⟨restored, loaded, arguments⟩ :=
      carries.beginArguments_eq before.storage.config heap zeroConfig
    refine ⟨restored, ?_, arguments⟩
    rw [handleSubmit, if_pos present, complete, saveConfig_complete]
    exact loaded

theorem setupSubmitCorrect_of_fit {request : HttpRequest}
    (present : request.hasArg deviceInfoArg = true)
    (fits : (cStr (request.arg deviceInfoArg)).length ≤ 179)
    (write : WriteOutcome) (before : Board F) :
    SetupSubmitCorrect write request before := by
  have config := handleSetupSubmit_config present write before
  have inside : (cStr (request.arg deviceInfoArg)).length <
      connectionStringSize := Nat.lt_succ_of_le fits
  constructor
  · rw [config]
    exact copyStaysInside_of_holds
      (strcpy_holds _ _ _ (cStr_nonzero _)) inside
  · intro position outside
    rw [config]
    exact strcpy_outside _ inside outside
  · intro interval
    apply loadWord_of_agree
    intro offset below
    rw [config]
    exact strcpy_outside _ inside
      (interval_outside interval below (by decide))
  · rw [config, loadBool, loadBool, setupSubmitConfig,
      strcpy_outside _ inside (postAllInfo_outside (by decide))]
  · rw [handleSetupSubmit, if_pos present]

/-- The footprints bound the lengths, and a NUL inside an argument is lost on
the way to the file. -/
theorem credentialsFit_of_correct {request : HttpRequest}
    {heap : HeapView} {before : Board F}
    (present : request.hasArg ssidArg = true)
    (correct : SubmitCorrect .complete heap request before) :
    CredentialsFit request := by
  have nameLength : (cStr (request.arg ssidArg)).length < ssidNameSize :=
    footprint_inside_iff.mp correct.ssidName.written
  have passLength :
      (cStr (request.arg ssidPassArg)).length < ssidPassSize :=
    footprint_inside_iff.mp correct.ssidPass.written
  have carries : Carries request
      ⟨⟨_, cStr_nonzero _, nameLength⟩, ⟨_, cStr_nonzero _, passLength⟩⟩ :=
    ⟨rfl, rfl⟩
  obtain ⟨stored, storedLoaded, storedArguments⟩ :=
    carries.beginArguments_eq before.storage.config heap zeroConfig
  have answered : (handleSubmit .complete request before).2 =
      thankYouPage := by
    rw [handleSubmit, if_pos present]
  obtain ⟨restored, loaded, arguments⟩ := correct.reloaded rfl answered
  have same : LoadOutcome.loaded restored = .loaded stored := by
    rw [← loaded, ← storedLoaded, handleSubmit, if_pos present,
      saveConfig_complete]
  cases same
  have equal := storedArguments.symm.trans arguments
  have sameName : cStr (request.arg ssidArg) = request.arg ssidArg :=
    congrArg Prod.fst equal
  have samePass : cStr (request.arg ssidPassArg) = request.arg ssidPassArg :=
    congrArg Prod.snd equal
  exact
    { ssidNonzero := sameName ▸ cStr_nonzero _
      ssidLength := Nat.le_of_lt_succ (sameName ▸ nameLength)
      ssidPassNonzero := samePass ▸ cStr_nonzero _
      ssidPassLength := Nat.le_of_lt_succ (samePass ▸ passLength) }

/-- The handlers do what the portal promises exactly when every argument fits
its array. -/
theorem handlersCorrect_iff_argumentsFit
    (request : HttpRequest) (heap : HeapView) (before : Board F) :
    HandlersCorrect request heap before ↔ ArgumentsFit request := by
  constructor
  · intro correct
    obtain ⟨submit, setup⟩ := correct .complete
    refine ⟨fun present => ?_, fun present => ?_⟩
    · rw [if_pos present] at submit
      exact credentialsFit_of_correct present submit
    · rw [if_pos present] at setup
      exact Nat.le_of_lt_succ
        (footprint_inside_iff.mp setup.connectionString.written)
  · rintro ⟨credentials, deviceInfo⟩ write
    constructor
    · split
      case isTrue present =>
        exact submitCorrect_of_fit present (credentials present) write heap
          before
      case isFalse absent => rw [handleSubmit, if_neg absent]
    · split
      case isTrue present =>
        exact setupSubmitCorrect_of_fit present (deviceInfo present) write
          before
      case isFalse absent => rw [handleSetupSubmit, if_neg absent]

end Handlers

/-- A network name with a passphrase of forty characters. -/
def longPassphraseRequest : HttpRequest where
  uri := bytesOf "/"
  args := [(ssidArg, bytesOf "net"), (ssidPassArg, List.replicate 40 65)]

private theorem longPassphrase_interval :
    loadWord (submitConfig longPassphraseRequest zeroConfig)
      (Interval.address .deepSleepInt) = 0x41414141 := by
  decide +kernel

theorem not_handlersCorrect_longPassphrase :
    ¬ HandlersCorrect longPassphraseRequest ⟨[], 0⟩
      (Board.powerUp none : Board ℚ) := by
  intro correct
  have present : longPassphraseRequest.hasArg ssidArg = true := by decide
  have submit := (correct .complete).1
  rw [if_pos present] at submit
  have unchanged := submit.interval .deepSleepInt
  rw [handleSubmit_config present] at unchanged
  have overwritten := longPassphrase_interval.symm.trans unchanged
  exact absurd overwritten (by decide)

end FunnelDispenser.Provisioning
