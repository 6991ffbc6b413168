import FunnelDispenser.Library.CMemory

/-!
# The configuration record

`DeviceConfig` as it lies in memory, field by field at its offset from the
start of the record, and as a value.  A `Settings` value carries the proofs
that its strings fit their arrays; `Represents` connects the two.
-/

namespace FunnelDispenser.Config

open CMemory

/-- The data memory of the chip, the end of every unbounded string read. -/
def ramSize : Nat := 81920

abbrev connectionStringAddress : Nat := 0
abbrev connectionStringSize : Nat := 180

abbrev ssidNameAddress : Nat := 180
abbrev ssidNameSize : Nat := 64

abbrev ssidPassAddress : Nat := 244
abbrev ssidPassSize : Nat := 32

abbrev postAllInfoAddress : Nat := 296

/-- The five `int` fields. -/
inductive Interval where
  | deepSleepInt
  | tempPostInt
  | distancePostInt
  | batteryStateInt
  | allStateInt
deriving DecidableEq, Repr

namespace Interval

def address : Interval → Nat
  | .deepSleepInt => 276
  | .tempPostInt => 280
  | .distancePostInt => 284
  | .batteryStateInt => 288
  | .allStateInt => 292

def key : Interval → Bytes
  | .deepSleepInt => bytesOf "DSI"
  | .tempPostInt => bytesOf "TPI"
  | .distancePostInt => bytesOf "DPI"
  | .batteryStateInt => bytesOf "BSI"
  | .allStateInt => bytesOf "ASI"

/-- The order in which the code goes through the fields. -/
def all : List Interval :=
  [.deepSleepInt, .tempPostInt, .distancePostInt, .batteryStateInt,
    .allStateInt]

theorem mem_all (interval : Interval) : interval ∈ all := by
  cases interval <;> decide

theorem address_bounds (interval : Interval) :
    ssidPassAddress + ssidPassSize ≤ interval.address ∧
      interval.address + 4 ≤ postAllInfoAddress := by
  cases interval <;> decide

theorem address_disjoint {left right : Interval} (different : left ≠ right) :
    left.address + 4 ≤ right.address ∨ right.address + 4 ≤ left.address := by
  cases left <;> cases right <;> first | exact absurd rfl different | decide

end Interval

/-- The C string in a field, up to its NUL. -/
def fieldText (config : Memory) (address : Nat) : Bytes :=
  readCString ramSize config address

theorem fieldText_eq_nil_iff {config : Memory} {address : Nat} :
    fieldText config address = [] ↔ config address = 0 := by
  change (if config address = 0 then [] else _ :: _) = [] ↔ _
  split
  · exact iff_of_true rfl ‹_›
  · exact iff_of_false (List.cons_ne_nil _ _) ‹_›

def loadBool (config : Memory) (address : Nat) : Bool :=
  config address ≠ 0

def storeBool (config : Memory) (address : Nat) (value : Bool) : Memory :=
  Function.update config address (if value then 1 else 0)

/-- `DeviceConfig` before anything was loaded. -/
def zeroConfig : Memory := fun _ => 0

/-- A text that fits a `char` array of `size` bytes with its terminator. -/
structure FieldText (size : Nat) where
  text : Bytes
  nonzero : ∀ byte ∈ text, byte ≠ 0
  fits : text.length < size
deriving DecidableEq

namespace FieldText

def empty (size : Nat) (positive : 0 < size) : FieldText size :=
  ⟨[], by simp, positive⟩

end FieldText

/-- The values of the nine fields.  A connection string without a NUL in its
own array runs on behind it; `reach` bounds where it ends. -/
structure Fields (reach : Nat) where
  connectionString : FieldText reach
  ssidName : FieldText ssidNameSize
  ssidPass : FieldText ssidPassSize
  interval : Interval → BitVec 32
  postAllInfo : Bool

/-- The value of a configuration whose strings fit their arrays. -/
abbrev Settings := Fields connectionStringSize

theorem Settings.lengths_lt (settings : Settings) :
    settings.connectionString.text.length < 180 ∧
      settings.ssidName.text.length < 64 ∧
      settings.ssidPass.text.length < 32 :=
  ⟨settings.connectionString.fits, settings.ssidName.fits,
    settings.ssidPass.fits⟩

/-- Memory holds these values. -/
structure Represents {reach : Nat} (config : Memory)
    (settings : Fields reach) : Prop where
  connectionString :
    HoldsCString config connectionStringAddress settings.connectionString.text
  ssidName : HoldsCString config ssidNameAddress settings.ssidName.text
  ssidPass : HoldsCString config ssidPassAddress settings.ssidPass.text
  interval : ∀ interval : Interval,
    loadWord config interval.address = settings.interval interval
  postAllInfo : loadBool config postAllInfoAddress = settings.postAllInfo

theorem fieldText_of_holds
    {config : Memory} {address size : Nat} (text : FieldText size)
    (held : HoldsCString config address text.text) (room : size ≤ ramSize) :
    fieldText config address = text.text :=
  held.readCString_eq (Nat.lt_of_lt_of_le text.fits room)

section Represented

variable {reach : Nat} {config : Memory} {settings : Fields reach}
variable (represents : Represents config settings)
include represents

theorem Represents.connectionString_eq (within : reach ≤ ramSize) :
    fieldText config connectionStringAddress =
      settings.connectionString.text :=
  fieldText_of_holds _ represents.connectionString within

theorem Represents.ssidName_eq :
    fieldText config ssidNameAddress = settings.ssidName.text :=
  fieldText_of_holds _ represents.ssidName (by decide)

theorem Represents.ssidPass_eq :
    fieldText config ssidPassAddress = settings.ssidPass.text :=
  fieldText_of_holds _ represents.ssidPass (by decide)

end Represented

/-- Fill the string fields in the order of the record.  Every copy stays
inside its own array, so no copy disturbs an earlier one. -/
def storeTexts (config : Memory) (connectionString ssidName ssidPass : Bytes) :
    Memory :=
  strcpy (strcpy (strcpy config connectionStringAddress connectionString)
    ssidNameAddress ssidName) ssidPassAddress ssidPass

/-- Store the `int` fields in the order of the record. -/
def storeIntervals (value : Interval → BitVec 32) (config : Memory) :
    List Interval → Memory
  | [] => config
  | interval :: rest =>
      storeIntervals value
        (storeWord config interval.address (value interval)) rest

theorem storeIntervals_frame
    (value : Interval → BitVec 32) (intervals : List Interval)
    (config : Memory) (tested : Nat)
    (outside : ∀ interval ∈ intervals,
      tested < interval.address ∨ interval.address + 4 ≤ tested) :
    storeIntervals value config intervals tested = config tested := by
  induction intervals generalizing config with
  | nil => rfl
  | cons interval rest inductionHypothesis =>
      rw [storeIntervals,
        inductionHypothesis _
          (fun other member => outside other (by simp [member])),
        storeWord_frame _ _ _ _ (outside interval (by simp))]

/-- A stored field keeps its value under the stores behind it. -/
theorem loadWord_storeIntervals
    (value : Interval → BitVec 32) (intervals : List Interval)
    (distinct : intervals.Nodup) (config : Memory) {interval : Interval}
    (member : interval ∈ intervals) :
    loadWord (storeIntervals value config intervals) interval.address =
      value interval := by
  induction intervals generalizing config with
  | nil => simp at member
  | cons first rest inductionHypothesis =>
      obtain ⟨notInRest, restDistinct⟩ := List.nodup_cons.mp distinct
      rw [storeIntervals]
      rcases List.mem_cons.mp member with rfl | inRest
      · rw [← loadWord_storeWord config interval.address (value interval)]
        apply loadWord_of_agree
        intro offset bound
        rw [loadWord_storeWord]
        apply storeIntervals_frame
        intro other otherMember
        have different : other ≠ interval := by
          rintro rfl
          exact notInRest otherMember
        have apart := Interval.address_disjoint different
        omega
      · exact inductionHypothesis restDistinct _ inRest

theorem storeBool_frame
    (config : Memory) (address tested : Nat) (value : Bool)
    (different : tested ≠ address) :
    storeBool config address value tested = config tested :=
  Function.update_of_ne different _ _

theorem loadBool_storeBool
    (config : Memory) (address : Nat) (value : Bool) :
    loadBool (storeBool config address value) address = value := by
  cases value <;> simp [loadBool, storeBool]

def storeNumbers (value : Interval → BitVec 32) (flag : Bool)
    (config : Memory) : Memory :=
  storeBool (storeIntervals value config Interval.all) postAllInfoAddress flag

theorem storeNumbers_frame
    (value : Interval → BitVec 32) (flag : Bool) (config : Memory)
    {tested : Nat} (bound : tested < ssidPassAddress + ssidPassSize) :
    storeNumbers value flag config tested = config tested := by
  have below : tested < 276 := bound
  rw [storeNumbers, storeBool_frame _ _ _ _
    (by simp only [postAllInfoAddress]; omega)]
  apply storeIntervals_frame
  intro interval _
  exact Or.inl (Nat.lt_of_lt_of_le bound interval.address_bounds.1)

theorem storeNumbers_holds
    {config : Memory} {address : Nat} {text : Bytes}
    (value : Interval → BitVec 32) (flag : Bool)
    (held : HoldsCString config address text)
    (bound : address + text.length < ssidPassAddress + ssidPassSize) :
    HoldsCString (storeNumbers value flag config) address text := by
  apply held.of_agree
  intro offset inside
  apply storeNumbers_frame
  omega

/-- The copy of the name starts afresh, however far the connection string
ran. -/
theorem storeTexts_ssidName
    (config : Memory) (connectionString : Bytes)
    (ssidName : FieldText ssidNameSize) (ssidPass : Bytes) :
    HoldsCString
      (storeTexts config connectionString ssidName.text ssidPass)
      ssidNameAddress ssidName.text := by
  have bound : ssidName.text.length < 64 := ssidName.fits
  apply (strcpy_holds _ _ _ ssidName.nonzero).strcpy_disjoint
  simp only [ssidNameAddress, ssidPassAddress]
  omega

def storeSettings (config : Memory) (settings : Settings) : Memory :=
  storeNumbers settings.interval settings.postAllInfo
    (storeTexts config settings.connectionString.text
      settings.ssidName.text settings.ssidPass.text)

/-- Storing every field makes memory represent the settings, whatever was
there before. -/
theorem represents_storeSettings (config : Memory) (settings : Settings) :
    Represents (storeSettings config settings) settings := by
  obtain ⟨connectionBound, nameBound, passBound⟩ := settings.lengths_lt
  refine ⟨?_, ?_, ?_, ?_, loadBool_storeBool _ _ _⟩
  · have copied := strcpy_holds config connectionStringAddress
      settings.connectionString.text settings.connectionString.nonzero
    apply storeNumbers_holds _ _
      ((copied.strcpy_disjoint ?_).strcpy_disjoint ?_)
    · simp only [connectionStringAddress, ssidPassAddress, ssidPassSize]
      omega
    · simp only [connectionStringAddress, ssidNameAddress]
      omega
    · simp only [connectionStringAddress, ssidPassAddress]
      omega
  · apply storeNumbers_holds _ _ (storeTexts_ssidName _ _ _ _)
    simp only [ssidNameAddress, ssidPassAddress, ssidPassSize]
    omega
  · apply storeNumbers_holds _ _
      (strcpy_holds _ _ _ settings.ssidPass.nonzero)
    simp only [ssidPassAddress, ssidPassSize]
    omega
  · intro interval
    rw [← loadWord_storeIntervals settings.interval Interval.all (by decide)
      (storeTexts config settings.connectionString.text
        settings.ssidName.text settings.ssidPass.text) interval.mem_all]
    apply loadWord_of_agree
    intro offset bound
    apply storeBool_frame
    have bound := interval.address_bounds.2
    omega

def Settings.withCredentials (settings : Settings)
    (ssidName : FieldText ssidNameSize) (ssidPass : FieldText ssidPassSize) :
    Settings :=
  { settings with ssidName := ssidName, ssidPass := ssidPass }

/-- Two copies that fit their arrays replace the credentials and nothing
else. -/
theorem Represents.strcpyCredentials {config : Memory} {settings : Settings}
    (represents : Represents config settings)
    (ssidName : FieldText ssidNameSize) (ssidPass : FieldText ssidPassSize) :
    Represents
      (strcpy (strcpy config ssidNameAddress ssidName.text)
        ssidPassAddress ssidPass.text)
      (settings.withCredentials ssidName ssidPass) := by
  have connectionBound : settings.connectionString.text.length < 180 :=
    settings.connectionString.fits
  have nameBound : ssidName.text.length < 64 := ssidName.fits
  have passBound : ssidPass.text.length < 32 := ssidPass.fits
  refine ⟨?_, ?_, strcpy_holds _ _ _ ssidPass.nonzero, fun interval => ?_, ?_⟩
  · refine (represents.connectionString.strcpy_disjoint ?_).strcpy_disjoint ?_
    · simp only [connectionStringAddress, ssidNameAddress]
      omega
    · simp only [connectionStringAddress, ssidPassAddress]
      omega
  · apply (strcpy_holds _ _ _ ssidName.nonzero).strcpy_disjoint
    simp only [ssidNameAddress, ssidPassAddress]
    omega
  · have lower := interval.address_bounds.1
    simp only [ssidPassAddress, ssidPassSize] at lower
    rw [loadWord_strcpy_disjoint _ _ _ _ (by
        simp only [ssidPassAddress]
        omega),
      loadWord_strcpy_disjoint _ _ _ _ (by
        simp only [ssidNameAddress]
        omega)]
    exact represents.interval interval
  · rw [loadBool, strcpy_frame _ _ _ _ (by
        simp only [strcpyFootprint, Set.mem_Icc, ssidPassAddress,
          postAllInfoAddress]
        omega),
      strcpy_frame _ _ _ _ (by
        simp only [strcpyFootprint, Set.mem_Icc, ssidNameAddress,
          postAllInfoAddress]
        omega)]
    exact represents.postAllInfo

end FunnelDispenser.Config
