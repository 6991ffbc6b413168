import FunnelDispenser.Config.Layout
import FunnelDispenser.Provisioning.DeviceId

/-!
# The name of the access point

`InitAccessPoint` names the access point after the device id, with a suffix
behind it, in a buffer on its stack.
-/

namespace FunnelDispenser.Provisioning

open CMemory Config

abbrev maxDeviceIdSize : Nat := 20

def apSsid : Bytes := bytesOf "IOTDispenserAP"

def apSuffix : Bytes := bytesOf "_AP"

/-- The stack that is left, and the names `WiFi.softAP` was called with. -/
structure AccessPointEnd where
  memory : Memory
  softApCalls : List Bytes

/-- `InitAccessPoint` with its buffer at `ssid`; `none` is a read past the end
of the connection string. -/
def initAccessPoint (connectionString : Bytes) (ssid : Nat)
    (memory : Memory) : Option AccessPointEnd :=
  if connectionString.length ≠ 0 then
    match getDeviceId (some (connectionString ++ [0])) (some ssid)
        (BitVec.ofNat 32 maxDeviceIdSize) memory with
    | none => none
    | some (result, filled) =>
        if result > 0 then
          let named := strcat ramSize filled ssid apSuffix
          some ⟨named, [readCString ramSize named ssid]⟩
        else
          some ⟨filled, []⟩
  else
    some ⟨memory, [apSsid]⟩

/-- One access point comes up under a name that is a C string in the buffer
or the constant, and nothing outside of the buffer is written. -/
def AccessPointUp (connectionString : Bytes) : Prop :=
  ∀ ssid memory, ∃ after name,
    initAccessPoint connectionString ssid memory = some ⟨after, [name]⟩ ∧
      name ≠ [] ∧
      (HoldsCString after ssid name ∨ name = apSsid) ∧
      ∀ position, position ∉ Set.Ico ssid (ssid + maxDeviceIdSize) →
        after position = memory position

def DeviceIdFits (connectionString : Bytes) : Prop :=
  ∃ found, referenceDeviceId connectionString = some found ∧
    0 < found.length ∧ found.length ≤ 16

/-- What is in the buffer in front of the suffix. -/
def idPart (found : Bytes) : Bytes :=
  found.take (maxDeviceIdSize - 1)

section Named

variable {connectionString : Bytes}
variable (nonzero : ∀ byte ∈ connectionString, byte ≠ 0)
variable (present : connectionString ≠ [])
include nonzero present

theorem initAccessPoint_none (ssid : Nat) (memory : Memory)
    (missing : referenceDeviceId connectionString = none) :
    initAccessPoint connectionString ssid memory = some ⟨memory, []⟩ := by
  have stored : connectionString.length ≠ 0 := by simpa using present
  simp only [initAccessPoint, stored, ne_eq, not_false_eq_true, if_true,
    getDeviceId_eq connectionString nonzero (some ssid)
      (BitVec.ofNat 32 maxDeviceIdSize) (by decide) memory, missing]
  rfl

theorem initAccessPoint_found (ssid : Nat) (memory : Memory) {found : Bytes}
    (reference : referenceDeviceId connectionString = some found) :
    initAccessPoint connectionString ssid memory =
      if 0 < found.length then
        some ⟨strcpy memory ssid (idPart found ++ apSuffix),
          [idPart found ++ apSuffix]⟩
      else
        some ⟨strcpy memory ssid (idPart found), []⟩ := by
  have stored : connectionString.length ≠ 0 := by simpa using present
  have foundNonzero : ∀ byte ∈ found, byte ≠ 0 :=
    (scanAgrees connectionString nonzero).1 found reference
  have partNonzero : ∀ byte ∈ idPart found, byte ≠ 0 := fun byte member =>
    foundNonzero byte (List.mem_of_mem_take member)
  have suffixNonzero : ∀ byte ∈ apSuffix, byte ≠ 0 :=
    nonzero_of_all (by decide)
  have partLength : (idPart found).length ≤ 19 := by
    simp [idPart]
  have appended : strcat ramSize (strcpy memory ssid (idPart found)) ssid
      apSuffix = strcpy memory ssid (idPart found ++ apSuffix) := by
    apply strcat_strcpy _ _ partNonzero
    simp only [ramSize]
    omega
  have name : readCString ramSize
      (strcpy memory ssid (idPart found ++ apSuffix)) ssid =
        idPart found ++ apSuffix := by
    apply (strcpy_holds _ _ _ _).readCString_eq
    · have suffixLength : apSuffix.length = 3 := by decide
      rw [List.length_append, suffixLength]
      simp only [ramSize]
      omega
    · intro byte member
      rcases List.mem_append.mp member with inPart | inSuffix
      · exact partNonzero byte inPart
      · exact suffixNonzero byte inSuffix
  have size : (BitVec.ofNat 32 maxDeviceIdSize).toNat - 1 =
      maxDeviceIdSize - 1 := by decide
  simp only [initAccessPoint, stored, ne_eq, not_false_eq_true, if_true,
    getDeviceId_eq connectionString nonzero (some ssid)
      (BitVec.ofNat 32 maxDeviceIdSize) (by decide) memory, reference, size]
  simp only [idPart] at appended name ⊢
  rw [appended, name]

/-- A suffix behind at most sixteen bytes stays in the buffer. -/
theorem accessPointUp_of_fits (fits : DeviceIdFits connectionString) :
    AccessPointUp connectionString := by
  obtain ⟨found, reference, nonempty, short⟩ := fits
  intro ssid memory
  have suffixLength : apSuffix.length = 3 := by decide
  have length : (idPart found ++ apSuffix).length ≤ 19 := by
    rw [List.length_append, suffixLength, idPart, List.length_take]
    omega
  have nameNonzero : ∀ byte ∈ idPart found ++ apSuffix, byte ≠ 0 := by
    intro byte member
    rcases List.mem_append.mp member with inPart | inSuffix
    · exact (scanAgrees connectionString nonzero).1 found reference byte
        (List.mem_of_mem_take inPart)
    · exact nonzero_of_all (by decide) byte inSuffix
  refine ⟨_, _, ?_, ?_, Or.inl (strcpy_holds memory ssid _ nameNonzero),
    fun position outside => ?_⟩
  · rw [initAccessPoint_found nonzero present ssid memory reference,
      if_pos nonempty]
  · intro empty
    have lengths := congrArg List.length empty
    rw [List.length_append, suffixLength, List.length_nil] at lengths
    omega
  · apply strcpy_frame
    rw [Set.mem_Ico] at outside
    rw [strcpyFootprint, Set.mem_Icc]
    simp only [maxDeviceIdSize] at outside
    omega

/-- A longer id pushes the suffix over the end of the buffer. -/
theorem not_accessPointUp_of_long {found : Bytes}
    (reference : referenceDeviceId connectionString = some found)
    (long : 17 ≤ found.length) : ¬ AccessPointUp connectionString := by
  intro up
  obtain ⟨after, name, result, _, _, frame⟩ := up 0 fun _ => 7
  rw [initAccessPoint_found nonzero present 0 _ reference,
    if_pos (by omega)] at result
  obtain ⟨rfl, rfl⟩ : strcpy (fun _ => 7) 0 (idPart found ++ apSuffix) =
      after ∧ idPart found ++ apSuffix = name := by
    simpa using result
  -- the first byte behind the buffer is the second one of the suffix or later
  have behind := frame 20 (by simp)
  have partLength : (idPart found).length = min 19 found.length :=
    List.length_take
  have split := strcpy_append (fun _ => 7) 0 (idPart found) apSuffix
  rw [← split, Nat.zero_add] at behind
  have suffix : apSuffix = [95, 65, 80] := by decide
  have cases : (idPart found).length = 17 ∨ (idPart found).length = 18 ∨
      (idPart found).length = 19 := by omega
  rcases cases with length | length | length <;>
    simp [length, suffix, strcpy] at behind

end Named

/-- The access point comes up, and only the buffer is written, exactly when
there is no connection string or a device id of one to sixteen bytes. -/
theorem accessPointUp_iff
    (connectionString : FieldText connectionStringSize) :
    AccessPointUp connectionString.text ↔
      connectionString.text = [] ∨ DeviceIdFits connectionString.text := by
  by_cases present : connectionString.text = []
  · refine iff_of_true ?_ (Or.inl present)
    intro ssid memory
    rw [present]
    exact ⟨memory, apSsid, rfl, by decide, Or.inr rfl, fun _ _ => rfl⟩
  · have nonzero := connectionString.nonzero
    rw [or_iff_right present]
    refine ⟨fun up => ?_, accessPointUp_of_fits nonzero present⟩
    obtain ⟨after, name, result, _⟩ := up 0 fun _ => 0
    cases reference : referenceDeviceId connectionString.text with
    | none =>
        rw [initAccessPoint_none nonzero present 0 _ reference] at result
        simp at result
    | some found =>
        by_cases long : 17 ≤ found.length
        · exact absurd up
            (not_accessPointUp_of_long nonzero present reference long)
        · refine ⟨found, reference, ?_, by omega⟩
          by_contra empty
          rw [initAccessPoint_found nonzero present 0 _ reference,
            if_neg (by omega)] at result
          simp at result

def longIdConnectionString : Bytes :=
  bytesOf "HostName=hub;DeviceId=dispenser-floor-2-east"

private theorem referenceDeviceId_longId :
    referenceDeviceId longIdConnectionString =
      some (bytesOf "dispenser-floor-2-east") := by
  decide +kernel

theorem not_accessPointUp_longId : ¬ AccessPointUp longIdConnectionString :=
  not_accessPointUp_of_long (nonzero_of_all (by decide +kernel))
    (by decide +kernel) referenceDeviceId_longId (by decide +kernel)

end FunnelDispenser.Provisioning
