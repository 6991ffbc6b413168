import FunnelDispenser.Library.CMemory

/-!
# The device id in a connection string

`GetDeviceId` scans the connection string once.  A pointer into the string is
modelled by the bytes that can be read from it on; reading where nothing is
left is a fault.  The scan finds the first `;`-separated field that begins
with the key, as splitting the string would.
-/

namespace FunnelDispenser.Provisioning

open CMemory

def deviceIdKey : Bytes := bytesOf "DeviceId="

def semicolon : UInt8 := 59

/-- `strncmp(runStr, expected, _) == 0`, byte after byte up to the first
difference. -/
def startsWith : (expected runStr : Bytes) → Option Bool
  | [], _ => some true
  | _ :: _, [] => none
  | byte :: rest, found :: behind =>
      if found = byte then startsWith rest behind else some false

/-- `ustate`: whether the next byte begins a field. -/
inductive FieldState where
  | fieldStart
  | insideField
deriving DecidableEq, Repr

/-- The loop of `GetDeviceId`; `none` is a read past the end.  The result is
the final `runStr` and `start`. -/
def scanDeviceId (runStr : Bytes) (ustate : FieldState)
    (start : Option Bytes) : Option (Bytes × Option Bytes) :=
  match runStr with
  | [] => none
  | byte :: rest =>
      if byte = 0 then
        some (byte :: rest, start)
      else
        match ustate with
        | .fieldStart =>
            match startsWith deviceIdKey (byte :: rest) with
            | none => none
            | some true =>
                scanDeviceId ((byte :: rest).drop 9) .insideField
                  (some ((byte :: rest).drop 9))
            | some false => scanDeviceId (byte :: rest) .insideField start
        | .insideField =>
            if byte = semicolon then
              match start with
              | none => scanDeviceId rest .fieldStart none
              | some _ => some (byte :: rest, start)
            else
              scanDeviceId rest .insideField start
termination_by (runStr.length, if ustate = .fieldStart then 1 else 0)

/-- The copy loop; it leaves the address behind the last byte. -/
def copyDeviceId (limit : Nat) (runStr : Bytes) :
    (start : Bytes) → (i deviceId : Nat) → Memory → Nat × Memory
  | [], _, deviceId, memory => (deviceId, memory)
  | byte :: rest, i, deviceId, memory =>
      if i < limit ∧ runStr.length < (byte :: rest).length then
        copyDeviceId limit runStr rest (i + 1) (deviceId + 1)
          (Function.update memory deviceId byte)
      else
        (deviceId, memory)

/-- `GetDeviceId`: the result and the memory it leaves. -/
def getDeviceId (connectionString : Option Bytes) (deviceId : Option Nat)
    (size : BitVec 32) (memory : Memory) : Option (Nat × Memory) :=
  match connectionString with
  | none => some (0, memory)
  | some connectionString =>
      match scanDeviceId connectionString .fieldStart none with
      | none => none
      | some (_, none) => some (0, memory)
      | some (runStr, some start) =>
          let result := start.length - runStr.length
          match deviceId with
          | none => some (result, memory)
          | some deviceId =>
              let (last, copied) :=
                copyDeviceId (size - 1#32).toNat runStr start 0 deviceId
                  memory
              some (result, Function.update copied last 0)

/-- In front of a terminator the comparison needs no byte behind it. -/
theorem startsWith_terminated {expected text : Bytes} {stop : UInt8}
    (behind : Bytes) (apart : stop ∉ expected) :
    startsWith expected (text ++ stop :: behind) =
      some (expected.isPrefixOf text) := by
  induction expected generalizing text with
  | nil => simp [startsWith]
  | cons byte rest inductionHypothesis =>
      obtain ⟨different, restApart⟩ : stop ≠ byte ∧ stop ∉ rest := by
        simpa using apart
      cases text with
      | nil => simp [startsWith, different]
      | cons found more =>
          rw [List.cons_append, startsWith, List.isPrefixOf_cons_cons]
          by_cases same : found = byte
          · rw [if_pos same, inductionHypothesis restApart, same,
              beq_self_eq_true, Bool.true_and]
          · have unequal : (byte == found) = false := by
              simpa using fun equal : byte = found => same equal.symm
            rw [if_neg same, unequal, Bool.false_and]

def PlainField (field : Bytes) : Prop :=
  ∀ byte ∈ field, byte ≠ 0 ∧ byte ≠ semicolon

theorem scanDeviceId_inside {field : Bytes} (plain : PlainField field)
    (behind : Bytes) (start : Option Bytes) :
    scanDeviceId (field ++ behind) .insideField start =
      scanDeviceId behind .insideField start := by
  induction field with
  | nil => rfl
  | cons byte rest inductionHypothesis =>
      obtain ⟨nonzero, other⟩ := plain byte List.mem_cons_self
      rw [List.cons_append, scanDeviceId.eq_def]
      simp only [nonzero, other, if_false]
      exact inductionHypothesis fun tested member =>
        plain tested (List.mem_cons_of_mem _ member)

theorem scanDeviceId_found {stop : UInt8}
    (ends : stop = 0 ∨ stop = semicolon) (behind start : Bytes) :
    scanDeviceId (stop :: behind) .insideField (some start) =
      some (stop :: behind, some start) := by
  rw [scanDeviceId.eq_def]
  rcases ends with rfl | rfl <;> simp [semicolon]

theorem semicolon_not_mem_key : semicolon ∉ deviceIdKey := by
  decide

theorem zero_not_mem_key : 0 ∉ deviceIdKey := by
  decide

theorem scanDeviceId_matching {field : Bytes} {stop : UInt8}
    (plain : PlainField field) (ends : stop = 0 ∨ stop = semicolon)
    (behind : Bytes) (matching : deviceIdKey.isPrefixOf field = true) :
    scanDeviceId (field ++ stop :: behind) .fieldStart none =
      some (stop :: behind, some (field.drop 9 ++ stop :: behind)) := by
  obtain ⟨text, rfl⟩ := List.isPrefixOf_iff_prefix.mp matching
  have textPlain : PlainField text := fun byte member =>
    plain byte (List.mem_append_right _ member)
  have dropped : ((deviceIdKey ++ text) ++ stop :: behind).drop 9 =
      text ++ stop :: behind := by
    rw [List.append_assoc]
    exact List.drop_left' rfl
  have key : (deviceIdKey ++ text).drop 9 = text := List.drop_left' rfl
  have stopApart : stop ∉ deviceIdKey := by
    rcases ends with rfl | rfl
    · exact zero_not_mem_key
    · exact semicolon_not_mem_key
  have compared :
      startsWith deviceIdKey (deviceIdKey ++ text ++ stop :: behind) =
        some (deviceIdKey.isPrefixOf (deviceIdKey ++ text)) :=
    startsWith_terminated behind stopApart
  rw [matching] at compared
  have shape : ∃ rest, (deviceIdKey ++ text) ++ stop :: behind =
      68 :: rest := ⟨_, rfl⟩
  obtain ⟨rest, shape⟩ := shape
  rw [shape] at compared dropped ⊢
  rw [scanDeviceId.eq_def]
  simp only [compared, dropped]
  rw [if_neg (by decide), scanDeviceId_inside textPlain,
    scanDeviceId_found ends, key]

theorem scanDeviceId_other {field : Bytes} {stop : UInt8}
    (plain : PlainField field) (ends : stop = 0 ∨ stop = semicolon)
    (behind : Bytes) (other : deviceIdKey.isPrefixOf field = false) :
    scanDeviceId (field ++ stop :: behind) .fieldStart none =
      if stop = 0 then some (0 :: behind, none)
      else scanDeviceId behind .fieldStart none := by
  have stopApart : stop ∉ deviceIdKey := by
    rcases ends with rfl | rfl
    · exact zero_not_mem_key
    · exact semicolon_not_mem_key
  have entered : ∀ byte rest, field ++ stop :: behind = byte :: rest →
      byte ≠ 0 →
      scanDeviceId (field ++ stop :: behind) .fieldStart none =
        scanDeviceId (field ++ stop :: behind) .insideField none := by
    intro byte rest shape nonzero
    have compared :
        startsWith deviceIdKey (field ++ stop :: behind) =
          some (deviceIdKey.isPrefixOf field) :=
      startsWith_terminated behind stopApart
    rw [other, shape] at compared
    rw [shape, scanDeviceId.eq_def]
    simp only [nonzero, compared, if_false]
  have passed : scanDeviceId (field ++ stop :: behind) .insideField none =
      if stop = 0 then some (0 :: behind, none)
      else scanDeviceId behind .fieldStart none := by
    rw [scanDeviceId_inside plain, scanDeviceId.eq_def]
    rcases ends with rfl | rfl <;> simp [semicolon]
  cases field with
  | nil =>
      rcases ends with rfl | rfl
      · rw [List.nil_append, scanDeviceId.eq_def]
        rfl
      · rw [entered semicolon behind rfl (by decide), passed]
  | cons byte rest =>
      rw [entered byte (rest ++ stop :: behind) rfl
        (plain byte List.mem_cons_self).1, passed]

/-- What stands behind the key in the first field that begins with it. -/
def referenceDeviceId (text : Bytes) : Option Bytes :=
  ((text.splitOn semicolon).find? fun field =>
    deviceIdKey.isPrefixOf field).map (List.drop 9)

/-- A string is one field, or a field and what follows its semicolon. -/
theorem exists_firstField (text : Bytes) :
    semicolon ∉ text ∨
      ∃ field behind, text = field ++ semicolon :: behind ∧
        semicolon ∉ field := by
  by_cases present : semicolon ∈ text
  · exact Or.inr (List.eq_append_cons_of_mem present)
  · exact Or.inl present

theorem plainField_of_not_mem {field : Bytes}
    (nonzero : ∀ byte ∈ field, byte ≠ 0) (absent : semicolon ∉ field) :
    PlainField field := by
  intro byte member
  refine ⟨nonzero byte member, ?_⟩
  rintro rfl
  exact absent member

/-- How the scan of a whole string ends: `start` is what the reference finds,
a C string again, followed by what is left at `runStr`. -/
def ScanAgrees (text : Bytes) : Prop :=
  (∀ found ∈ referenceDeviceId text, ∀ byte ∈ found, byte ≠ 0) ∧
    ∃ behind, scanDeviceId (text ++ [0]) .fieldStart none =
      some (behind, (referenceDeviceId text).map fun found => found ++ behind)

theorem PlainField.drop_nonzero {field : Bytes} (plain : PlainField field)
    (count : Nat) : ∀ byte ∈ field.drop count, byte ≠ 0 :=
  fun byte member => (plain byte (List.mem_of_mem_drop member)).1

theorem scanAgrees_single {field : Bytes} (plain : PlainField field)
    (absent : semicolon ∉ field) : ScanAgrees field := by
  have whole : field.splitOn semicolon = [field] :=
    List.splitOn_eq_singleton absent
  cases matching : deviceIdKey.isPrefixOf field with
  | true =>
      have found : referenceDeviceId field = some (field.drop 9) := by
        simp [referenceDeviceId, whole, matching]
      rw [ScanAgrees, found]
      refine ⟨?_, [0], scanDeviceId_matching plain (Or.inl rfl) [] matching⟩
      rintro _ ⟨⟩
      exact plain.drop_nonzero 9
  | false =>
      have missing : referenceDeviceId field = none := by
        simp [referenceDeviceId, whole, matching]
      rw [ScanAgrees, missing]
      refine ⟨by simp, [0], ?_⟩
      rw [scanDeviceId_other plain (Or.inl rfl) [] matching, if_pos rfl]
      rfl

theorem scanAgrees_cons {field behind : Bytes} (plain : PlainField field)
    (absent : semicolon ∉ field) (later : ScanAgrees behind) :
    ScanAgrees (field ++ semicolon :: behind) := by
  have split : (field ++ semicolon :: behind).splitOn semicolon =
      field :: behind.splitOn semicolon :=
    List.splitOn_append_cons_self_of_not_mem absent behind
  have joined : (field ++ semicolon :: behind) ++ [0] =
      field ++ semicolon :: (behind ++ [0]) := by
    rw [List.append_assoc, List.cons_append]
  cases matching : deviceIdKey.isPrefixOf field with
  | true =>
      have found : referenceDeviceId (field ++ semicolon :: behind) =
          some (field.drop 9) := by
        simp [referenceDeviceId, split, matching]
      rw [ScanAgrees, found, joined]
      refine ⟨?_, semicolon :: (behind ++ [0]),
        scanDeviceId_matching plain (Or.inr rfl) _ matching⟩
      rintro _ ⟨⟩
      exact plain.drop_nonzero 9
  | false =>
      have passed : referenceDeviceId (field ++ semicolon :: behind) =
          referenceDeviceId behind := by
        simp [referenceDeviceId, split, matching]
      rw [ScanAgrees, passed, joined]
      rw [scanDeviceId_other plain (Or.inr rfl) _ matching,
        if_neg (by decide)]
      exact later

/-- The scan goes from field to field. -/
theorem scanAgrees (text : Bytes) (nonzero : ∀ byte ∈ text, byte ≠ 0) :
    ScanAgrees text := by
  induction length : text.length using Nat.strongRecOn generalizing text with
  | ind count inductionHypothesis =>
      rcases exists_firstField text with absent | ⟨field, behind, rfl, absent⟩
      · exact scanAgrees_single (plainField_of_not_mem nonzero absent) absent
      · have fieldNonzero : ∀ byte ∈ field, byte ≠ 0 := fun byte member =>
          nonzero byte (List.mem_append_left _ member)
        have shorter : behind.length < count := by
          rw [← length, List.length_append, List.length_cons]
          omega
        have later : ScanAgrees behind :=
          inductionHypothesis behind.length shorter behind
            (fun byte member => nonzero byte
              (List.mem_append_right _ (List.mem_cons_of_mem _ member))) rfl
        exact scanAgrees_cons (plainField_of_not_mem fieldNonzero absent)
          absent later

/-- The loop and the final terminator copy as much as the limit allows. -/
theorem copyDeviceId_eq (limit : Nat) (behind text : Bytes)
    (i deviceId : Nat) (memory : Memory) :
    Function.update
        (copyDeviceId limit behind (text ++ behind) i deviceId memory).2
        (copyDeviceId limit behind (text ++ behind) i deviceId memory).1 0 =
      strcpy memory deviceId (text.take (limit - i)) := by
  induction text generalizing i deviceId memory with
  | nil =>
      have stops : copyDeviceId limit behind behind i deviceId memory =
          (deviceId, memory) := by
        cases behind <;> simp [copyDeviceId]
      simp only [List.nil_append, stops, List.take_nil, strcpy]
  | cons byte rest inductionHypothesis =>
      have further : behind.length < (byte :: (rest ++ behind)).length := by
        rw [List.length_cons, List.length_append]
        omega
      rw [List.cons_append, copyDeviceId]
      by_cases room : i < limit
      · have count : limit - i = limit - (i + 1) + 1 := by omega
        rw [if_pos ⟨room, further⟩, inductionHypothesis, count,
          List.take_succ_cons, strcpy]
      · have full : limit - i = 0 := by omega
        rw [if_neg fun both => room both.1, full, List.take_zero, strcpy]

/-- The result and the memory of `GetDeviceId` by what the reference finds. -/
theorem getDeviceId_eq (text : Bytes) (nonzero : ∀ byte ∈ text, byte ≠ 0)
    (deviceId : Option Nat) (size : BitVec 32) (positive : 1 ≤ size.toNat)
    (memory : Memory) :
    getDeviceId (some (text ++ [0])) deviceId size memory =
      some (match referenceDeviceId text, deviceId with
        | none, _ => (0, memory)
        | some found, none => (found.length, memory)
        | some found, some buffer =>
            (found.length,
              strcpy memory buffer (found.take (size.toNat - 1)))) := by
  obtain ⟨_, behind, scanned⟩ := scanAgrees text nonzero
  have limit : (size - 1#32).toNat = size.toNat - 1 :=
    BitVec.toNat_sub_of_le positive
  cases found : referenceDeviceId text with
  | none =>
      rw [found, Option.map_none] at scanned
      simp only [getDeviceId, scanned]
  | some id =>
      rw [found, Option.map_some] at scanned
      have length : (id ++ behind).length - behind.length =
          id.length := by
        rw [List.length_append, Nat.add_sub_cancel]
      cases deviceId with
      | none => simp only [getDeviceId, scanned, length]
      | some buffer =>
          simp only [getDeviceId, scanned, length, copyDeviceId_eq, limit,
            Nat.sub_zero]

/-- `GetDeviceId` never reads past the terminator, returns the length that
splitting and searching gives, and fills the buffer with as much of the id as
fits in front of a NUL. -/
theorem getDeviceId_eq_reference
    (text : Bytes) (nonzero : ∀ byte ∈ text, byte ≠ 0)
    (deviceId : Option Nat) (size : BitVec 32) (positive : 1 ≤ size.toNat)
    (memory : Memory) :
    ∃ after,
      getDeviceId (some (text ++ [0])) deviceId size memory =
        some ((referenceDeviceId text).elim 0 List.length, after) ∧
      match referenceDeviceId text, deviceId with
      | some found, some buffer =>
          HoldsCString after buffer (found.take (size.toNat - 1)) ∧
            ∀ position,
              position ∉
                strcpyFootprint buffer (found.take (size.toNat - 1)) →
              after position = memory position
      | _, _ => after = memory := by
  have foundNonzero := (scanAgrees text nonzero).1
  rw [getDeviceId_eq text nonzero deviceId size positive memory]
  cases found : referenceDeviceId text with
  | none => exact ⟨memory, rfl, rfl⟩
  | some id =>
      cases deviceId with
      | none => exact ⟨memory, rfl, rfl⟩
      | some buffer =>
          refine ⟨_, rfl, strcpy_holds _ _ _ fun byte member => ?_,
            fun position outside => strcpy_frame _ _ _ _ outside⟩
          exact foundNonzero id found byte (List.mem_of_mem_take member)

/-- A connection string with the key inside of its first field as well. -/
def sampleConnectionString : Bytes :=
  bytesOf "HostName=xDeviceId=no;DeviceId=desk;SharedAccessKey=k"

private theorem referenceDeviceId_sample :
    referenceDeviceId sampleConnectionString = some (bytesOf "desk") := by
  decide +kernel

theorem getDeviceId_eq_reference_sample :
    ∃ after,
      getDeviceId (some (sampleConnectionString ++ [0])) (some 100) 20
          (fun _ => 7) =
        some (4, after) ∧
      HoldsCString after 100 (bytesOf "desk") ∧ after 105 = 7 := by
  obtain ⟨after, result, buffer⟩ := getDeviceId_eq_reference
    sampleConnectionString (nonzero_of_all (by decide +kernel)) (some 100) 20
    (by decide) (fun _ => 7)
  rw [referenceDeviceId_sample] at result buffer
  refine ⟨after, result, buffer.1, buffer.2 105 ?_⟩
  simp [strcpyFootprint, bytesOf]

end FunnelDispenser.Provisioning
