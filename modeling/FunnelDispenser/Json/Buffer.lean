import FunnelDispenser.Library.Decimal

/-!
# Pool allocation and JSON objects

`StaticJsonBuffer` is a bump allocator.  Every node of an object and every
duplicated string comes out of it, and a failed allocation drops the value or
the whole member without an error.  Sizes are those of the 32-bit target:
pointers and alignment of 4 bytes, a list header of 8 and an object node of
16.

Strings are kept by value: nothing in this program writes to a pool string
after it was duplicated.
-/

namespace FunnelDispenser.Json

open CMemory Decimal

/-- `sizeof(JsonObject)` and `sizeof(JsonArray)`. -/
def headerSize : Nat := 8

/-- `sizeof(ListNode<JsonPair>)`. -/
def objectNodeSize : Nat := 16

/-- `sizeof(ListNode<JsonVariant>)`. -/
def arrayNodeSize : Nat := 12

def roundSizeUp (bytes : Nat) : Nat :=
  (bytes + 3) / 4 * 4

structure StaticJsonBuffer where
  capacity : Nat
  size : Nat
deriving DecidableEq, Repr

namespace StaticJsonBuffer

def empty (capacity : Nat) : StaticJsonBuffer :=
  ⟨capacity, 0⟩

/-- Align, then take the bytes if they fit.  The alignment stays even when
the allocation fails. -/
def alloc (buffer : StaticJsonBuffer) (bytes : Nat) :
    StaticJsonBuffer × Bool :=
  let aligned := roundSizeUp buffer.size
  if aligned + bytes ≤ buffer.capacity then
    ({ buffer with size := aligned + bytes }, true)
  else
    ({ buffer with size := aligned }, false)

theorem alloc_of_fits {buffer : StaticJsonBuffer} {bytes : Nat}
    (fits : roundSizeUp buffer.size + bytes ≤ buffer.capacity) :
    buffer.alloc bytes =
      (⟨buffer.capacity, roundSizeUp buffer.size + bytes⟩, true) := by
  simp only [alloc, if_pos fits]

theorem alloc_of_full {buffer : StaticJsonBuffer} {bytes : Nat}
    (full : buffer.capacity < roundSizeUp buffer.size + bytes) :
    buffer.alloc bytes =
      (⟨buffer.capacity, roundSizeUp buffer.size⟩, false) := by
  simp only [alloc, if_neg (Nat.not_le.mpr full)]

end StaticJsonBuffer

/-- The variants this program stores and reads.  `unparsed` is the raw text
of an unquoted token.  An array or an object is a pointer whose target the
program never follows; `float` carries its printed form. -/
inductive JsonVariant where
  | undefined
  | unparsed (text : Bytes)
  | string (text : Bytes)
  | boolean (value : Bool)
  | positiveInteger (magnitude : Nat)
  | negativeInteger (magnitude : Nat)
  | float (printed : Bytes)
  | array
  | object
deriving DecidableEq, Repr

namespace JsonVariant

/-- `JsonVariant(int)`: the sign goes into the type, the magnitude is the
wrapped negation. -/
def ofInt (value : BitVec 32) : JsonVariant :=
  if 0 ≤ value.toInt then
    .positiveInteger value.toNat
  else
    .negativeInteger (-value).toNat

/-- `parseInteger<int>` of a NUL-terminated text. -/
def parseInteger : Bytes → BitVec 32
  | [] => 0
  | byte :: rest =>
      if byte = 116 then
        1
      else if byte = 45 then
        ~~~(readDigits 0 rest) + 1
      else if byte = 43 then
        readDigits 0 rest
      else
        readDigits 0 (byte :: rest)

/-- `as<int>()`.  For a float, an array or an object the union is read as a
float and converted; `pointerRead` stands for what that yields. -/
def asInteger (pointerRead : BitVec 32) : JsonVariant → BitVec 32
  | .undefined => 0
  | .positiveInteger magnitude => BitVec.ofNat 32 magnitude
  | .boolean value => if value then 1 else 0
  | .negativeInteger magnitude => ~~~(BitVec.ofNat 32 magnitude) + 1
  | .string text => parseInteger text
  | .unparsed text => parseInteger text
  | .float _ => pointerRead
  | .array => pointerRead
  | .object => pointerRead

def asBoolean (pointerRead : BitVec 32) (variant : JsonVariant) : Bool :=
  variant.asInteger pointerRead ≠ 0

/-- `as<const char *>()`; `none` is the null pointer. -/
def asString : JsonVariant → Option Bytes
  | .unparsed text =>
      if text = [110, 117, 108, 108] then none else some text
  | .string text => some text
  | _ => none

end JsonVariant

/-- A member list in insertion order.  `attached` is false for the shared
invalid object, which has no buffer and cannot grow. -/
structure JsonObject where
  attached : Bool
  members : List (Bytes × JsonVariant)
deriving DecidableEq, Repr

namespace JsonObject

def invalid : JsonObject :=
  ⟨false, []⟩

def success (object : JsonObject) : Bool :=
  object.attached

/-- `get<T>(key)` before the conversion: the first member with the key. -/
def find (object : JsonObject) (key : Bytes) : Option JsonVariant :=
  (object.members.find? fun member => member.1 = key).map Prod.snd

def getInteger (object : JsonObject) (pointerRead : BitVec 32)
    (key : Bytes) : BitVec 32 :=
  match object.find key with
  | some variant => variant.asInteger pointerRead
  | none => 0

def getBoolean (object : JsonObject) (pointerRead : BitVec 32)
    (key : Bytes) : Bool :=
  match object.find key with
  | some variant => variant.asBoolean pointerRead
  | none => false

/-- `json[key].as<const char *>()`. -/
def getString (object : JsonObject) (key : Bytes) : Option Bytes :=
  match object.find key with
  | some variant => variant.asString
  | none => none

/-- Overwrite the value of the first member with the key. -/
def assign (key : Bytes) (variant : JsonVariant) :
    List (Bytes × JsonVariant) → List (Bytes × JsonVariant)
  | [] => []
  | member :: rest =>
      if member.1 = key then
        (key, variant) :: rest
      else
        member :: assign key variant rest

end JsonObject

def createObject (buffer : StaticJsonBuffer) :
    StaticJsonBuffer × JsonObject :=
  match buffer.alloc headerSize with
  | (next, true) => (next, ⟨true, []⟩)
  | (next, false) => (next, JsonObject.invalid)

/-- What is assigned to a member: a `char *`, which `ValueSaver` duplicates
into the pool, or a value that is stored in the node itself. -/
inductive JsonSource where
  | chars (text : Bytes)
  | value (variant : JsonVariant)
deriving DecidableEq, Repr

/-- `ValueSaver::save`: the new value of the node and whether it was saved. -/
def saveValue (buffer : StaticJsonBuffer) (previous : JsonVariant) :
    JsonSource → StaticJsonBuffer × JsonVariant × Bool
  | .chars text =>
      match buffer.alloc (text.length + 1) with
      | (next, true) => (next, .string text, true)
      | (next, false) => (next, previous, false)
  | .value variant => (buffer, variant, true)

/-- `JsonObject::set` with a `const char *` key, which is not duplicated. -/
def setMember (buffer : StaticJsonBuffer) (object : JsonObject)
    (key : Bytes) (source : JsonSource) :
    StaticJsonBuffer × JsonObject × Bool :=
  match object.find key with
  | some previous =>
      let (next, variant, saved) := saveValue buffer previous source
      (next,
        { object with
          members := JsonObject.assign key variant object.members }, saved)
  | none =>
      if object.attached then
        match buffer.alloc objectNodeSize with
        | (next, false) => (next, object, false)
        | (next, true) =>
            let (final, variant, saved) := saveValue next .undefined source
            (final,
              { object with members := object.members ++ [(key, variant)] },
              saved)
      else
        (buffer, object, false)

/-- Assign several members in order, ignoring the results. -/
def setMembers (buffer : StaticJsonBuffer) (object : JsonObject) :
    List (Bytes × JsonSource) → StaticJsonBuffer × JsonObject
  | [] => (buffer, object)
  | (key, source) :: rest =>
      let (next, grown, _) := setMember buffer object key source
      setMembers next grown rest

theorem find_eq_none_iff (object : JsonObject) (key : Bytes) :
    object.find key = none ↔ key ∉ object.members.map Prod.fst := by
  simp only [JsonObject.find, Option.map_eq_none_iff, List.find?_eq_none,
    decide_eq_true_eq, List.mem_map, not_exists, not_and]

theorem setMember_value
    {buffer : StaticJsonBuffer} {members : List (Bytes × JsonVariant)}
    {key : Bytes} (variant : JsonVariant)
    (fresh : key ∉ members.map Prod.fst)
    (fits : roundSizeUp buffer.size + objectNodeSize ≤ buffer.capacity) :
    setMember buffer ⟨true, members⟩ key (.value variant) =
      (⟨buffer.capacity, roundSizeUp buffer.size + objectNodeSize⟩,
        ⟨true, members ++ [(key, variant)]⟩, true) := by
  have absent : JsonObject.find ⟨true, members⟩ key = none :=
    (find_eq_none_iff _ key).mpr fresh
  simp only [setMember, absent, if_true,
    StaticJsonBuffer.alloc_of_fits fits, saveValue]

/-- Without room for its node a member is dropped. -/
theorem setMember_full
    {buffer : StaticJsonBuffer} {members : List (Bytes × JsonVariant)}
    {key : Bytes} (source : JsonSource)
    (fresh : key ∉ members.map Prod.fst)
    (full : buffer.capacity < roundSizeUp buffer.size + objectNodeSize) :
    setMember buffer ⟨true, members⟩ key source =
      (⟨buffer.capacity, roundSizeUp buffer.size⟩, ⟨true, members⟩, false) := by
  have absent : JsonObject.find ⟨true, members⟩ key = none :=
    (find_eq_none_iff _ key).mpr fresh
  simp only [setMember, absent, if_true,
    StaticJsonBuffer.alloc_of_full full]

/-- A duplicated string costs a node and its bytes with the terminator. -/
theorem setMember_chars
    {buffer : StaticJsonBuffer} {members : List (Bytes × JsonVariant)}
    {key : Bytes} (text : Bytes)
    (fresh : key ∉ members.map Prod.fst)
    (fits : roundSizeUp (roundSizeUp buffer.size + objectNodeSize) +
      (text.length + 1) ≤ buffer.capacity) :
    setMember buffer ⟨true, members⟩ key (.chars text) =
      (⟨buffer.capacity,
          roundSizeUp (roundSizeUp buffer.size + objectNodeSize) +
            (text.length + 1)⟩,
        ⟨true, members ++ [(key, .string text)]⟩, true) := by
  have absent : JsonObject.find ⟨true, members⟩ key = none :=
    (find_eq_none_iff _ key).mpr fresh
  have nodeFits :
      roundSizeUp buffer.size + objectNodeSize ≤ buffer.capacity := by
    simp only [roundSizeUp, objectNodeSize] at fits ⊢
    omega
  have textFits := @StaticJsonBuffer.alloc_of_fits
    ⟨buffer.capacity, roundSizeUp buffer.size + objectNodeSize⟩ _ fits
  simp only [setMember, absent, if_true,
    StaticJsonBuffer.alloc_of_fits nodeFits, saveValue,
    textFits]

/-- Of a list of stored values as many members survive as nodes fit. -/
theorem setMembers_values
    (values : List (Bytes × JsonVariant)) (buffer : StaticJsonBuffer)
    (members : List (Bytes × JsonVariant))
    (distinct : ((members ++ values).map Prod.fst).Nodup) :
    (setMembers buffer ⟨true, members⟩
        (values.map fun value => (value.1, JsonSource.value value.2))).2 =
      ⟨true, members ++ values.take
        ((buffer.capacity - roundSizeUp buffer.size) / objectNodeSize)⟩ := by
  induction values generalizing buffer members with
  | nil => simp [setMembers]
  | cons value rest inductionHypothesis =>
      obtain ⟨key, variant⟩ := value
      have fresh : key ∉ members.map Prod.fst := by
        simp only [List.map_append, List.map_cons] at distinct
        have apart := (List.nodup_append.mp distinct).2.2
        intro member
        exact apart key member key (by simp) rfl
      simp only [List.map_cons, setMembers]
      by_cases fits :
          roundSizeUp buffer.size + objectNodeSize ≤ buffer.capacity
      · obtain ⟨count, room⟩ : ∃ count,
            (buffer.capacity - roundSizeUp buffer.size) / objectNodeSize =
              count + 1 := by
          refine ⟨(buffer.capacity - roundSizeUp buffer.size) /
            objectNodeSize - 1, ?_⟩
          simp only [objectNodeSize] at fits ⊢
          omega
        have nextRoom :
            (buffer.capacity -
                roundSizeUp (roundSizeUp buffer.size + objectNodeSize)) /
              objectNodeSize = count := by
          simp only [objectNodeSize, roundSizeUp] at fits room ⊢
          omega
        rw [setMember_value variant fresh fits]
        simp only
        rw [inductionHypothesis _ _ (by simpa using distinct), nextRoom,
          room]
        simp
      · have full :
            buffer.capacity < roundSizeUp buffer.size + objectNodeSize := by
          omega
        have room :
            (buffer.capacity - roundSizeUp buffer.size) / objectNodeSize =
              0 := by
          simp only [objectNodeSize] at full ⊢
          omega
        have nextRoom :
            (buffer.capacity - roundSizeUp (roundSizeUp buffer.size)) /
              objectNodeSize = 0 := by
          simp only [objectNodeSize, roundSizeUp] at full ⊢
          omega
        have restDistinct : ((members ++ rest).map Prod.fst).Nodup := by
          simp only [List.map_append, List.map_cons] at distinct ⊢
          exact distinct.sublist
            (List.Sublist.append_left (List.sublist_cons_self _ _) _)
        rw [setMember_full (.value variant) fresh full]
        simp only
        rw [inductionHypothesis _ _ restDistinct, nextRoom, room]
        simp

def JsonSource.stored : JsonSource → JsonVariant
  | .chars text => .string text
  | .value variant => variant

/-- The pool bytes a member takes, padding included. -/
def JsonSource.poolBytes : JsonSource → Nat
  | .chars text => objectNodeSize + roundSizeUp (text.length + 1)
  | .value _ => objectNodeSize

/-- With room for all of them no allocation of a member fails. -/
theorem setMember_fits
    {buffer : StaticJsonBuffer} {members : List (Bytes × JsonVariant)}
    {key : Bytes} {source : JsonSource}
    (fresh : key ∉ members.map Prod.fst)
    (fits : roundSizeUp buffer.size + source.poolBytes ≤ buffer.capacity) :
    ∃ size, setMember buffer ⟨true, members⟩ key source =
        (⟨buffer.capacity, size⟩,
          ⟨true, members ++ [(key, source.stored)]⟩, true) ∧
      roundSizeUp size ≤ roundSizeUp buffer.size + source.poolBytes := by
  cases source with
  | chars text =>
      simp only [JsonSource.poolBytes, roundSizeUp, objectNodeSize] at fits
      refine ⟨_, setMember_chars text fresh ?_, ?_⟩
      · simp only [roundSizeUp, objectNodeSize]
        omega
      · simp only [JsonSource.poolBytes, roundSizeUp, objectNodeSize]
        omega
  | value variant =>
      simp only [JsonSource.poolBytes] at fits
      refine ⟨_, setMember_value variant fresh fits, ?_⟩
      simp only [JsonSource.poolBytes, roundSizeUp, objectNodeSize]
      omega

/-- The sum of the sizes bounds every intermediate allocation. -/
theorem setMembers_fits
    (sources : List (Bytes × JsonSource)) {buffer : StaticJsonBuffer}
    {members : List (Bytes × JsonVariant)}
    (distinct : (members.map Prod.fst ++ sources.map Prod.fst).Nodup)
    (fits : roundSizeUp buffer.size +
      (sources.map fun source => source.2.poolBytes).sum ≤
        buffer.capacity) :
    (setMembers buffer ⟨true, members⟩ sources).2 =
      ⟨true, members ++
        sources.map fun source => (source.1, source.2.stored)⟩ := by
  induction sources generalizing buffer members with
  | nil => rw [List.map_nil, List.append_nil, setMembers]
  | cons source rest inductionHypothesis =>
      obtain ⟨key, value⟩ := source
      simp only [List.map_cons, List.sum_cons] at distinct fits
      have fresh : key ∉ members.map Prod.fst := fun member =>
        (List.nodup_append.mp distinct).2.2 key member key
          List.mem_cons_self rfl
      obtain ⟨size, stored, used⟩ := setMember_fits fresh
        (by omega : roundSizeUp buffer.size + value.poolBytes ≤
          buffer.capacity)
      rw [setMembers, stored]
      simp only
      rw [inductionHypothesis (by simpa using distinct)
        (Nat.le_trans (Nat.add_le_add_right used _)
          (by simp only; omega))]
      simp

end FunnelDispenser.Json
