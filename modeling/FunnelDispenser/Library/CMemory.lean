import Mathlib

/-!
# Byte memory, C strings and 32-bit words

Memory is a total map from addresses to bytes, so a copy that runs past the
array it was meant for has a definite effect on whatever lies behind it.  The
module fixes when memory holds a NUL-terminated string at an address, and
proves how reading, `strcpy` and little-endian word accesses compose.  Words
that arrive in network order are assembled by shifts.
-/

namespace FunnelDispenser.CMemory

abbrev Bytes := List UInt8

abbrev Memory := Nat → UInt8

def bytesOf (literal : String) : Bytes :=
  literal.toList.map fun letter => UInt8.ofNat letter.toNat

/-- Read a C string, one byte at a time up to its NUL.  `limit` is the number
of bytes left in memory behind the address. -/
def readCString : Nat → Memory → Nat → Bytes
  | 0, _, _ => []
  | limit + 1, memory, address =>
      if memory address = 0 then
        []
      else
        memory address :: readCString limit memory (address + 1)

/-- The bytes `strcpy` reads out of a string object: those before its first
NUL. -/
def cStr (text : Bytes) : Bytes :=
  text.takeWhile (fun byte => byte ≠ 0)

/-- Copy a string and its terminator, byte after byte, with no bound. -/
def strcpy (memory : Memory) (destination : Nat) : Bytes → Memory
  | [] => Function.update memory destination 0
  | byte :: rest =>
      strcpy (Function.update memory destination byte) (destination + 1) rest

/-- Append a string to the one at the address. -/
def strcat (limit : Nat) (memory : Memory) (destination : Nat)
    (text : Bytes) : Memory :=
  strcpy memory
    (destination + (readCString limit memory destination).length) text

/-- The addresses `strcpy` writes: the text and its terminator. -/
def strcpyFootprint (destination : Nat) (text : Bytes) : Set Nat :=
  Set.Icc destination (destination + text.length)

/-- `HoldsCString memory address text` means that memory holds exactly `text`
as a NUL-terminated string at `address`. -/
structure HoldsCString (memory : Memory) (address : Nat) (text : Bytes) :
    Prop where
  content : ∀ offset (bound : offset < text.length),
    memory (address + offset) = text[offset]
  terminated : memory (address + text.length) = 0
  nonzero : ∀ byte ∈ text, byte ≠ 0

theorem holdsCString_nil_iff (memory : Memory) (address : Nat) :
    HoldsCString memory address [] ↔ memory address = 0 := by
  constructor
  · intro held
    simpa using held.terminated
  · intro zero
    exact ⟨by simp, by simpa using zero, by simp⟩

theorem holdsCString_cons_iff
    (memory : Memory) (address : Nat) (byte : UInt8) (rest : Bytes) :
    HoldsCString memory address (byte :: rest) ↔
      memory address = byte ∧ byte ≠ 0 ∧
        HoldsCString memory (address + 1) rest := by
  constructor
  · intro held
    refine ⟨?_, held.nonzero byte (by simp), ⟨?_, ?_, ?_⟩⟩
    · have first := held.content 0 (by simp)
      simpa only [Nat.add_zero, List.getElem_cons_zero] using first
    · intro offset bound
      have shifted := held.content (offset + 1) (by simpa using bound)
      simpa [Nat.add_assoc, Nat.add_comm 1 offset] using shifted
    · have shifted := held.terminated
      simpa [Nat.add_assoc, Nat.add_comm 1 rest.length] using shifted
    · intro tested member
      exact held.nonzero tested (by simp [member])
  · rintro ⟨head, nonzero, held⟩
    refine ⟨?_, ?_, ?_⟩
    · intro offset bound
      cases offset with
      | zero => simpa using head
      | succ offset =>
          have shifted := held.content offset (by simpa using bound)
          simpa [Nat.add_assoc, Nat.add_comm 1 offset] using shifted
    · have shifted := held.terminated
      simpa [Nat.add_assoc, Nat.add_comm 1 rest.length] using shifted
    · intro tested member
      rcases List.mem_cons.mp member with rfl | tailMember
      · exact nonzero
      · exact held.nonzero tested tailMember

/-- Reading returns the held string whenever memory extends past it. -/
theorem HoldsCString.readCString_eq
    {memory : Memory} {address limit : Nat} {text : Bytes}
    (held : HoldsCString memory address text)
    (room : text.length < limit) :
    readCString limit memory address = text := by
  induction text generalizing address limit with
  | nil =>
      have zero := (holdsCString_nil_iff memory address).mp held
      cases limit with
      | zero => rfl
      | succ limit => simp [readCString, zero]
  | cons byte rest inductionHypothesis =>
      obtain ⟨head, nonzero, tail⟩ :=
        (holdsCString_cons_iff memory address byte rest).mp held
      cases limit with
      | zero => simp at room
      | succ limit =>
          have tailRoom : rest.length < limit := by
            simpa using room
          simp [readCString, head, nonzero,
            inductionHypothesis tail tailRoom]

/-- Memory that agrees on the string and its terminator holds it too. -/
theorem HoldsCString.of_agree
    {source target : Memory} {address : Nat} {text : Bytes}
    (held : HoldsCString source address text)
    (agree : ∀ offset, offset ≤ text.length →
      target (address + offset) = source (address + offset)) :
    HoldsCString target address text where
  content offset bound := by
    rw [agree offset (Nat.le_of_lt bound)]
    exact held.content offset bound
  terminated := by
    rw [agree text.length (Nat.le_refl _)]
    exact held.terminated
  nonzero := held.nonzero

theorem exists_holdsCString
    {memory : Memory} {address distance : Nat}
    (zero : memory (address + distance) = 0) :
    ∃ text, text.length ≤ distance ∧ HoldsCString memory address text := by
  induction distance generalizing address with
  | zero =>
      exact ⟨[], Nat.le_refl _, (holdsCString_nil_iff memory address).mpr zero⟩
  | succ distance inductionHypothesis =>
      by_cases head : memory address = 0
      · exact ⟨[], Nat.zero_le _,
          (holdsCString_nil_iff memory address).mpr head⟩
      · have laterZero : memory (address + 1 + distance) = 0 := by
          rw [Nat.add_assoc, Nat.add_comm 1]
          exact zero
        obtain ⟨rest, bound, held⟩ := inductionHypothesis laterZero
        exact ⟨memory address :: rest, Nat.succ_le_succ bound,
          (holdsCString_cons_iff _ _ _ _).mpr ⟨rfl, head, held⟩⟩

theorem strcpy_frame
    (memory : Memory) (destination tested : Nat) (text : Bytes)
    (outside : tested ∉ strcpyFootprint destination text) :
    strcpy memory destination text tested = memory tested := by
  induction text generalizing memory destination with
  | nil =>
      have different : tested ≠ destination := by
        intro same
        exact outside (by simp [strcpyFootprint, same])
      simp [strcpy, different]
  | cons byte rest inductionHypothesis =>
      have apart : ¬ (destination ≤ tested ∧
          tested ≤ destination + (rest.length + 1)) := by
        simpa [strcpyFootprint] using outside
      have different : tested ≠ destination := by omega
      rw [strcpy, inductionHypothesis]
      · simp [different]
      · simp only [strcpyFootprint, Set.mem_Icc]
        omega

theorem strcpy_holds
    (memory : Memory) (destination : Nat) (text : Bytes)
    (nonzero : ∀ byte ∈ text, byte ≠ 0) :
    HoldsCString (strcpy memory destination text) destination text := by
  induction text generalizing memory destination with
  | nil =>
      rw [holdsCString_nil_iff]
      simp [strcpy]
  | cons byte rest inductionHypothesis =>
      rw [holdsCString_cons_iff]
      refine ⟨?_, nonzero byte (by simp), ?_⟩
      · rw [strcpy, strcpy_frame]
        · simp
        · simp [strcpyFootprint]
      · exact inductionHypothesis _ _
          (fun tested member => nonzero tested (by simp [member]))

theorem HoldsCString.strcpy_disjoint
    {memory : Memory} {address destination : Nat} {text copied : Bytes}
    (held : HoldsCString memory address text)
    (disjoint : address + text.length < destination ∨
      destination + copied.length < address) :
    HoldsCString (strcpy memory destination copied) address text := by
  apply held.of_agree
  intro offset bound
  apply strcpy_frame
  simp only [strcpyFootprint, Set.mem_Icc]
  omega

/-- Two copies in a row are one. -/
theorem strcpy_append (memory : Memory) (destination : Nat)
    (first second : Bytes) :
    strcpy (strcpy memory destination first) (destination + first.length)
        second =
      strcpy memory destination (first ++ second) := by
  induction first generalizing memory destination with
  | nil =>
      cases second with
      | nil => simp [strcpy]
      | cons byte rest => simp [strcpy]
  | cons byte rest inductionHypothesis =>
      rw [List.length_cons, Nat.add_comm rest.length, ← Nat.add_assoc,
        List.cons_append, strcpy, inductionHypothesis, strcpy]

theorem strcat_strcpy {limit : Nat} (memory : Memory) (destination : Nat)
    {first : Bytes} (nonzero : ∀ byte ∈ first, byte ≠ 0)
    (room : first.length < limit) (second : Bytes) :
    strcat limit (strcpy memory destination first) destination second =
      strcpy memory destination (first ++ second) := by
  rw [strcat, (strcpy_holds memory destination first nonzero).readCString_eq
    room, strcpy_append]

theorem cStr_nonzero (text : Bytes) :
    ∀ byte ∈ cStr text, byte ≠ 0 := by
  intro byte member
  simpa using List.mem_takeWhile_imp member

theorem nonzero_of_all
    {text : Bytes} (checked : text.all (fun byte => byte ≠ 0) = true) :
    ∀ byte ∈ text, byte ≠ 0 := by
  simpa [List.all_eq_true] using checked

theorem cStr_eq_self
    {text : Bytes} (nonzero : ∀ byte ∈ text, byte ≠ 0) :
    cStr text = text := by
  unfold cStr
  rw [List.takeWhile_eq_self_iff]
  simpa using nonzero

/-- Byte `index` of a 32-bit word, least significant first. -/
def wordByte (word : BitVec 32) (index : Nat) : UInt8 :=
  UInt8.ofNat (word.toNat / 256 ^ index)

def storeWord (memory : Memory) (address : Nat) (word : BitVec 32) : Memory :=
  fun tested =>
    if address ≤ tested ∧ tested < address + 4 then
      wordByte word (tested - address)
    else
      memory tested

def loadWord (memory : Memory) (address : Nat) : BitVec 32 :=
  BitVec.ofNat 32
    ((memory address).toNat + 256 * (memory (address + 1)).toNat +
      65536 * (memory (address + 2)).toNat +
      16777216 * (memory (address + 3)).toNat)

theorem storeWord_frame
    (memory : Memory) (address tested : Nat) (word : BitVec 32)
    (outside : tested < address ∨ address + 4 ≤ tested) :
    storeWord memory address word tested = memory tested := by
  unfold storeWord
  rw [if_neg (by omega)]

theorem loadWord_of_agree
    {source target : Memory} {address : Nat}
    (agree : ∀ offset, offset < 4 →
      target (address + offset) = source (address + offset)) :
    loadWord target address = loadWord source address := by
  unfold loadWord
  rw [show target address = source address from agree 0 (by omega),
    agree 1 (by omega), agree 2 (by omega), agree 3 (by omega)]

theorem loadWord_storeWord
    (memory : Memory) (address : Nat) (word : BitVec 32) :
    loadWord (storeWord memory address word) address = word := by
  have bound := word.isLt
  apply BitVec.eq_of_toNat_eq
  simp only [loadWord, storeWord, wordByte, BitVec.toNat_ofNat]
  simp
  omega

theorem agree_of_loadWord_eq
    {source target : Memory} {address : Nat}
    (same : loadWord target address = loadWord source address)
    {offset : Nat} (bound : offset < 4) :
    target (address + offset) = source (address + offset) := by
  have words := congrArg BitVec.toNat same
  simp only [loadWord, BitVec.toNat_ofNat] at words
  have byteBound (memory : Memory) (tested : Nat) :
      (memory tested).toNat < 256 :=
    (memory tested).toNat_lt
  have target0 := byteBound target address
  have target1 := byteBound target (address + 1)
  have target2 := byteBound target (address + 2)
  have target3 := byteBound target (address + 3)
  have source0 := byteBound source address
  have source1 := byteBound source (address + 1)
  have source2 := byteBound source (address + 2)
  have source3 := byteBound source (address + 3)
  apply UInt8.toNat_inj.mp
  obtain rfl | rfl | rfl | rfl :
      offset = 0 ∨ offset = 1 ∨ offset = 2 ∨ offset = 3 := by omega
  · rw [Nat.add_zero]
    omega
  all_goals omega

theorem loadWord_strcpy_disjoint
    (memory : Memory) (address destination : Nat) (text : Bytes)
    (disjoint : address + 4 ≤ destination ∨
      destination + text.length < address) :
    loadWord (strcpy memory destination text) address =
      loadWord memory address := by
  apply loadWord_of_agree
  intro offset bound
  apply strcpy_frame
  simp only [strcpyFootprint, Set.mem_Icc]
  omega

/-- The number a byte string spells, most significant byte first. -/
def bigEndian (bytes : Bytes) : Nat :=
  Nat.ofDigits 256 (bytes.reverse.map UInt8.toNat)

/-- A word without low bits and a word of low bits do not overlap. -/
theorem toNat_or_of_aligned
    {width shift : Nat} {high low : BitVec width}
    (aligned : 2 ^ shift ∣ high.toNat) (small : low.toNat < 2 ^ shift) :
    (high ||| low).toNat = high.toNat + low.toNat := by
  obtain ⟨quotient, product⟩ := aligned
  rw [BitVec.toNat_or, product, Nat.two_pow_add_eq_or_of_lt small]

private theorem toNat_shiftLeft_byte (byte : UInt8) {shift : Nat}
    (room : shift ≤ 24) :
    (BitVec.ofNat 32 byte.toNat <<< shift).toNat =
      byte.toNat * 2 ^ shift := by
  have byteBound := byte.toNat_lt
  have scale : 2 ^ shift ≤ 2 ^ 24 := Nat.pow_le_pow_right (by omega) room
  have product : byte.toNat * 2 ^ shift ≤ 255 * 2 ^ 24 :=
    Nat.mul_le_mul (by omega) scale
  rw [BitVec.toNat_shiftLeft, BitVec.toNat_ofNat,
    Nat.mod_eq_of_lt (by omega : byte.toNat < 2 ^ 32), Nat.shiftLeft_eq,
    Nat.mod_eq_of_lt (by omega)]

/-- Four bytes, each shifted to its place and joined by `or`, are the word
they spell. -/
theorem toNat_or_shifts (first second third fourth : UInt8) :
    (BitVec.ofNat 32 first.toNat <<< 24 |||
        BitVec.ofNat 32 second.toNat <<< 16 |||
        BitVec.ofNat 32 third.toNat <<< 8 |||
        BitVec.ofNat 32 fourth.toNat).toNat =
      bigEndian [first, second, third, fourth] := by
  have place24 := toNat_shiftLeft_byte first (Nat.le_refl 24)
  have place16 := toNat_shiftLeft_byte second (by omega : 16 ≤ 24)
  have place8 := toNat_shiftLeft_byte third (by omega : 8 ≤ 24)
  have place0 : (BitVec.ofNat 32 fourth.toNat).toNat = fourth.toNat := by
    have bound := fourth.toNat_lt
    rw [BitVec.toNat_ofNat]
    omega
  have secondBound := second.toNat_lt
  have thirdBound := third.toNat_lt
  have fourthBound := fourth.toNat_lt
  have upper := toNat_or_of_aligned
    (by rw [place24]; omega : 2 ^ 24 ∣ _) (by rw [place16]; omega)
  have middle := toNat_or_of_aligned
    (by rw [upper, place24, place16]; omega : 2 ^ 16 ∣ _)
    (by rw [place8]; omega)
  have lower := toNat_or_of_aligned
    (by rw [middle, upper, place24, place16, place8]; omega : 2 ^ 8 ∣ _)
    (by rw [place0]; omega)
  rw [lower, middle, upper, place24, place16, place8, place0]
  simp only [bigEndian, List.reverse_cons, List.reverse_nil,
    List.nil_append, List.cons_append, List.map_cons, List.map_nil,
    Nat.ofDigits_cons, Nat.ofDigits_nil]
  omega

end FunnelDispenser.CMemory
