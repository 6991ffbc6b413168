import FunnelDispenser.Json.Buffer

/-!
# The JSON writer

The text `printTo` produces for an object of flat members: escaped and quoted
strings, decimal integers, booleans, and nothing at all for an undefined
value.
-/

namespace FunnelDispenser.Json

open CMemory Decimal

abbrev quoteByte : UInt8 := 34
abbrev apostropheByte : UInt8 := 39
abbrev commaByte : UInt8 := 44
abbrev minusByte : UInt8 := 45
abbrev slashByte : UInt8 := 47
abbrev colonByte : UInt8 := 58
abbrev openBracketByte : UInt8 := 91
abbrev backslashByte : UInt8 := 92
abbrev closeBracketByte : UInt8 := 93
abbrev openBraceByte : UInt8 := 123
abbrev closeBraceByte : UInt8 := 125

/-- The escape table as pairs of the letter behind the backslash and the
byte it stands for; the first two stand for themselves. -/
def escapeTable : List (UInt8 × UInt8) :=
  [(34, 34), (92, 92), (98, 8), (102, 12), (110, 10), (114, 13), (116, 9)]

/-- The letter to write behind a backslash, or 0. -/
def escapeChar (byte : UInt8) : UInt8 :=
  match escapeTable.find? fun entry => entry.2 = byte with
  | some entry => entry.1
  | none => 0

/-- The byte a letter behind a backslash stands for. -/
def unescapeChar (letter : UInt8) : UInt8 :=
  match (escapeTable.drop 2).find? fun entry => entry.1 = letter with
  | some entry => entry.2
  | none => letter

def writeChar (byte : UInt8) : Bytes :=
  if escapeChar byte ≠ 0 then
    [backslashByte, escapeChar byte]
  else
    [byte]

def writeChars (text : Bytes) : Bytes :=
  text.flatMap writeChar

def writeString (text : Bytes) : Bytes :=
  quoteByte :: (writeChars text ++ [quoteByte])

def writeInteger (value : Nat) : Bytes :=
  printNat value

def writeBoolean (value : Bool) : Bytes :=
  if value then bytesOf "true" else bytesOf "false"

/-- `JsonSerializer::serialize` of a variant.  The program prints no nested
array or object, so those print nothing here. -/
def writeVariant : JsonVariant → Bytes
  | .undefined => []
  | .unparsed text => text
  | .string text => writeString text
  | .boolean value => writeBoolean value
  | .positiveInteger magnitude => writeInteger magnitude
  | .negativeInteger magnitude => minusByte :: writeInteger magnitude
  | .float printed => printed
  | .array => []
  | .object => []

@[simp]
theorem writeVariant_string (text : Bytes) :
    writeVariant (.string text) = writeString text :=
  rfl

@[simp]
theorem writeVariant_float (printed : Bytes) :
    writeVariant (.float printed) = printed :=
  rfl

def writeMember (member : Bytes × JsonVariant) : Bytes :=
  writeString member.1 ++ colonByte :: writeVariant member.2

/-- The members with commas between them, up to the closing brace. -/
def writeMembers : List (Bytes × JsonVariant) → Bytes
  | [] => [closeBraceByte]
  | [member] => writeMember member ++ [closeBraceByte]
  | member :: next :: rest =>
      writeMember member ++ commaByte :: writeMembers (next :: rest)

/-- `printTo`: the text of an object. -/
def writeObject (object : JsonObject) : Bytes :=
  openBraceByte :: writeMembers object.members

/-- A byte is either written as it is, and then needs no escape, or as a
letter behind a backslash that reads back to it. -/
theorem writeChar_cases (byte : UInt8) (nonzero : byte ≠ 0) :
    (writeChar byte = [byte] ∧ byte ≠ quoteByte ∧ byte ≠ backslashByte) ∨
      ∃ letter, writeChar byte = [backslashByte, letter] ∧
        letter ≠ 0 ∧ unescapeChar letter = byte := by
  by_cases escaped : escapeChar byte = 0
  · refine Or.inl ⟨by simp [writeChar, escaped], ?_, ?_⟩
    · rintro rfl
      exact absurd escaped (by decide)
    · rintro rfl
      exact absurd escaped (by decide)
  · refine Or.inr ⟨escapeChar byte, by simp [writeChar, escaped],
      escaped, ?_⟩
    have listed : ∃ entry ∈ escapeTable, entry.2 = byte := by
      by_contra missing
      push Not at missing
      apply escaped
      simp only [escapeChar]
      rw [List.find?_eq_none.mpr]
      intro entry member
      simpa using missing entry member
    obtain ⟨entry, member, rfl⟩ := listed
    simp only [escapeTable, List.mem_cons, List.not_mem_nil,
      or_false] at member
    rcases member with rfl | rfl | rfl | rfl | rfl | rfl | rfl <;> decide

theorem length_writeChar_le (byte : UInt8) :
    (writeChar byte).length ≤ 2 := by
  unfold writeChar
  split <;> simp

theorem length_writeChars_le (text : Bytes) :
    (writeChars text).length ≤ 2 * text.length := by
  induction text with
  | nil => simp [writeChars]
  | cons byte rest inductionHypothesis =>
      have head := length_writeChar_le byte
      simp only [writeChars, List.flatMap_cons, List.length_append,
        List.length_cons] at inductionHypothesis ⊢
      omega

theorem length_writeString_le (text : Bytes) :
    (writeString text).length ≤ 2 * text.length + 2 := by
  have content := length_writeChars_le text
  simp only [writeString, List.length_cons, List.length_append,
    List.length_nil]
  omega

/-- The most bytes a variant of this program prints. -/
def printedBound : JsonVariant → Nat
  | .string text => 2 * text.length + 2
  | .unparsed text => text.length
  | .float printed => printed.length
  | _ => 11

theorem length_writeVariant_le
    (variant : JsonVariant)
    (bounded : ∀ magnitude,
      variant = .positiveInteger magnitude ∨
        variant = .negativeInteger magnitude → magnitude < 2 ^ 32) :
    (writeVariant variant).length ≤ printedBound variant := by
  cases variant with
  | undefined => simp [writeVariant, printedBound]
  | unparsed text => simp [writeVariant, printedBound]
  | string text => exact length_writeString_le text
  | boolean value =>
      cases value <;> decide
  | positiveInteger magnitude =>
      have digits := length_printNat_le (bounded magnitude (Or.inl rfl))
      simp only [writeVariant, writeInteger, printedBound]
      omega
  | negativeInteger magnitude =>
      have digits := length_printNat_le (bounded magnitude (Or.inr rfl))
      simp only [writeVariant, writeInteger, printedBound,
        List.length_cons]
      omega
  | float printed => simp [writeVariant, printedBound]
  | array => simp [writeVariant, printedBound]
  | object => simp [writeVariant, printedBound]

theorem writeMembers_eq {members : List (Bytes × JsonVariant)}
    (nonempty : members ≠ []) :
    writeMembers members =
      List.intercalate [commaByte] (members.map writeMember) ++
        [closeBraceByte] := by
  induction members with
  | nil => exact absurd rfl nonempty
  | cons member rest inductionHypothesis =>
      cases rest with
      | nil => simp [writeMembers, List.intercalate]
      | cons next rest =>
          rw [writeMembers, inductionHypothesis (List.cons_ne_nil next rest)]
          simp [List.intercalate]

/-- Each member is printed with one byte behind it, a comma or the brace. -/
theorem length_writeMembers
    {members : List (Bytes × JsonVariant)} (nonempty : members ≠ []) :
    (writeMembers members).length =
      (members.map fun member => (writeMember member).length + 1).sum := by
  induction members with
  | nil => exact absurd rfl nonempty
  | cons member rest inductionHypothesis =>
      cases rest with
      | nil => simp [writeMembers]
      | cons next rest =>
          have tail := inductionHypothesis (List.cons_ne_nil next rest)
          simp only [List.map_cons, List.sum_cons] at tail ⊢
          rw [writeMembers, List.length_append, List.length_cons, tail]
          omega

/-- The length of a printed member list is bounded by its keys and values. -/
theorem length_writeMembers_le
    (members : List (Bytes × JsonVariant))
    (bounded : ∀ member ∈ members, ∀ magnitude,
      member.2 = .positiveInteger magnitude ∨
        member.2 = .negativeInteger magnitude → magnitude < 2 ^ 32) :
    (writeMembers members).length ≤
      1 + (members.map fun member =>
        2 * member.1.length + 4 + printedBound member.2).sum := by
  by_cases empty : members = []
  · simp [empty, writeMembers]
  · rw [length_writeMembers empty]
    refine Nat.le_trans (List.sum_le_sum fun member inMembers => ?_)
      (Nat.le_add_left _ _)
    have key := length_writeString_le member.1
    have value := length_writeVariant_le member.2
      (bounded member inMembers)
    simp only [writeMember, List.length_append, List.length_cons]
    omega

theorem length_writeVariant_ofInt_le (value : BitVec 32) :
    (writeVariant (.ofInt value)).length ≤ 11 := by
  unfold JsonVariant.ofInt
  split
  · have digits := length_printNat_le value.isLt
    simp only [writeVariant, writeInteger]
    omega
  · have digits := length_printNat_le (-value).isLt
    simp only [writeVariant, writeInteger, List.length_cons]
    omega

def Plain (text : Bytes) : Prop :=
  ∀ byte ∈ text, escapeChar byte = 0

theorem plain_append_iff (first second : Bytes) :
    Plain (first ++ second) ↔ Plain first ∧ Plain second := by
  simp only [Plain, List.mem_append, or_imp, forall_and]

theorem writeString_of_plain {text : Bytes} (plain : Plain text) :
    writeString text = quoteByte :: (text ++ [quoteByte]) := by
  have unchanged : writeChars text = text := by
    have single : ∀ byte ∈ text, writeChar byte = [byte] :=
      fun byte member => by simp [writeChar, plain byte member]
    rw [writeChars, List.flatMap_congr single, List.flatMap_singleton']
  rw [writeString, unchanged]

theorem length_writeString_of_plain {text : Bytes} (plain : Plain text) :
    (writeString text).length = text.length + 2 := by
  rw [writeString_of_plain plain]
  simp

/-- Keys without escapes take their quotes, the colon and the byte behind the
member. -/
theorem length_writeMembers_of_plain
    {members : List (Bytes × JsonVariant)} (nonempty : members ≠ [])
    (plain : ∀ member ∈ members, Plain member.1) :
    (writeMembers members).length =
      (members.map fun member => member.1.length).sum +
        4 * members.length +
        (members.map fun member => (writeVariant member.2).length).sum := by
  rw [length_writeMembers nonempty]
  clear nonempty
  induction members with
  | nil => rfl
  | cons member rest inductionHypothesis =>
      have key := length_writeString_of_plain
        (plain member List.mem_cons_self)
      have tail := inductionHypothesis fun tested inRest =>
        plain tested (List.mem_cons_of_mem _ inRest)
      simp only [List.map_cons, List.sum_cons, List.length_cons, writeMember,
        List.length_append] at tail ⊢
      omega

theorem escapeChar_of_printable {byte : UInt8} (printable : 32 ≤ byte.toNat)
    (noQuote : byte.toNat ≠ 34) (noBackslash : byte.toNat ≠ 92) :
    escapeChar byte = 0 := by
  have unlisted : ∀ entry ∈ escapeTable, ¬ entry.2 = byte := by
    intro entry member same
    subst same
    simp only [escapeTable, List.mem_cons, List.not_mem_nil,
      or_false] at member
    rcases member with rfl | rfl | rfl | rfl | rfl | rfl | rfl
    · exact noQuote rfl
    · exact noBackslash rfl
    all_goals exact absurd printable (by decide)
  rw [escapeChar, List.find?_eq_none.mpr (by simpa using unlisted)]

theorem plain_printNat (value : Nat) : Plain (printNat value) := by
  intro byte member
  have digit := (isDigit_iff_toNat byte).mp (isDigit_of_mem_printNat member)
  exact escapeChar_of_printable (by omega) (by omega) (by omega)

/-- An ASCII letter that is written as it is. -/
def printable (letter : Char) : Bool :=
  32 ≤ letter.toNat && letter.toNat < 128 && letter.toNat ≠ 34 &&
    letter.toNat ≠ 92

theorem plain_bytesOf {literal : String}
    (letters : literal.toList.all printable = true) :
    Plain (bytesOf literal) := by
  intro byte member
  obtain ⟨letter, inLiteral, rfl⟩ := List.mem_map.mp member
  have valid := List.all_eq_true.mp letters letter inLiteral
  simp only [printable, Bool.and_eq_true, decide_eq_true_eq] at valid
  obtain ⟨⟨⟨lower, upper⟩, noQuote⟩, noBackslash⟩ := valid
  have code : (UInt8.ofNat letter.toNat).toNat = letter.toNat := by
    rw [UInt8.toNat_ofNat']
    omega
  rw [← code] at lower noQuote noBackslash
  exact escapeChar_of_printable lower noQuote noBackslash

/-- `StaticStringBuilder`: what was written so far, without the terminator
behind it. -/
structure StaticStringBuilder where
  size : Nat
  written : Bytes
deriving DecidableEq, Repr

namespace StaticStringBuilder

def empty (size : Nat) : StaticStringBuilder :=
  ⟨size, []⟩

/-- Bytes without room before the last one of the buffer are dropped. -/
def print (builder : StaticStringBuilder) (text : Bytes) :
    StaticStringBuilder :=
  { builder with
    written := builder.written ++
      text.take (builder.size - 1 - builder.written.length) }

def content (builder : StaticStringBuilder) : Bytes :=
  builder.written ++ [0]

end StaticStringBuilder

/-- `printTo(buffer, size)`, which prints the text in pieces. -/
def printTo (size : Nat) (object : JsonObject) : Bytes :=
  ((StaticStringBuilder.empty size).print (writeObject object)).content

/-- A text that fits together with its terminator is printed in full. -/
theorem printTo_of_fits {size : Nat} {object : JsonObject}
    (fits : (writeObject object).length + 1 ≤ size) :
    printTo size object = writeObject object ++ [0] := by
  simp only [printTo, StaticStringBuilder.content, StaticStringBuilder.print,
    StaticStringBuilder.empty, List.nil_append, List.length_nil,
    Nat.sub_zero]
  rw [List.take_of_length_le (by omega)]

end FunnelDispenser.Json
