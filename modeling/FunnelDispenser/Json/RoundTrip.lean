import FunnelDispenser.Json.Parser

/-!
# Printing an object and parsing it back

An object of flat members with distinct keys parses back from its own text,
whatever bytes follow.  Strings come back as strings; integers, booleans and
members without a value come back as unparsed tokens with the same text.
-/

namespace FunnelDispenser.Json

open CMemory Decimal

/-- The variants `writeVariant` prints as one token. -/
def IsToken : JsonVariant → Prop
  | .string text => ∀ byte ∈ text, byte ≠ 0
  | .undefined => True
  | .boolean _ => True
  | .positiveInteger _ => True
  | .negativeInteger _ => True
  | _ => False

/-- What a printed token is read back as. -/
def parsedForm : JsonVariant → JsonVariant
  | .string text => .string text
  | variant => .unparsed (writeVariant variant)

theorem skip_of_solid
    {byte : UInt8} (rest : Bytes)
    (notSpace : isSpace byte = false) (notSlash : byte ≠ slashByte) :
    skipSpacesAndComments (byte :: rest) = byte :: rest := by
  rw [skipSpacesAndComments, skipFrom.eq_def]
  simp [notSpace, notSlash]

theorem eat_expected
    (byte : UInt8) (rest : Bytes)
    (notSpace : isSpace byte = false) (notSlash : byte ≠ slashByte) :
    eat byte (byte :: rest) = (true, rest) := by
  simp only [eat, skip_of_solid rest notSpace notSlash, if_true]

theorem eat_other
    (expected byte : UInt8) (rest : Bytes) (different : byte ≠ expected)
    (notSpace : isSpace byte = false) (notSlash : byte ≠ slashByte) :
    eat expected (byte :: rest) = (false, byte :: rest) := by
  simp only [eat, skip_of_solid rest notSpace notSlash, if_neg different]

theorem readQuoted_stop {stop : UInt8} (rest : Bytes) (nonzero : stop ≠ 0) :
    readQuoted stop (stop :: rest) = ([], rest) := by
  rw [readQuoted.eq_def]
  simp [nonzero]

theorem readQuoted_plain
    {stop byte : UInt8} (rest : Bytes) (nonzero : byte ≠ 0)
    (notStop : byte ≠ stop) (notBackslash : byte ≠ backslashByte) :
    readQuoted stop (byte :: rest) =
      (byte :: (readQuoted stop rest).1, (readQuoted stop rest).2) := by
  rw [readQuoted.eq_def]
  simp [nonzero, notStop, notBackslash]

theorem readQuoted_escape
    {stop letter : UInt8} (rest : Bytes) (notStop : backslashByte ≠ stop)
    (nonzero : unescapeChar letter ≠ 0) :
    readQuoted stop (backslashByte :: letter :: rest) =
      (unescapeChar letter :: (readQuoted stop rest).1,
        (readQuoted stop rest).2) := by
  rw [readQuoted.eq_def]
  have solid : backslashByte ≠ 0 := by decide
  simp [notStop, nonzero, solid]

/-- Reading up to the closing quote undoes the escaping. -/
theorem readQuoted_writeChars
    (text rest : Bytes) (nonzero : ∀ byte ∈ text, byte ≠ 0) :
    readQuoted quoteByte (writeChars text ++ quoteByte :: rest) =
      (text, rest) := by
  induction text with
  | nil => exact readQuoted_stop rest (by decide)
  | cons byte text inductionHypothesis =>
      have headNonzero : byte ≠ 0 := nonzero byte (by simp)
      have tail := inductionHypothesis
        (fun tested member => nonzero tested (by simp [member]))
      have split :
          writeChars (byte :: text) = writeChar byte ++ writeChars text := by
        simp [writeChars]
      rw [split, List.append_assoc]
      rcases writeChar_cases byte headNonzero with
        ⟨plain, notQuote, notBackslash⟩ | ⟨letter, escaped, _, reads⟩
      · rw [plain, List.singleton_append,
          readQuoted_plain _ headNonzero notQuote notBackslash, tail]
      · rw [escaped, List.cons_append, List.singleton_append,
          readQuoted_escape _ (by decide) (by rwa [reads]), tail, reads]

theorem parseString_writeString
    (text rest : Bytes) (nonzero : ∀ byte ∈ text, byte ≠ 0) :
    parseString (writeString text ++ rest) = (text, rest) := by
  have shape :
      writeString text ++ rest =
        quoteByte :: (writeChars text ++ quoteByte :: rest) := by
    simp [writeString]
  rw [shape, parseString,
    skip_of_solid _ (by decide) (by decide)]
  simp only [show isQuote quoteByte = true from by decide, if_true]
  exact readQuoted_writeChars text rest nonzero

theorem readUnquoted_append
    (text : Bytes) (stop : UInt8) (rest : Bytes)
    (inside : ∀ byte ∈ text, canBeInNonQuotedString byte = true)
    (stops : canBeInNonQuotedString stop = false) :
    readUnquoted (text ++ stop :: rest) = (text, stop :: rest) := by
  induction text with
  | nil => simp [readUnquoted, stops]
  | cons byte text inductionHypothesis =>
      rw [List.cons_append, readUnquoted,
        if_pos (inside byte (by simp)),
        inductionHypothesis
          (fun tested member => inside tested (by simp [member]))]

/-- The bytes that end a token: a comma or a closing brace. -/
def EndsToken (byte : UInt8) : Prop :=
  byte = commaByte ∨ byte = closeBraceByte

theorem EndsToken.stops {byte : UInt8} (ends : EndsToken byte) :
    canBeInNonQuotedString byte = false := by
  rcases ends with rfl | rfl <;> decide

theorem EndsToken.solid {byte : UInt8} (ends : EndsToken byte) :
    isSpace byte = false ∧ byte ≠ slashByte := by
  rcases ends with rfl | rfl <;> decide

theorem canBeInNonQuotedString_of_isDigit
    {byte : UInt8} (digit : isDigit byte = true) :
    canBeInNonQuotedString byte = true := by
  simp only [isDigit, Bool.and_eq_true] at digit
  simp only [canBeInNonQuotedString, digit.1, digit.2, Bool.and_self,
    Bool.true_or]

theorem solid_of_unquoted
    {byte : UInt8} (inside : canBeInNonQuotedString byte = true) :
    isSpace byte = false ∧ byte ≠ slashByte ∧ isQuote byte = false ∧
      byte ≠ openBracketByte ∧ byte ≠ openBraceByte := by
  have avoids : ∀ other, canBeInNonQuotedString other = false →
      byte ≠ other := by
    rintro other outside rfl
    rw [inside] at outside
    cases outside
  refine ⟨?_, avoids _ (by decide), ?_, avoids _ (by decide),
    avoids _ (by decide)⟩
  · simp [isSpace, avoids 32 (by decide), avoids 9 (by decide),
      avoids 13 (by decide), avoids 10 (by decide)]
  · simp [isQuote, avoids apostropheByte (by decide),
      avoids quoteByte (by decide)]

/-- An unquoted text followed by the end of the token is one raw value. -/
theorem parseAnythingTo_unquoted
    (fuel nestingLimit : Nat) (buffer : StaticJsonBuffer)
    (text : Bytes) {stop : UInt8} (rest : Bytes)
    (inside : ∀ byte ∈ text, canBeInNonQuotedString byte = true)
    (ends : EndsToken stop) :
    parseAnythingTo (fuel + 1) nestingLimit buffer (text ++ stop :: rest) =
      .done (.unparsed text) (stop :: rest) buffer := by
  obtain ⟨first, tail, shape, notSpace, notSlash, notQuote, notBracket,
      notBrace⟩ :
      ∃ first tail, text ++ stop :: rest = first :: tail ∧
        isSpace first = false ∧ first ≠ slashByte ∧
        isQuote first = false ∧ first ≠ openBracketByte ∧
        first ≠ openBraceByte := by
    cases text with
    | nil =>
        refine ⟨stop, rest, rfl, ends.solid.1, ends.solid.2, ?_⟩
        rcases ends with rfl | rfl <;> decide
    | cons byte text =>
        exact ⟨byte, text ++ stop :: rest, rfl,
          solid_of_unquoted (inside byte (by simp))⟩
  have unquoted := readUnquoted_append text stop rest inside ends.stops
  rw [shape] at unquoted ⊢
  simp only [parseAnythingTo, skip_of_solid tail notSpace notSlash,
    if_neg notBracket, if_neg notBrace, parseStringTo, parseString,
    notQuote, Bool.false_eq_true, if_false, unquoted]

theorem parseAnythingTo_quoted
    (fuel nestingLimit : Nat) (buffer : StaticJsonBuffer)
    (text rest : Bytes) (nonzero : ∀ byte ∈ text, byte ≠ 0) :
    parseAnythingTo (fuel + 1) nestingLimit buffer
        (writeString text ++ rest) =
      .done (.string text) rest buffer := by
  have parsed := parseString_writeString text rest nonzero
  have shape :
      writeString text ++ rest =
        quoteByte :: (writeChars text ++ quoteByte :: rest) := by
    simp [writeString]
  rw [shape] at parsed ⊢
  simp only [parseAnythingTo,
    skip_of_solid _ (show isSpace quoteByte = false from by decide)
      (by decide)]
  rw [if_neg (by decide), if_neg (by decide)]
  simp only [parseStringTo, parsed,
    show isQuote quoteByte = true from by decide, if_true]

theorem parseAnythingTo_writeVariant
    (fuel nestingLimit : Nat) (buffer : StaticJsonBuffer)
    {variant : JsonVariant} (token : IsToken variant)
    {stop : UInt8} (rest : Bytes) (ends : EndsToken stop) :
    parseAnythingTo (fuel + 1) nestingLimit buffer
        (writeVariant variant ++ stop :: rest) =
      .done (parsedForm variant) (stop :: rest) buffer := by
  have digits : ∀ magnitude, ∀ byte ∈ writeInteger magnitude,
      canBeInNonQuotedString byte = true := by
    intro magnitude byte member
    exact canBeInNonQuotedString_of_isDigit
      (isDigit_of_mem_printNat member)
  cases variant with
  | string text =>
      exact parseAnythingTo_quoted fuel nestingLimit buffer text
        (stop :: rest) token
  | undefined =>
      exact parseAnythingTo_unquoted fuel nestingLimit buffer [] rest
        (by simp) ends
  | boolean value =>
      apply parseAnythingTo_unquoted fuel nestingLimit buffer _ rest _ ends
      exact List.all_eq_true.mp (by cases value <;> decide)
  | positiveInteger magnitude =>
      exact parseAnythingTo_unquoted fuel nestingLimit buffer _ rest
        (digits magnitude) ends
  | negativeInteger magnitude =>
      apply parseAnythingTo_unquoted fuel nestingLimit buffer _ rest _ ends
      intro byte member
      rcases List.mem_cons.mp member with rfl | inDigits
      · decide
      · exact digits magnitude byte inDigits
  | unparsed text => exact token.elim
  | float printed => exact token.elim
  | array => exact token.elim
  | object => exact token.elim

private theorem parseInteger_printNat (value : Nat) :
    JsonVariant.parseInteger (printNat value) = BitVec.ofNat 32 value := by
  have digits : ∀ byte ∈ printNat value, isDigit byte = true :=
    fun _ member => isDigit_of_mem_printNat member
  have whole := readDigits_printNat value [] (by simp)
  rw [List.append_nil] at whole
  cases shape : printNat value with
  | nil => exact absurd shape (printNat_ne_nil value)
  | cons byte rest =>
      have digit : isDigit byte = true := digits byte (by simp [shape])
      have avoids : ∀ other, isDigit other = false → byte ≠ other := by
        rintro other notDigit rfl
        rw [digit] at notDigit
        cases notDigit
      rw [JsonVariant.parseInteger, if_neg (avoids 116 (by decide)),
        if_neg (avoids 45 (by decide)), if_neg (avoids 43 (by decide)),
        ← shape, whole]

/-- A printed `int` converts back to itself, the smallest one included. -/
theorem asInteger_parsedForm_ofInt
    (pointerRead : BitVec 32) (value : BitVec 32) :
    (parsedForm (.ofInt value)).asInteger pointerRead = value := by
  unfold JsonVariant.ofInt
  split
  · simp only [parsedForm, writeVariant, writeInteger,
      JsonVariant.asInteger, parseInteger_printNat, BitVec.ofNat_toNat,
      BitVec.setWidth_eq]
  · have digits := readDigits_printNat (-value).toNat [] (by simp)
    rw [List.append_nil] at digits
    simp only [parsedForm, writeVariant, writeInteger,
      JsonVariant.asInteger, JsonVariant.parseInteger]
    rw [if_neg (by decide), if_true, digits, BitVec.ofNat_toNat,
      BitVec.setWidth_eq]
    change ~~~(-value) + 1#32 = value
    rw [← BitVec.neg_eq_not_add, BitVec.neg_neg]

theorem asBoolean_parsedForm_boolean
    (pointerRead : BitVec 32) (value : Bool) :
    (parsedForm (.boolean value)).asBoolean pointerRead = value := by
  cases value <;> rfl

theorem find_of_mem
    {attached : Bool} {members : List (Bytes × JsonVariant)}
    {key : Bytes} {variant : JsonVariant}
    (distinct : (members.map Prod.fst).Nodup)
    (member : (key, variant) ∈ members) :
    JsonObject.find ⟨attached, members⟩ key = some variant := by
  unfold JsonObject.find
  induction members with
  | nil => simp at member
  | cons first rest inductionHypothesis =>
      obtain ⟨notInRest, restDistinct⟩ := List.nodup_cons.mp distinct
      rcases List.mem_cons.mp member with rfl | inRest
      · simp
      · have different : first.1 ≠ key := by
          rintro rfl
          exact notInRest (List.mem_map.mpr ⟨_, inRest, rfl⟩)
        simp only [List.find?_cons, different, decide_false]
        exact inductionHypothesis restDistinct inRest

/-- The pool space `count` further nodes need. -/
def nodesFit (buffer : StaticJsonBuffer) (count : Nat) : Prop :=
  roundSizeUp buffer.size + objectNodeSize * count ≤ buffer.capacity

private theorem setMember_parsed
    {buffer : StaticJsonBuffer} {members : List (Bytes × JsonVariant)}
    {key : Bytes} (variant : JsonVariant) {count : Nat}
    (fresh : key ∉ members.map Prod.fst)
    (fits : nodesFit buffer (count + 1)) :
    ∃ next, setMember buffer ⟨true, members⟩ key (.value variant) =
        (next, ⟨true, members ++ [(key, variant)]⟩, true) ∧
      nodesFit next count := by
  have nodeFits :
      roundSizeUp buffer.size + objectNodeSize ≤ buffer.capacity := by
    simp only [nodesFit, objectNodeSize] at fits ⊢
    omega
  refine ⟨_, setMember_value variant fresh nodeFits, ?_⟩
  simp only [nodesFit, objectNodeSize, roundSizeUp] at fits ⊢
  omega

/-- One round of the member loop on a printed member: behind the closing
brace the object is done, behind a comma the loop goes on. -/
private theorem parseMembers_writeMember
    (fuel nestingLimit : Nat) {buffer next : StaticJsonBuffer}
    {known : List (Bytes × JsonVariant)} {key : Bytes}
    {variant : JsonVariant} (keyNonzero : ∀ byte ∈ key, byte ≠ 0)
    (token : IsToken variant)
    (stored : setMember buffer ⟨true, known⟩ key
        (.value (parsedForm variant)) =
      (next, ⟨true, known ++ [(key, parsedForm variant)]⟩, true))
    {stop : UInt8} (ends : stop = commaByte ∨ stop = closeBraceByte)
    (behind : Bytes) :
    parseMembers (fuel + 2) nestingLimit buffer ⟨true, known⟩
        (writeMember (key, variant) ++ stop :: behind) =
      if stop = closeBraceByte then
        .done ⟨true, known ++ [(key, parsedForm variant)]⟩ behind next
      else
        parseMembers (fuel + 1) nestingLimit next
          ⟨true, known ++ [(key, parsedForm variant)]⟩ behind := by
  have shape :
      writeMember (key, variant) ++ stop :: behind =
        writeString key ++ (colonByte ::
          (writeVariant variant ++ stop :: behind)) := by
    simp [writeMember]
  rw [shape, parseMembers, parseString_writeString key _ keyNonzero]
  simp only [eat_expected colonByte _ (by decide) (by decide),
    parseAnythingTo_writeVariant fuel nestingLimit buffer token behind ends,
    stored]
  rcases ends with rfl | rfl
  · simp only [
      eat_other closeBraceByte commaByte _ (by decide) (by decide)
        (by decide),
      eat_expected commaByte _ (by decide) (by decide)]
    rw [if_neg (by decide)]
  · simp only [eat_expected closeBraceByte _ (by decide) (by decide),
      if_true]

/-- The member loop of `parseObject` reads a printed member list back. -/
theorem parseMembers_writeMembers
    (nestingLimit : Nat) (tail : Bytes)
    (members : List (Bytes × JsonVariant)) (nonempty : members ≠ [])
    (fuel : Nat) (enough : members.length < fuel)
    (known : List (Bytes × JsonVariant)) (buffer : StaticJsonBuffer)
    (distinct : ((known ++ members).map Prod.fst).Nodup)
    (keys : ∀ member ∈ members, ∀ byte ∈ member.1, byte ≠ 0)
    (tokens : ∀ member ∈ members, IsToken member.2)
    (fits : nodesFit buffer members.length) :
    ∃ final, parseMembers fuel nestingLimit buffer ⟨true, known⟩
        (writeMembers members ++ tail) =
      .done
        ⟨true, known ++ members.map fun member =>
          (member.1, parsedForm member.2)⟩
        tail final := by
  induction members generalizing fuel known buffer with
  | nil => exact absurd rfl nonempty
  | cons member rest inductionHypothesis =>
      obtain ⟨key, variant⟩ := member
      obtain ⟨fuel, rfl⟩ : ∃ smaller, fuel = smaller + 2 :=
        ⟨fuel - 2, by simp only [List.length_cons] at enough; omega⟩
      have keyNonzero := keys (key, variant) (by simp)
      have token := tokens (key, variant) (by simp)
      have fresh : key ∉ known.map Prod.fst := by
        simp only [List.map_append, List.map_cons] at distinct
        have apart := (List.nodup_append.mp distinct).2.2
        intro member
        exact apart key member key (by simp) rfl
      obtain ⟨next, stored, nextFits⟩ :=
        setMember_parsed (parsedForm variant) fresh fits
      cases rest with
      | nil =>
          refine ⟨next, ?_⟩
          have shape :
              writeMembers [(key, variant)] ++ tail =
                writeMember (key, variant) ++ closeBraceByte :: tail := by
            simp [writeMembers]
          rw [shape, parseMembers_writeMember fuel nestingLimit keyNonzero
            token stored (Or.inr rfl), if_pos rfl]
          rfl
      | cons following rest =>
          obtain ⟨final, parsed⟩ :=
            inductionHypothesis (by simp) (fuel + 1)
              (by simp only [List.length_cons] at enough ⊢; omega)
              (known ++ [(key, parsedForm variant)]) next
              (by simpa using distinct)
              (fun member inRest => keys member (by simp [inRest]))
              (fun member inRest => tokens member (by simp [inRest]))
              nextFits
          refine ⟨final, ?_⟩
          have shape :
              writeMembers ((key, variant) :: following :: rest) ++ tail =
                writeMember (key, variant) ++ commaByte ::
                  (writeMembers (following :: rest) ++ tail) := by
            simp [writeMembers]
          rw [shape, parseMembers_writeMember fuel nestingLimit keyNonzero
            token stored (Or.inl rfl), if_neg (by decide), parsed]
          simp

private theorem length_le_writeMembers
    (members : List (Bytes × JsonVariant)) :
    members.length ≤ (writeMembers members).length := by
  induction members with
  | nil => simp [writeMembers]
  | cons member rest inductionHypothesis =>
      cases rest with
      | nil => simp [writeMembers]
      | cons following rest =>
          simp only [writeMembers, List.length_append,
            List.length_cons] at inductionHypothesis ⊢
          omega

/-- A printed object parses back from its text, whatever follows it in
memory, as long as the pool has room for its nodes. -/
theorem parseDocument_writeObject
    (capacity : Nat) (members : List (Bytes × JsonVariant)) (tail : Bytes)
    (distinct : (members.map Prod.fst).Nodup)
    (keys : ∀ member ∈ members, ∀ byte ∈ member.1, byte ≠ 0)
    (tokens : ∀ member ∈ members, IsToken member.2)
    (fits : headerSize + objectNodeSize * members.length ≤ capacity) :
    ∃ final, parseDocument capacity
        (writeObject ⟨true, members⟩ ++ tail) =
      .done
        ⟨true, members.map fun member => (member.1, parsedForm member.2)⟩
        tail final := by
  have created :
      createObject (StaticJsonBuffer.empty capacity) =
        (⟨capacity, headerSize⟩, ⟨true, []⟩) := by
    have headerFits :
        roundSizeUp (StaticJsonBuffer.empty capacity).size + headerSize ≤
          (StaticJsonBuffer.empty capacity).capacity := by
      simp only [StaticJsonBuffer.empty, roundSizeUp]
      omega
    simp only [createObject, StaticJsonBuffer.alloc_of_fits headerFits]
    simp [StaticJsonBuffer.empty, roundSizeUp]
  have opened :
      eat openBraceByte (writeObject ⟨true, members⟩ ++ tail) =
        (true, writeMembers members ++ tail) := by
    exact eat_expected _ _ (by decide) (by decide)
  obtain ⟨fuel, fuelShape⟩ : ∃ fuel,
      parseFuel (writeObject ⟨true, members⟩ ++ tail) = fuel + 1 :=
    ⟨_, rfl⟩
  have enough : members.length < fuel := by
    have size := length_le_writeMembers members
    simp only [parseFuel, writeObject, List.length_append,
      List.length_cons] at fuelShape
    omega
  have roomForNodes : nodesFit ⟨capacity, headerSize⟩ members.length := by
    simpa [nodesFit, headerSize, roundSizeUp] using fits
  rw [parseDocument, fuelShape, defaultNestingLimit, parseObject]
  simp only [created, opened]
  cases members with
  | nil =>
      refine ⟨⟨capacity, headerSize⟩, ?_⟩
      rw [writeMembers, List.singleton_append,
        eat_expected _ tail (by decide) (by decide)]
      rfl
  | cons member rest =>
      obtain ⟨keyTail, shape⟩ : ∃ keyTail,
          writeMembers (member :: rest) ++ tail = quoteByte :: keyTail := by
        cases rest <;> simp [writeMembers, writeMember, writeString]
      have notEmpty :
          eat closeBraceByte (writeMembers (member :: rest) ++ tail) =
            (false, writeMembers (member :: rest) ++ tail) := by
        rw [shape]
        exact eat_other _ _ _ (by decide) (by decide) (by decide)
      rw [notEmpty]
      exact parseMembers_writeMembers _ tail (member :: rest) (by simp)
        fuel enough [] _ (by simpa using distinct) keys tokens
        roomForNodes

end FunnelDispenser.Json
