import FunnelDispenser.Json.RoundTrip
import FunnelDispenser.Json.Termination

/-!
# Parsing inside the input

The buffer has no terminator, so a reader that is not stopped by a byte of
the input goes on in the memory behind it.  The checks here follow the parser
and fail where it would look at a byte behind the end; when they succeed the
memory behind the input does not matter.
-/

namespace FunnelDispenser.Json

open CMemory

/-- `skipSpacesAndComments` looks at bytes of the input only. -/
def skipInside : SkipMode → Bytes → Bool
  | _, [] => false
  | .blank, byte :: rest =>
      if isSpace byte then
        skipInside .blank rest
      else if byte = slashByte then
        match rest with
        | [] => false
        | next :: inner =>
            if next = 42 then
              skipInside .block inner
            else if next = slashByte then
              skipInside .line inner
            else
              true
      else
        true
  | .block, byte :: rest =>
      if byte = 0 then
        true
      else if byte = 42 then
        match rest with
        | [] => false
        | next :: inner =>
            if next = slashByte then
              skipInside .blank inner
            else
              skipInside .block (next :: inner)
      else
        skipInside .block rest
  | .line, byte :: rest =>
      if byte = 0 then
        true
      else if byte = 10 then
        skipInside .blank rest
      else
        skipInside .line rest

/-- `eat` looks at what `skipSpacesAndComments` stops at. -/
def eatInside (input : Bytes) : Bool :=
  skipInside .blank input

def quotedInside (stop : UInt8) : Bytes → Bool
  | [] => false
  | byte :: rest =>
      if byte = 0 then
        true
      else if byte = stop then
        true
      else if byte = backslashByte then
        match rest with
        | [] => false
        | letter :: inner =>
            if unescapeChar letter = 0 then true
            else quotedInside stop inner
      else
        quotedInside stop rest

def unquotedInside : Bytes → Bool
  | [] => false
  | byte :: rest =>
      if canBeInNonQuotedString byte then unquotedInside rest else true

def stringInside (input : Bytes) : Bool :=
  skipInside .blank input &&
    match skipSpacesAndComments input with
    | [] => false
    | byte :: rest =>
        if isQuote byte then quotedInside byte rest
        else unquotedInside (byte :: rest)

mutual

def anythingInside (fuel nestingLimit : Nat) (buffer : StaticJsonBuffer)
    (input : Bytes) : Bool :=
  match fuel with
  | 0 => false
  | fuel + 1 =>
      skipInside .blank input &&
        match skipSpacesAndComments input with
        | [] => false
        | byte :: rest =>
            if byte = openBracketByte then
              arrayInside fuel nestingLimit buffer (byte :: rest)
            else if byte = openBraceByte then
              objectInside fuel nestingLimit buffer (byte :: rest)
            else
              stringInside (byte :: rest)
termination_by structural fuel

def arrayInside (fuel nestingLimit : Nat) (buffer : StaticJsonBuffer)
    (input : Bytes) : Bool :=
  match fuel with
  | 0 => false
  | fuel + 1 =>
      match nestingLimit with
      | 0 => true
      | nestingLimit + 1 =>
          let (next, attached) := buffer.alloc headerSize
          eatInside input &&
            match eat openBracketByte input with
            | (false, _) => true
            | (true, opened) =>
                eatInside opened &&
                  match eat closeBracketByte opened with
                  | (true, _) => true
                  | (false, first) =>
                      elementsInside fuel nestingLimit next attached first
termination_by structural fuel

def elementsInside (fuel nestingLimit : Nat) (buffer : StaticJsonBuffer)
    (attached : Bool) (input : Bytes) : Bool :=
  match fuel with
  | 0 => false
  | fuel + 1 =>
      anythingInside fuel nestingLimit buffer input &&
        match parseAnythingTo fuel nestingLimit buffer input with
        | .invalid => true
        | .exhausted => false
        | .done _ afterValue afterBuffer =>
            if attached then
              match afterBuffer.alloc arrayNodeSize with
              | (_, false) => true
              | (next, true) =>
                  eatInside afterValue &&
                    match eat closeBracketByte afterValue with
                    | (true, _) => true
                    | (false, unclosed) =>
                        eatInside unclosed &&
                          match eat commaByte unclosed with
                          | (false, _) => true
                          | (true, following) =>
                              elementsInside fuel nestingLimit next attached
                                following
            else
              true
termination_by structural fuel

def objectInside (fuel nestingLimit : Nat) (buffer : StaticJsonBuffer)
    (input : Bytes) : Bool :=
  match fuel with
  | 0 => false
  | fuel + 1 =>
      match nestingLimit with
      | 0 => true
      | nestingLimit + 1 =>
          let (next, object) := createObject buffer
          eatInside input &&
            match eat openBraceByte input with
            | (false, _) => true
            | (true, opened) =>
                eatInside opened &&
                  match eat closeBraceByte opened with
                  | (true, _) => true
                  | (false, first) =>
                      membersInside fuel nestingLimit next object first
termination_by structural fuel

def membersInside (fuel nestingLimit : Nat) (buffer : StaticJsonBuffer)
    (object : JsonObject) (input : Bytes) : Bool :=
  match fuel with
  | 0 => false
  | fuel + 1 =>
      let (key, afterKey) := parseString input
      stringInside input && eatInside afterKey &&
        match eat colonByte afterKey with
        | (false, _) => true
        | (true, valueInput) =>
            anythingInside fuel nestingLimit buffer valueInput &&
              match parseAnythingTo fuel nestingLimit buffer valueInput with
              | .invalid => true
              | .exhausted => false
              | .done variant afterValue afterBuffer =>
                  match setMember afterBuffer object key (.value variant) with
                  | (_, _, false) => true
                  | (next, grown, true) =>
                      eatInside afterValue &&
                        match eat closeBraceByte afterValue with
                        | (true, _) => true
                        | (false, unclosed) =>
                            eatInside unclosed &&
                              match eat commaByte unclosed with
                              | (false, _) => true
                              | (true, following) =>
                                  membersInside fuel nestingLimit next grown
                                    following
termination_by structural fuel

end

/-- Parsing the input looks at no byte behind its end. -/
def documentInside (capacity : Nat) (input : Bytes) : Bool :=
  objectInside (parseFuel input) defaultNestingLimit
    (StaticJsonBuffer.empty capacity) input

section Skip

variable {byte next : UInt8} (rest : Bytes)

private theorem skip_space (space : isSpace byte = true) :
    skipFrom .blank (byte :: rest) = skipFrom .blank rest := by
  rw [skipFrom.eq_def]
  simp [space]

private theorem skip_other (solid : isSpace byte = false)
    (notSlash : byte ≠ slashByte) :
    skipFrom .blank (byte :: rest) = byte :: rest :=
  skip_of_solid rest solid notSlash

private theorem skip_slash :
    skipFrom .blank (slashByte :: next :: rest) =
      if next = 42 then skipFrom .block rest
      else if next = slashByte then skipFrom .line rest
      else slashByte :: next :: rest := by
  rw [skipFrom.eq_def]
  rfl

private theorem skip_block (nonzero : byte ≠ 0) (notStar : byte ≠ 42) :
    skipFrom .block (byte :: rest) = skipFrom .block rest := by
  rw [skipFrom.eq_def]
  simp [nonzero, notStar]

private theorem skip_blockNul :
    skipFrom .block (0 :: rest) = 0 :: rest := by
  rw [skipFrom.eq_def]
  rfl

private theorem skip_star :
    skipFrom .block (42 :: next :: rest) =
      if next = slashByte then skipFrom .blank rest
      else skipFrom .block (next :: rest) := by
  rw [skipFrom.eq_def]
  rfl

private theorem skip_line :
    skipFrom .line (byte :: rest) =
      if byte = 0 then byte :: rest
      else if byte = 10 then skipFrom .blank rest
      else skipFrom .line rest := by
  rw [skipFrom.eq_def]

theorem skipFrom_append {mode : SkipMode} {input : Bytes}
    (inside : skipInside mode input = true) (tail : Bytes) :
    skipFrom mode (input ++ tail) = skipFrom mode input ++ tail ∧
      skipFrom mode input ≠ [] := by
  fun_induction skipInside mode input <;>
    simp_all [skip_space, skip_other, skip_slash, skip_block, skip_blockNul,
      skip_star, skip_line]

end Skip

theorem eat_append {input : Bytes} (inside : eatInside input = true)
    (expected : UInt8) (tail : Bytes) :
    eat expected (input ++ tail) =
      ((eat expected input).1, (eat expected input).2 ++ tail) := by
  obtain ⟨appended, nonempty⟩ := skipFrom_append inside tail
  unfold eat
  rw [skipSpacesAndComments, appended, skipSpacesAndComments]
  cases found : skipFrom .blank input with
  | nil => exact absurd found nonempty
  | cons byte rest =>
      rw [List.cons_append]
      simp only
      split <;> rfl

section Quoted

variable {stop byte letter : UInt8} (rest : Bytes)

private theorem quoted_nul :
    readQuoted stop (0 :: rest) = ([], 0 :: rest) := by
  rw [readQuoted.eq_def]
  rfl

private theorem quoted_badEscape (notStop : backslashByte ≠ stop)
    (bad : unescapeChar letter = 0) :
    readQuoted stop (backslashByte :: letter :: rest) =
      ([], letter :: rest) := by
  rw [readQuoted.eq_def]
  have nonzero : backslashByte ≠ 0 := by decide
  simp [notStop, bad, nonzero]

theorem readQuoted_append {input : Bytes}
    (inside : quotedInside stop input = true) (tail : Bytes) :
    readQuoted stop (input ++ tail) =
      ((readQuoted stop input).1, (readQuoted stop input).2 ++ tail) := by
  fun_induction quotedInside stop input <;>
    simp_all [quoted_nul, quoted_badEscape, readQuoted_stop,
      readQuoted_plain, readQuoted_escape]

end Quoted

theorem readUnquoted_append_tail {input : Bytes}
    (inside : unquotedInside input = true) (tail : Bytes) :
    readUnquoted (input ++ tail) =
      ((readUnquoted input).1, (readUnquoted input).2 ++ tail) := by
  fun_induction unquotedInside input <;> simp_all [readUnquoted]

theorem parseString_append {input : Bytes}
    (inside : stringInside input = true) (tail : Bytes) :
    parseString (input ++ tail) =
      ((parseString input).1, (parseString input).2 ++ tail) := by
  unfold stringInside at inside
  rw [Bool.and_eq_true] at inside
  obtain ⟨skips, reads⟩ := inside
  obtain ⟨appended, nonempty⟩ := skipFrom_append skips tail
  unfold parseString
  rw [skipSpacesAndComments] at reads
  rw [skipSpacesAndComments, appended, skipSpacesAndComments]
  cases found : skipFrom .blank input with
  | nil => exact absurd found nonempty
  | cons byte rest =>
      simp only [found] at reads
      rw [List.cons_append]
      simp only
      cases quoted : isQuote byte
      · rw [quoted] at reads
        exact readUnquoted_append_tail reads tail
      · rw [quoted] at reads
        exact readQuoted_append reads tail

theorem parseStringTo_append {byte : UInt8} {rest : Bytes}
    (inside : stringInside (byte :: rest) = true) (tail : Bytes) :
    parseStringTo (byte :: rest ++ tail) =
      ((parseStringTo (byte :: rest)).1,
        (parseStringTo (byte :: rest)).2 ++ tail) := by
  have read := parseString_append inside tail
  rw [List.cons_append] at read
  rw [List.cons_append, parseStringTo, read]
  rfl

/-- The same result with more behind the rest. -/
def Parsed.append {Value : Type} (tail : Bytes) :
    Parsed Value → Parsed Value
  | .done value rest buffer => .done value (rest ++ tail) buffer
  | .invalid => .invalid
  | .exhausted => .exhausted

/-- With this much fuel and inside the input, the result is the same for
more fuel and more input. -/
structure AppendsWithFuel (fuel : Nat) : Prop where
  anything : ∀ more, fuel ≤ more → ∀ nestingLimit buffer input tail,
    anythingInside fuel nestingLimit buffer input = true →
      parseAnythingTo more nestingLimit buffer (input ++ tail) =
        (parseAnythingTo fuel nestingLimit buffer input).append tail
  array : ∀ more, fuel ≤ more → ∀ nestingLimit buffer input tail,
    arrayInside fuel nestingLimit buffer input = true →
      parseArray more nestingLimit buffer (input ++ tail) =
        (parseArray fuel nestingLimit buffer input).append tail
  elements : ∀ more, fuel ≤ more → ∀ nestingLimit buffer attached input tail,
    elementsInside fuel nestingLimit buffer attached input = true →
      parseElements more nestingLimit buffer attached (input ++ tail) =
        (parseElements fuel nestingLimit buffer attached input).append tail
  object : ∀ more, fuel ≤ more → ∀ nestingLimit buffer input tail,
    objectInside fuel nestingLimit buffer input = true →
      parseObject more nestingLimit buffer (input ++ tail) =
        (parseObject fuel nestingLimit buffer input).append tail
  members : ∀ more, fuel ≤ more → ∀ nestingLimit buffer object input tail,
    membersInside fuel nestingLimit buffer object input = true →
      parseMembers more nestingLimit buffer object (input ++ tail) =
        (parseMembers fuel nestingLimit buffer object input).append tail

section Step

variable {fuel more : Nat}

private theorem anything_append (appends : AppendsWithFuel fuel)
    (bound : fuel ≤ more) (nestingLimit : Nat) (buffer : StaticJsonBuffer)
    (input tail : Bytes)
    (inside : anythingInside (fuel + 1) nestingLimit buffer input = true) :
    parseAnythingTo (more + 1) nestingLimit buffer (input ++ tail) =
      (parseAnythingTo (fuel + 1) nestingLimit buffer input).append tail := by
  rw [anythingInside, Bool.and_eq_true] at inside
  obtain ⟨skips, reads⟩ := inside
  obtain ⟨skipped, _⟩ := skipFrom_append skips tail
  have appended : skipSpacesAndComments (input ++ tail) =
      skipSpacesAndComments input ++ tail := skipped
  rw [parseAnythingTo, parseAnythingTo, appended]
  cases found : skipSpacesAndComments input with
  | nil =>
      rw [found] at reads
      cases reads
  | cons byte rest =>
      rw [found] at reads
      rw [List.cons_append]
      simp only at reads ⊢
      by_cases isArray : byte = openBracketByte
      · rw [if_pos isArray] at reads
        rw [if_pos isArray, if_pos isArray, ← List.cons_append,
          appends.array more bound nestingLimit buffer _ tail reads]
        cases parseArray fuel nestingLimit buffer (byte :: rest) with
        | done attached final next => cases attached <;> rfl
        | invalid => rfl
        | exhausted => rfl
      · rw [if_neg isArray] at reads
        rw [if_neg isArray, if_neg isArray]
        by_cases isObject : byte = openBraceByte
        · rw [if_pos isObject] at reads
          rw [if_pos isObject, if_pos isObject, ← List.cons_append,
            appends.object more bound nestingLimit buffer _ tail reads]
          cases parseObject fuel nestingLimit buffer (byte :: rest) with
          | done object final next =>
              simp only [Parsed.append]
              split <;> rfl
          | invalid => rfl
          | exhausted => rfl
        · rw [if_neg isObject] at reads
          rw [if_neg isObject, if_neg isObject, ← List.cons_append,
            parseStringTo_append reads tail]
          rfl

private theorem array_append (appends : AppendsWithFuel fuel)
    (bound : fuel ≤ more) (nestingLimit : Nat) (buffer : StaticJsonBuffer)
    (input tail : Bytes)
    (inside : arrayInside (fuel + 1) nestingLimit buffer input = true) :
    parseArray (more + 1) nestingLimit buffer (input ++ tail) =
      (parseArray (fuel + 1) nestingLimit buffer input).append tail := by
  cases nestingLimit with
  | zero =>
      rw [parseArray, parseArray]
      rfl
  | succ nestingLimit =>
      rw [arrayInside, Bool.and_eq_true] at inside
      obtain ⟨opens, behind⟩ := inside
      rw [parseArray, parseArray, eat_append opens]
      simp only
      cases opening : eat openBracketByte input with
      | mk isOpen opened =>
          rw [opening] at behind
          cases isOpen
          · rfl
          · simp only at behind ⊢
            rw [Bool.and_eq_true] at behind
            obtain ⟨closes, elements⟩ := behind
            rw [eat_append closes]
            cases closing : eat closeBracketByte opened with
            | mk closed first =>
                rw [closing] at elements
                cases closed
                · exact appends.elements more bound _ _ _ _ tail elements
                · rfl

private theorem elements_append (appends : AppendsWithFuel fuel)
    (bound : fuel ≤ more) (nestingLimit : Nat) (buffer : StaticJsonBuffer)
    (attached : Bool) (input tail : Bytes)
    (inside : elementsInside (fuel + 1) nestingLimit buffer attached input =
      true) :
    parseElements (more + 1) nestingLimit buffer attached (input ++ tail) =
      (parseElements (fuel + 1) nestingLimit buffer attached input).append
        tail := by
  rw [elementsInside, Bool.and_eq_true] at inside
  obtain ⟨value, behind⟩ := inside
  rw [parseElements, parseElements,
    appends.anything more bound nestingLimit buffer input tail value]
  cases parsed : parseAnythingTo fuel nestingLimit buffer input with
  | invalid => rfl
  | exhausted => rfl
  | done variant afterValue afterBuffer =>
      rw [parsed] at behind
      simp only [Parsed.append] at behind ⊢
      cases attached
      · rfl
      · simp only [if_true] at behind ⊢
        cases stored : afterBuffer.alloc arrayNodeSize with
        | mk next hasRoom =>
            rw [stored] at behind
            cases hasRoom
            · rfl
            · simp only at behind ⊢
              rw [Bool.and_eq_true] at behind
              obtain ⟨closes, unclosedInside⟩ := behind
              rw [eat_append closes]
              cases closing : eat closeBracketByte afterValue with
              | mk closed unclosed =>
                  rw [closing] at unclosedInside
                  cases closed
                  · simp only at unclosedInside ⊢
                    rw [Bool.and_eq_true] at unclosedInside
                    obtain ⟨separates, following⟩ := unclosedInside
                    rw [eat_append separates]
                    cases separating : eat commaByte unclosed with
                    | mk isComma behindComma =>
                        rw [separating] at following
                        cases isComma
                        · rfl
                        · exact appends.elements more bound _ _ _ _ tail
                            following
                  · rfl

private theorem object_append (appends : AppendsWithFuel fuel)
    (bound : fuel ≤ more) (nestingLimit : Nat) (buffer : StaticJsonBuffer)
    (input tail : Bytes)
    (inside : objectInside (fuel + 1) nestingLimit buffer input = true) :
    parseObject (more + 1) nestingLimit buffer (input ++ tail) =
      (parseObject (fuel + 1) nestingLimit buffer input).append tail := by
  cases nestingLimit with
  | zero =>
      rw [parseObject, parseObject]
      rfl
  | succ nestingLimit =>
      rw [objectInside, Bool.and_eq_true] at inside
      obtain ⟨opens, behind⟩ := inside
      rw [parseObject, parseObject, eat_append opens]
      simp only
      cases opening : eat openBraceByte input with
      | mk isOpen opened =>
          rw [opening] at behind
          cases isOpen
          · rfl
          · simp only at behind ⊢
            rw [Bool.and_eq_true] at behind
            obtain ⟨closes, members⟩ := behind
            rw [eat_append closes]
            cases closing : eat closeBraceByte opened with
            | mk closed first =>
                rw [closing] at members
                cases closed
                · exact appends.members more bound _ _ _ _ tail members
                · rfl

private theorem members_append (appends : AppendsWithFuel fuel)
    (bound : fuel ≤ more) (nestingLimit : Nat) (buffer : StaticJsonBuffer)
    (object : JsonObject) (input tail : Bytes)
    (inside : membersInside (fuel + 1) nestingLimit buffer object input =
      true) :
    parseMembers (more + 1) nestingLimit buffer object (input ++ tail) =
      (parseMembers (fuel + 1) nestingLimit buffer object input).append
        tail := by
  rw [membersInside] at inside
  simp only [Bool.and_eq_true] at inside
  obtain ⟨⟨keyed, colons⟩, behind⟩ := inside
  rw [parseMembers, parseMembers, parseString_append keyed]
  simp only
  rw [eat_append colons]
  cases colon : eat colonByte (parseString input).2 with
  | mk isColon valueInput =>
      rw [colon] at behind
      cases isColon
      · rfl
      · simp only [Bool.and_eq_true] at behind ⊢
        obtain ⟨value, afterwards⟩ := behind
        rw [appends.anything more bound nestingLimit buffer valueInput tail
          value]
        cases parsed : parseAnythingTo fuel nestingLimit buffer
            valueInput with
        | invalid => rfl
        | exhausted => rfl
        | done variant afterValue afterBuffer =>
            rw [parsed] at afterwards
            simp only [Parsed.append] at afterwards ⊢
            rcases stored : setMember afterBuffer object
                (parseString input).1 (.value variant) with
              ⟨next, grown, saved⟩
            rw [stored] at afterwards
            cases saved
            · rfl
            · simp only [Bool.and_eq_true] at afterwards ⊢
              obtain ⟨closes, unclosedInside⟩ := afterwards
              rw [eat_append closes]
              cases closing : eat closeBraceByte afterValue with
              | mk closed unclosed =>
                  rw [closing] at unclosedInside
                  cases closed
                  · simp only [Bool.and_eq_true] at unclosedInside ⊢
                    obtain ⟨separates, following⟩ := unclosedInside
                    rw [eat_append separates]
                    cases separating : eat commaByte unclosed with
                    | mk isComma behindComma =>
                        rw [separating] at following
                        cases isComma
                        · rfl
                        · exact appends.members more bound _ _ _ _ tail
                            following
                  · rfl

end Step

theorem appendsWithFuel (fuel : Nat) : AppendsWithFuel fuel := by
  induction fuel with
  | zero =>
      constructor <;> intro more _ <;> intros <;> rename_i inside
      · rw [anythingInside] at inside
        cases inside
      · rw [arrayInside] at inside
        cases inside
      · rw [elementsInside] at inside
        cases inside
      · rw [objectInside] at inside
        cases inside
      · rw [membersInside] at inside
        cases inside
  | succ fuel inductionHypothesis =>
      have predecessor : ∀ {more : Nat}, fuel + 1 ≤ more →
          ∃ less, more = less + 1 ∧ fuel ≤ less := by
        intro more bound
        exact ⟨more - 1, by omega, by omega⟩
      constructor
      · intro more bound
        obtain ⟨less, rfl, enough⟩ := predecessor bound
        exact anything_append inductionHypothesis enough
      · intro more bound
        obtain ⟨less, rfl, enough⟩ := predecessor bound
        exact array_append inductionHypothesis enough
      · intro more bound
        obtain ⟨less, rfl, enough⟩ := predecessor bound
        exact elements_append inductionHypothesis enough
      · intro more bound
        obtain ⟨less, rfl, enough⟩ := predecessor bound
        exact object_append inductionHypothesis enough
      · intro more bound
        obtain ⟨less, rfl, enough⟩ := predecessor bound
        exact members_append inductionHypothesis enough

/-- A document that is parsed inside its bytes parses to the same with
anything behind them. -/
theorem parseDocument_append {capacity : Nat} {input : Bytes}
    (inside : documentInside capacity input = true) (tail : Bytes) :
    parseDocument capacity (input ++ tail) =
      (parseDocument capacity input).append tail := by
  have more : parseFuel input ≤ parseFuel (input ++ tail) := by
    simp only [parseFuel, List.length_append]
    omega
  exact (appendsWithFuel (parseFuel input)).object _ more _ _ input tail inside

end FunnelDispenser.Json
