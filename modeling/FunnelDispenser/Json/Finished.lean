import FunnelDispenser.Json.Inside

/-!
# Finished parses

What it takes for a parsing function to finish with a value: one inversion
lemma for each of them.  A finished document was read inside its input, and
none of its strings contains a NUL.
-/

namespace FunnelDispenser.Json

open CMemory

section Inversion

variable {fuel nestingLimit : Nat} {buffer next : StaticJsonBuffer}
variable {input rest : Bytes}

theorem parseAnythingTo_done {variant : JsonVariant}
    (finished : parseAnythingTo (fuel + 1) nestingLimit buffer input =
      .done variant rest next) :
    (skipSpacesAndComments input = [] ∧
        parseStringTo [] = (variant, rest)) ∨
      ∃ byte behind, skipSpacesAndComments input = byte :: behind ∧
        ((byte = openBracketByte ∧ variant = .array ∧
            parseArray fuel nestingLimit buffer (byte :: behind) =
              .done true rest next) ∨
          (byte ≠ openBracketByte ∧ byte = openBraceByte ∧
            variant = .object ∧ ∃ object,
              parseObject fuel nestingLimit buffer (byte :: behind) =
                .done object rest next) ∨
          (byte ≠ openBracketByte ∧ byte ≠ openBraceByte ∧
            parseStringTo (byte :: behind) = (variant, rest))) := by
  rw [parseAnythingTo] at finished
  cases skipped : skipSpacesAndComments input with
  | nil =>
      rw [skipped] at finished
      injection finished with sameVariant sameRest _
      exact Or.inl ⟨rfl, Prod.ext sameVariant sameRest⟩
  | cons byte behind =>
      rw [skipped] at finished
      simp only at finished
      refine Or.inr ⟨byte, behind, rfl, ?_⟩
      by_cases bracket : byte = openBracketByte
      · rw [if_pos bracket] at finished
        split at finished
        · rename_i parsed
          injection finished with isArray sameRest sameBuffer
          subst sameRest sameBuffer
          exact Or.inl ⟨bracket, isArray.symm, parsed⟩
        all_goals cases finished
      · rw [if_neg bracket] at finished
        by_cases brace : byte = openBraceByte
        · rw [if_pos brace] at finished
          split at finished
          · rename_i object final after parsed
            split at finished
            · injection finished with isObject sameRest sameBuffer
              subst sameRest sameBuffer
              exact Or.inr <| Or.inl
                ⟨bracket, brace, isObject.symm, object, parsed⟩
            · cases finished
          all_goals cases finished
        · rw [if_neg brace] at finished
          injection finished with sameVariant sameRest _
          exact Or.inr <| Or.inr
            ⟨bracket, brace, Prod.ext sameVariant sameRest⟩

theorem parseArray_done {attached : Bool}
    (finished : parseArray (fuel + 1) (nestingLimit + 1) buffer input =
      .done attached rest next) :
    ∃ opened, eat openBracketByte input = (true, opened) ∧
      (eat closeBracketByte opened = (true, rest) ∨
        ∃ first, eat closeBracketByte opened = (false, first) ∧
          parseElements fuel nestingLimit (buffer.alloc headerSize).1
              (buffer.alloc headerSize).2 first =
            .done attached rest next) := by
  rw [parseArray] at finished
  simp only at finished
  split at finished
  · cases finished
  · rename_i opened opens
    refine ⟨opened, opens, ?_⟩
    split at finished
    · rename_i final closes
      injection finished with _ sameRest _
      exact Or.inl (sameRest ▸ closes)
    · rename_i first unclosed
      exact Or.inr ⟨first, unclosed, finished⟩

theorem parseElements_done {attached final : Bool}
    (finished : parseElements (fuel + 1) nestingLimit buffer attached input =
      .done final rest next) :
    ∃ variant afterValue afterBuffer stored,
      parseAnythingTo fuel nestingLimit buffer input =
          .done variant afterValue afterBuffer ∧
        attached = true ∧
        afterBuffer.alloc arrayNodeSize = (stored, true) ∧
        (eat closeBracketByte afterValue = (true, rest) ∨
          ∃ unclosed following,
            eat closeBracketByte afterValue = (false, unclosed) ∧
              eat commaByte unclosed = (true, following) ∧
              parseElements fuel nestingLimit stored attached following =
                .done final rest next) := by
  rw [parseElements] at finished
  split at finished
  · cases finished
  · cases finished
  · rename_i variant afterValue afterBuffer parsed
    split at finished
    · rename_i isAttached
      split at finished
      · cases finished
      · rename_i stored allocated
        refine ⟨variant, afterValue, afterBuffer, stored, parsed,
          isAttached, allocated, ?_⟩
        split at finished
        · rename_i closed closes
          injection finished with _ sameRest _
          exact Or.inl (sameRest ▸ closes)
        · rename_i unclosed notClosed
          split at finished
          · cases finished
          · rename_i following separates
            exact Or.inr
              ⟨unclosed, following, notClosed, separates, finished⟩
    · cases finished

theorem parseObject_done {object : JsonObject}
    (finished : parseObject (fuel + 1) (nestingLimit + 1) buffer input =
      .done object rest next) :
    ∃ opened, eat openBraceByte input = (true, opened) ∧
      ((eat closeBraceByte opened = (true, rest) ∧
          object = (createObject buffer).2) ∨
        ∃ first, eat closeBraceByte opened = (false, first) ∧
          parseMembers fuel nestingLimit (createObject buffer).1
              (createObject buffer).2 first =
            .done object rest next) := by
  rw [parseObject] at finished
  simp only at finished
  split at finished
  · cases finished
  · rename_i opened opens
    refine ⟨opened, opens, ?_⟩
    split at finished
    · rename_i final closes
      injection finished with same sameRest _
      exact Or.inl ⟨sameRest ▸ closes, same.symm⟩
    · rename_i first unclosed
      exact Or.inr ⟨first, unclosed, finished⟩

theorem parseMembers_done {object final : JsonObject}
    (finished : parseMembers (fuel + 1) nestingLimit buffer object input =
      .done final rest next) :
    ∃ valueInput variant afterValue afterBuffer stored grown,
      eat colonByte (parseString input).2 = (true, valueInput) ∧
        parseAnythingTo fuel nestingLimit buffer valueInput =
          .done variant afterValue afterBuffer ∧
        setMember afterBuffer object (parseString input).1
            (.value variant) =
          (stored, grown, true) ∧
        ((eat closeBraceByte afterValue = (true, rest) ∧ final = grown) ∨
          ∃ unclosed following,
            eat closeBraceByte afterValue = (false, unclosed) ∧
              eat commaByte unclosed = (true, following) ∧
              parseMembers fuel nestingLimit stored grown following =
                .done final rest next) := by
  rw [parseMembers] at finished
  simp only at finished
  split at finished
  · cases finished
  · rename_i valueInput isColon
    split at finished
    · cases finished
    · cases finished
    · rename_i variant afterValue afterBuffer parsed
      split at finished
      · cases finished
      · rename_i stored grown saved
        refine ⟨valueInput, variant, afterValue, afterBuffer, stored, grown,
          isColon, parsed, saved, ?_⟩
        split at finished
        · rename_i closed closes
          injection finished with same sameRest _
          exact Or.inl ⟨sameRest ▸ closes, same.symm⟩
        · rename_i unclosed notClosed
          split at finished
          · cases finished
          · rename_i following separates
            exact Or.inr
              ⟨unclosed, following, notClosed, separates, finished⟩

end Inversion

theorem nonzero_of_canBeInNonQuotedString {byte : UInt8}
    (plain : canBeInNonQuotedString byte = true) : byte ≠ 0 := by
  rintro rfl
  cases plain

theorem readQuoted_nonzero (stop : UInt8) (input : Bytes) :
    ∀ byte ∈ (readQuoted stop input).1, byte ≠ 0 := by
  fun_induction readQuoted stop input <;> simp_all

theorem readUnquoted_nonzero (input : Bytes) :
    ∀ byte ∈ (readUnquoted input).1, byte ≠ 0 := by
  fun_induction readUnquoted input with
  | case1 => simp
  | case2 byte rest plain text final read inductionHypothesis =>
      rw [read] at inductionHypothesis
      intro tested member
      rcases List.mem_cons.mp member with rfl | inRest
      · exact nonzero_of_canBeInNonQuotedString plain
      · exact inductionHypothesis tested inRest
  | case3 => simp

theorem parseString_nonzero (input : Bytes) :
    ∀ byte ∈ (parseString input).1, byte ≠ 0 := by
  unfold parseString
  split
  · simp
  · rename_i first rest _
    split
    · exact readQuoted_nonzero first rest
    · exact readUnquoted_nonzero _

/-- The text of a variant, if it has one, contains no NUL. -/
def JsonVariant.WithoutNul : JsonVariant → Prop
  | .string text => ∀ byte ∈ text, byte ≠ 0
  | .unparsed text => ∀ byte ∈ text, byte ≠ 0
  | _ => True

private theorem token_withoutNul (hasQuotes : Bool) {text : Bytes}
    (nonzero : ∀ byte ∈ text, byte ≠ 0) :
    (if hasQuotes then JsonVariant.string text
      else JsonVariant.unparsed text).WithoutNul := by
  cases hasQuotes <;> exact nonzero

theorem parseStringTo_withoutNul (input : Bytes) :
    (parseStringTo input).1.WithoutNul :=
  token_withoutNul _ (parseString_nonzero input)

/-- Nested arrays and objects are not followed, so only the tokens count. -/
theorem parseAnythingTo_withoutNul
    {fuel nestingLimit : Nat} {buffer next : StaticJsonBuffer}
    {input rest : Bytes} {variant : JsonVariant}
    (finished : parseAnythingTo fuel nestingLimit buffer input =
      .done variant rest next) :
    variant.WithoutNul := by
  cases fuel with
  | zero =>
      rw [parseAnythingTo] at finished
      cases finished
  | succ fuel =>
      rcases parseAnythingTo_done finished with
        ⟨_, token⟩ | ⟨byte, behind, _, isArray | isObject | isToken⟩
      · have kept := parseStringTo_withoutNul []
        rwa [token] at kept
      · obtain ⟨_, rfl, _⟩ := isArray
        trivial
      · obtain ⟨_, _, rfl, _⟩ := isObject
        trivial
      · have kept := parseStringTo_withoutNul (byte :: behind)
        rwa [isToken.2.2] at kept

theorem JsonVariant.WithoutNul.asString {variant : JsonVariant}
    (clean : variant.WithoutNul) {text : Bytes}
    (read : variant.asString = some text) :
    ∀ byte ∈ text, byte ≠ 0 := by
  cases variant with
  | string content =>
      cases read
      exact clean
  | unparsed content =>
      rw [JsonVariant.asString] at read
      split at read
      · cases read
      · cases read
        exact clean
  | _ => cases read

def JsonObject.WithoutNul (object : JsonObject) : Prop :=
  ∀ member ∈ object.members, member.2.WithoutNul

section Strings

variable {buffer next : StaticJsonBuffer}

theorem JsonObject.WithoutNul.assign
    {members : List (Bytes × JsonVariant)} (key : Bytes)
    {variant : JsonVariant}
    (kept : ∀ member ∈ members, member.2.WithoutNul)
    (clean : variant.WithoutNul) :
    ∀ member ∈ JsonObject.assign key variant members,
      member.2.WithoutNul := by
  induction members with
  | nil => simp [JsonObject.assign]
  | cons first rest inductionHypothesis =>
      obtain ⟨firstKept, restKept⟩ := List.forall_mem_cons.mp kept
      rw [JsonObject.assign]
      split
      · exact List.forall_mem_cons.mpr ⟨clean, restKept⟩
      · exact List.forall_mem_cons.mpr
          ⟨firstKept, inductionHypothesis restKept⟩

theorem JsonObject.WithoutNul.setMember
    {object grown : JsonObject} {key : Bytes} {variant : JsonVariant}
    {saved : Bool} (kept : object.WithoutNul) (clean : variant.WithoutNul)
    (stored : setMember buffer object key (.value variant) =
      (next, grown, saved)) :
    grown.WithoutNul := by
  unfold Json.setMember at stored
  split at stored
  · cases stored
    exact JsonObject.WithoutNul.assign key kept clean
  · split at stored
    · split at stored
      · cases stored
        exact kept
      · cases stored
        intro member inGrown
        rcases List.mem_append.mp inGrown with before | isNew
        · exact kept member before
        · rw [List.mem_singleton.mp isNew]
          exact clean
    · cases stored
      exact kept

theorem parseMembers_withoutNul
    {fuel nestingLimit : Nat} {object final : JsonObject}
    {input rest : Bytes} (kept : object.WithoutNul)
    (finished : parseMembers fuel nestingLimit buffer object input =
      .done final rest next) :
    final.WithoutNul := by
  induction fuel generalizing buffer object input with
  | zero =>
      rw [parseMembers] at finished
      cases finished
  | succ fuel inductionHypothesis =>
      obtain ⟨valueInput, variant, afterValue, afterBuffer, stored, grown,
        _, parsed, saved, ending⟩ := parseMembers_done finished
      have grownKept : grown.WithoutNul :=
        kept.setMember (parseAnythingTo_withoutNul parsed) saved
      rcases ending with ⟨_, rfl⟩ | ⟨_, following, _, _, more⟩
      · exact grownKept
      · exact inductionHypothesis grownKept more

theorem createObject_withoutNul (buffer : StaticJsonBuffer) :
    (createObject buffer).2.WithoutNul := by
  unfold createObject
  split <;> simp [JsonObject.WithoutNul, JsonObject.invalid]

/-- The strings of a parsed document end where their terminator stands. -/
theorem parseDocument_withoutNul
    {capacity : Nat} {input rest : Bytes} {json : JsonObject}
    (finished : parseDocument capacity input = .done json rest next) :
    json.WithoutNul := by
  obtain ⟨opened, _, ending⟩ := parseObject_done finished
  rcases ending with ⟨_, rfl⟩ | ⟨first, _, members⟩
  · exact createObject_withoutNul _
  · exact parseMembers_withoutNul (createObject_withoutNul _) members

theorem JsonObject.WithoutNul.getString
    {object : JsonObject} (kept : object.WithoutNul) {key text : Bytes}
    (found : object.getString key = some text) :
    ∀ byte ∈ text, byte ≠ 0 := by
  unfold JsonObject.getString JsonObject.find at found
  cases search : object.members.find? fun member => member.1 = key with
  | none =>
      rw [search] at found
      cases found
  | some member =>
      rw [search] at found
      exact (kept member (List.mem_of_find?_eq_some search)).asString found

end Strings

/-- Nothing left, or a lone slash, and the reader has looked too far. -/
private theorem skipInside_end :
    skipInside .blank [] = false ∧ skipInside .blank [slashByte] = false := by
  decide

theorem skipInside_of_skipFrom {mode : SkipMode} {input : Bytes}
    (inside : skipInside .blank (skipFrom mode input) = true) :
    skipInside mode input = true := by
  fun_induction skipFrom mode input <;>
    rw [skipInside.eq_def] <;>
    simp_all [skipInside_end]

theorem skipInside_of_solid {byte : UInt8} (solid : isSpace byte = false)
    (notSlash : byte ≠ slashByte) (rest : Bytes) :
    skipInside .blank (byte :: rest) = true := by
  rw [skipInside.eq_def]
  simp [solid, notSlash]

theorem skipInside_of_quote {byte : UInt8} (quote : isQuote byte = true)
    (rest : Bytes) :
    skipInside .blank (byte :: rest) = true := by
  have isOne : byte = apostropheByte ∨ byte = quoteByte := by
    simpa [isQuote] using quote
  rcases isOne with rfl | rfl <;>
    exact skipInside_of_solid (by decide) (by decide) rest

/-- An unquoted token that is not empty starts with a solid byte. -/
theorem skipInside_of_readUnquoted {input : Bytes}
    (inside : eatInside (readUnquoted input).2 = true) :
    skipInside .blank input = true := by
  cases input with
  | nil => exact inside
  | cons byte rest =>
      by_cases plain : canBeInNonQuotedString byte = true
      · obtain ⟨solid, notSlash, _⟩ := solid_of_unquoted plain
        exact skipInside_of_solid solid notSlash rest
      · rw [readUnquoted, if_neg plain] at inside
        exact inside

section Eat

variable {expected : UInt8} {input rest : Bytes}

theorem eatInside_of_true (solid : isSpace expected = false)
    (notSlash : expected ≠ slashByte)
    (eaten : eat expected input = (true, rest)) :
    eatInside input = true := by
  apply skipInside_of_skipFrom
  unfold eat skipSpacesAndComments at eaten
  split at eaten
  · cases eaten
  · rename_i byte behind found
    rw [found]
    split at eaten
    · rename_i same
      exact skipInside_of_solid (same ▸ solid) (same ▸ notSlash) behind
    · cases eaten

theorem eatInside_of_false (kept : eat expected input = (false, rest))
    (inside : eatInside rest = true) :
    eatInside input = true := by
  apply skipInside_of_skipFrom
  unfold eat skipSpacesAndComments at kept
  split at kept
  · cases kept
    rw [eatInside, skipInside_end.1] at inside
    cases inside
  · rename_i byte behind found
    split at kept
    · cases kept
    · cases kept
      rw [found]
      exact inside

end Eat

theorem quotedInside_of_readQuoted {stop : UInt8} {input : Bytes}
    (inside : eatInside (readQuoted stop input).2 = true) :
    quotedInside stop input = true := by
  unfold eatInside at inside
  fun_induction readQuoted stop input <;>
    rw [quotedInside.eq_def] <;>
    simp_all [skipInside_end]

theorem unquotedInside_of_readUnquoted {input : Bytes}
    (inside : eatInside (readUnquoted input).2 = true) :
    unquotedInside input = true := by
  unfold eatInside at inside
  fun_induction readUnquoted input <;>
    rw [unquotedInside.eq_def] <;>
    simp_all [skipInside_end]

theorem stringInside_of_parseString {input : Bytes}
    (inside : eatInside (parseString input).2 = true) :
    stringInside input = true := by
  unfold parseString at inside
  unfold stringInside
  cases found : skipSpacesAndComments input with
  | nil =>
      rw [found, eatInside, skipInside_end.1] at inside
      cases inside
  | cons byte rest =>
      rw [found] at inside
      simp only at inside ⊢
      rw [Bool.and_eq_true]
      by_cases quote : isQuote byte = true
      · rw [if_pos quote] at inside ⊢
        refine ⟨skipInside_of_skipFrom ?_,
          quotedInside_of_readQuoted inside⟩
        rw [skipSpacesAndComments] at found
        rw [found]
        exact skipInside_of_quote quote rest
      · rw [if_neg quote] at inside ⊢
        refine ⟨skipInside_of_skipFrom ?_,
          unquotedInside_of_readUnquoted inside⟩
        rw [skipSpacesAndComments] at found
        rw [found]
        exact skipInside_of_readUnquoted inside

/-- With this much fuel whatever finishes was read inside its input.  A
value may end with the input, so behind it something must be left. -/
structure InsideWithFuel (fuel : Nat) : Prop where
  anything : ∀ {nestingLimit buffer input variant rest next},
    parseAnythingTo fuel nestingLimit buffer input =
        .done variant rest next →
      eatInside rest = true →
      anythingInside fuel nestingLimit buffer input = true
  array : ∀ {nestingLimit buffer input attached rest next},
    parseArray fuel nestingLimit buffer input = .done attached rest next →
      arrayInside fuel nestingLimit buffer input = true
  elements : ∀ {nestingLimit buffer attached input final rest next},
    parseElements fuel nestingLimit buffer attached input =
        .done final rest next →
      elementsInside fuel nestingLimit buffer attached input = true
  object : ∀ {nestingLimit buffer input object rest next},
    parseObject fuel nestingLimit buffer input = .done object rest next →
      objectInside fuel nestingLimit buffer input = true
  members : ∀ {nestingLimit buffer object input final rest next},
    parseMembers fuel nestingLimit buffer object input =
        .done final rest next →
      membersInside fuel nestingLimit buffer object input = true

section Step

variable {fuel nestingLimit : Nat} {buffer next : StaticJsonBuffer}
variable {input rest : Bytes}

theorem eatInside_of_elementsInside {attached : Bool}
    (inside : elementsInside fuel nestingLimit buffer attached input = true) :
    eatInside input = true := by
  cases fuel with
  | zero =>
      rw [elementsInside] at inside
      cases inside
  | succ fuel =>
      rw [elementsInside, Bool.and_eq_true] at inside
      have value := inside.1
      cases fuel with
      | zero =>
          rw [anythingInside] at value
          cases value
      | succ fuel =>
          rw [anythingInside, Bool.and_eq_true] at value
          exact value.1

theorem eatInside_of_membersInside {object : JsonObject}
    (inside : membersInside fuel nestingLimit buffer object input = true) :
    eatInside input = true := by
  cases fuel with
  | zero =>
      rw [membersInside] at inside
      cases inside
  | succ fuel =>
      rw [membersInside] at inside
      simp only [stringInside, Bool.and_eq_true] at inside
      exact inside.1.1.1

private theorem anything_inside (insides : InsideWithFuel fuel)
    {variant : JsonVariant}
    (finished : parseAnythingTo (fuel + 1) nestingLimit buffer input =
      .done variant rest next)
    (behind : eatInside rest = true) :
    anythingInside (fuel + 1) nestingLimit buffer input = true := by
  rw [anythingInside]
  rcases parseAnythingTo_done finished with
    ⟨_, token⟩ | ⟨byte, following, skipped, shape⟩
  · have noRest : rest = [] := (congrArg Prod.snd token).symm
    rw [noRest, eatInside, skipInside_end.1] at behind
    cases behind
  · have skips : skipInside .blank (byte :: following) = true →
        skipInside .blank input = true := by
      intro inside
      apply skipInside_of_skipFrom
      rw [skipSpacesAndComments] at skipped
      rw [skipped]
      exact inside
    rw [skipped]
    simp only [Bool.and_eq_true]
    rcases shape with ⟨rfl, _, parsed⟩ | ⟨notBracket, rfl, _, object, parsed⟩ |
      ⟨notBracket, notBrace, token⟩
    · rw [if_pos rfl]
      exact ⟨skips (skipInside_of_solid (by decide) (by decide) _),
        insides.array parsed⟩
    · rw [if_neg notBracket, if_pos rfl]
      exact ⟨skips (skipInside_of_solid (by decide) (by decide) _),
        insides.object parsed⟩
    · rw [if_neg notBracket, if_neg notBrace]
      have read : (parseString (byte :: following)).2 = rest :=
        congrArg Prod.snd token
      have inside : stringInside (byte :: following) = true := by
        apply stringInside_of_parseString
        rw [read]
        exact behind
      refine ⟨skips ?_, inside⟩
      rw [stringInside, Bool.and_eq_true] at inside
      exact inside.1

private theorem array_inside (insides : InsideWithFuel fuel)
    {attached : Bool}
    (finished : parseArray (fuel + 1) nestingLimit buffer input =
      .done attached rest next) :
    arrayInside (fuel + 1) nestingLimit buffer input = true := by
  cases nestingLimit with
  | zero => rw [arrayInside]
  | succ nestingLimit =>
      obtain ⟨opened, opens, ending⟩ := parseArray_done finished
      rw [arrayInside]
      simp only [opens, Bool.and_eq_true]
      refine ⟨eatInside_of_true (by decide) (by decide) opens, ?_⟩
      rcases ending with closes | ⟨first, unclosed, elements⟩
      · rw [closes]
        exact ⟨eatInside_of_true (by decide) (by decide) closes, rfl⟩
      · have inside := insides.elements elements
        rw [unclosed]
        exact ⟨eatInside_of_false unclosed
          (eatInside_of_elementsInside inside), inside⟩

private theorem elements_inside (insides : InsideWithFuel fuel)
    {attached final : Bool}
    (finished : parseElements (fuel + 1) nestingLimit buffer attached input =
      .done final rest next) :
    elementsInside (fuel + 1) nestingLimit buffer attached input = true := by
  obtain ⟨variant, afterValue, afterBuffer, stored, parsed, rfl, allocated,
    ending⟩ := parseElements_done finished
  rw [elementsInside, parsed]
  simp only [allocated, if_true, Bool.and_eq_true]
  rcases ending with closes | ⟨unclosed, following, notClosed, separates, more⟩
  · have closed : eatInside afterValue = true :=
      eatInside_of_true (by decide) (by decide) closes
    rw [closes]
    exact ⟨insides.anything parsed closed, closed, rfl⟩
  · have separated : eatInside unclosed = true :=
      eatInside_of_true (by decide) (by decide) separates
    have behind := eatInside_of_false notClosed separated
    rw [notClosed]
    simp only [separates, Bool.and_eq_true]
    exact ⟨insides.anything parsed behind, behind, separated,
      insides.elements more⟩

private theorem object_inside (insides : InsideWithFuel fuel)
    {object : JsonObject}
    (finished : parseObject (fuel + 1) nestingLimit buffer input =
      .done object rest next) :
    objectInside (fuel + 1) nestingLimit buffer input = true := by
  cases nestingLimit with
  | zero => rw [objectInside]
  | succ nestingLimit =>
      obtain ⟨opened, opens, ending⟩ := parseObject_done finished
      rw [objectInside]
      simp only [opens, Bool.and_eq_true]
      refine ⟨eatInside_of_true (by decide) (by decide) opens, ?_⟩
      rcases ending with ⟨closes, _⟩ | ⟨first, unclosed, members⟩
      · rw [closes]
        exact ⟨eatInside_of_true (by decide) (by decide) closes, rfl⟩
      · have inside := insides.members members
        rw [unclosed]
        exact ⟨eatInside_of_false unclosed
          (eatInside_of_membersInside inside), inside⟩

private theorem members_inside (insides : InsideWithFuel fuel)
    {object final : JsonObject}
    (finished : parseMembers (fuel + 1) nestingLimit buffer object input =
      .done final rest next) :
    membersInside (fuel + 1) nestingLimit buffer object input = true := by
  obtain ⟨valueInput, variant, afterValue, afterBuffer, stored, grown,
    isColon, parsed, saved, ending⟩ := parseMembers_done finished
  have keyEnds : eatInside (parseString input).2 = true :=
    eatInside_of_true (by decide) (by decide) isColon
  have keyInside := stringInside_of_parseString keyEnds
  rw [membersInside]
  simp only [isColon, parsed, saved, Bool.and_eq_true]
  refine ⟨⟨keyInside, keyEnds⟩, ?_⟩
  rcases ending with ⟨closes, _⟩ |
    ⟨unclosed, following, notClosed, separates, more⟩
  · have closed : eatInside afterValue = true :=
      eatInside_of_true (by decide) (by decide) closes
    rw [closes]
    exact ⟨insides.anything parsed closed, closed, rfl⟩
  · have separated : eatInside unclosed = true :=
      eatInside_of_true (by decide) (by decide) separates
    have behind := eatInside_of_false notClosed separated
    rw [notClosed]
    simp only [separates, Bool.and_eq_true]
    exact ⟨insides.anything parsed behind, behind, separated,
      insides.members more⟩

end Step

theorem insideWithFuel (fuel : Nat) : InsideWithFuel fuel := by
  induction fuel with
  | zero =>
      constructor
      · intro nestingLimit buffer input variant rest next finished _
        rw [parseAnythingTo] at finished
        cases finished
      · intro nestingLimit buffer input attached rest next finished
        rw [parseArray] at finished
        cases finished
      · intro nestingLimit buffer attached input final rest next finished
        rw [parseElements] at finished
        cases finished
      · intro nestingLimit buffer input object rest next finished
        rw [parseObject] at finished
        cases finished
      · intro nestingLimit buffer object input final rest next finished
        rw [parseMembers] at finished
        cases finished
  | succ fuel inductionHypothesis =>
      exact ⟨anything_inside inductionHypothesis,
        array_inside inductionHypothesis,
        elements_inside inductionHypothesis,
        object_inside inductionHypothesis,
        members_inside inductionHypothesis⟩

/-- A document with its closing brace was read inside its bytes. -/
theorem documentInside_of_done {capacity : Nat} {input rest : Bytes}
    {json : JsonObject} {buffer : StaticJsonBuffer}
    (finished : parseDocument capacity input = .done json rest buffer) :
    documentInside capacity input = true :=
  (insideWithFuel (parseFuel input)).object finished

end FunnelDispenser.Json
