import FunnelDispenser.Json.Parser

/-!
# The parser always ends

Every nested value and every further member consumes at least one byte, so
the fuel of `parseDocument` is never used up, whatever the input.
-/

namespace FunnelDispenser.Json

open CMemory

theorem length_skipFrom_le (mode : SkipMode) (input : Bytes) :
    (skipFrom mode input).length ≤ input.length := by
  fun_induction skipFrom mode input <;>
    simp only [List.length_cons, List.length_nil] at * <;> omega

theorem length_skip_le (input : Bytes) :
    (skipSpacesAndComments input).length ≤ input.length :=
  length_skipFrom_le .blank input

theorem length_of_eat_true {expected : UInt8} {input rest : Bytes}
    (eaten : eat expected input = (true, rest)) :
    rest.length < input.length := by
  have skipped := length_skip_le input
  unfold eat at eaten
  split at eaten
  · cases eaten
  · rename_i byte behind found
    rw [found, List.length_cons] at skipped
    split at eaten
    · cases eaten
      omega
    · cases eaten

theorem length_of_eat_false {expected : UInt8} {input rest : Bytes}
    (kept : eat expected input = (false, rest)) :
    rest.length ≤ input.length := by
  have skipped := length_skip_le input
  unfold eat at kept
  split at kept
  · cases kept
    exact Nat.zero_le _
  · rename_i byte behind found
    split at kept
    · cases kept
    · cases kept
      rwa [found] at skipped

theorem length_readQuoted_le (stop : UInt8) (input : Bytes) :
    (readQuoted stop input).2.length ≤ input.length := by
  fun_induction readQuoted stop input <;>
    simp_all only [List.length_cons, List.length_nil] <;> omega

theorem length_readUnquoted_le (input : Bytes) :
    (readUnquoted input).2.length ≤ input.length := by
  fun_induction readUnquoted input <;>
    simp_all only [List.length_cons, List.length_nil] <;> omega

theorem length_parseString_le (input : Bytes) :
    (parseString input).2.length ≤ input.length := by
  have skipped := length_skip_le input
  unfold parseString
  split
  · exact Nat.zero_le _
  · rename_i byte rest found
    rw [found] at skipped
    split
    · have read := length_readQuoted_le byte rest
      rw [List.length_cons] at skipped
      omega
    · exact Nat.le_trans (length_readUnquoted_le _) skipped

theorem length_parseStringTo_le (input : Bytes) :
    (parseStringTo input).2.length ≤ input.length :=
  length_parseString_le input

/-- The function has ended and left at most `limit` bytes. -/
def Parsed.EndsWithin {Value : Type} (limit : Nat) : Parsed Value → Prop
  | .done _ rest _ => rest.length ≤ limit
  | .invalid => True
  | .exhausted => False

theorem Parsed.EndsWithin.mono {Value : Type} {small large : Nat}
    {parsed : Parsed Value} (ends : parsed.EndsWithin small)
    (bound : small ≤ large) :
    parsed.EndsWithin large := by
  cases parsed with
  | done value rest buffer => exact Nat.le_trans ends bound
  | invalid => trivial
  | exhausted => exact ends

theorem Parsed.EndsWithin.ne_exhausted {Value : Type} {limit : Nat}
    {parsed : Parsed Value} (ends : parsed.EndsWithin limit) :
    parsed ≠ .exhausted := by
  rintro rfl
  exact ends

structure EndsWithFuel (fuel : Nat) : Prop where
  anything : ∀ nestingLimit buffer input, 3 * input.length + 1 ≤ fuel →
    (parseAnythingTo fuel nestingLimit buffer input).EndsWithin input.length
  array : ∀ nestingLimit buffer input, 1 ≤ fuel → 3 * input.length ≤ fuel →
    (parseArray fuel nestingLimit buffer input).EndsWithin input.length
  elements : ∀ nestingLimit buffer attached input,
    3 * input.length + 2 ≤ fuel →
      (parseElements fuel nestingLimit buffer attached input).EndsWithin
        input.length
  object : ∀ nestingLimit buffer input, 1 ≤ fuel → 3 * input.length ≤ fuel →
    (parseObject fuel nestingLimit buffer input).EndsWithin input.length
  members : ∀ nestingLimit buffer object input,
    3 * input.length + 2 ≤ fuel →
      (parseMembers fuel nestingLimit buffer object input).EndsWithin
        input.length

section Step

variable {fuel : Nat}

private theorem anything_ends (ends : EndsWithFuel fuel)
    (nestingLimit : Nat)
    (buffer : StaticJsonBuffer) (input : Bytes)
    (enough : 3 * input.length + 1 ≤ fuel + 1) :
    (parseAnythingTo (fuel + 1) nestingLimit buffer input).EndsWithin
      input.length := by
  have skipped := length_skip_le input
  rw [parseAnythingTo]
  cases found : skipSpacesAndComments input with
  | nil => exact Nat.zero_le _
  | cons byte rest =>
      rw [found, List.length_cons] at skipped
      simp only
      split
      · have array := ends.array nestingLimit buffer (byte :: rest)
          (by omega) (by rw [List.length_cons]; omega)
        cases parsed : parseArray fuel nestingLimit buffer (byte :: rest) with
        | done attached final next =>
            rw [parsed] at array
            cases attached
            · trivial
            · exact Nat.le_trans array skipped
        | invalid => trivial
        | exhausted => exact absurd parsed array.ne_exhausted
      · split
        · have object := ends.object nestingLimit buffer (byte :: rest)
            (by omega) (by rw [List.length_cons]; omega)
          cases parsed : parseObject fuel nestingLimit buffer
              (byte :: rest) with
          | done value final next =>
              rw [parsed] at object
              simp only
              split
              · exact Nat.le_trans object skipped
              · trivial
          | invalid => trivial
          | exhausted => exact absurd parsed object.ne_exhausted
        · exact Nat.le_trans (length_parseStringTo_le (byte :: rest)) skipped

private theorem array_ends (ends : EndsWithFuel fuel) (nestingLimit : Nat)
    (buffer : StaticJsonBuffer) (input : Bytes)
    (enough : 3 * input.length ≤ fuel + 1) :
    (parseArray (fuel + 1) nestingLimit buffer input).EndsWithin
      input.length := by
  cases nestingLimit with
  | zero =>
      rw [parseArray]
      trivial
  | succ nestingLimit =>
      rw [parseArray]
      simp only
      cases opens : eat openBracketByte input with
      | mk found opened =>
          cases found
          · trivial
          · have consumed := length_of_eat_true opens
            simp only
            cases closes : eat closeBracketByte opened with
            | mk closed final =>
                cases closed
                · have shorter := length_of_eat_false closes
                  exact (ends.elements nestingLimit _ _ final
                    (by omega)).mono (by omega)
                · have shorter := length_of_eat_true closes
                  change final.length ≤ input.length
                  omega

private theorem elements_ends (ends : EndsWithFuel fuel)
    (nestingLimit : Nat) (buffer : StaticJsonBuffer) (attached : Bool)
    (input : Bytes) (enough : 3 * input.length + 2 ≤ fuel + 1) :
    (parseElements (fuel + 1) nestingLimit buffer attached
      input).EndsWithin input.length := by
  have value := ends.anything nestingLimit buffer input (by omega)
  rw [parseElements]
  cases parsed : parseAnythingTo fuel nestingLimit buffer input with
  | invalid => trivial
  | exhausted => exact absurd parsed value.ne_exhausted
  | done variant afterValue afterBuffer =>
      rw [parsed] at value
      have shorter : afterValue.length ≤ input.length := value
      simp only
      split
      · split
        · trivial
        · rename_i next stored
          cases closes : eat closeBracketByte afterValue with
          | mk closed unclosed =>
              cases closed
              · have kept := length_of_eat_false closes
                simp only
                cases separated : eat commaByte unclosed with
                | mk found following =>
                    cases found
                    · trivial
                    · have consumed := length_of_eat_true separated
                      exact (ends.elements nestingLimit next attached
                        following (by omega)).mono (by omega)
              · have consumed := length_of_eat_true closes
                change unclosed.length ≤ input.length
                omega
      · trivial

private theorem object_ends (ends : EndsWithFuel fuel) (nestingLimit : Nat)
    (buffer : StaticJsonBuffer) (input : Bytes)
    (enough : 3 * input.length ≤ fuel + 1) :
    (parseObject (fuel + 1) nestingLimit buffer input).EndsWithin
      input.length := by
  cases nestingLimit with
  | zero =>
      rw [parseObject]
      trivial
  | succ nestingLimit =>
      rw [parseObject]
      simp only
      cases opens : eat openBraceByte input with
      | mk found opened =>
          cases found
          · trivial
          · have consumed := length_of_eat_true opens
            simp only
            cases closes : eat closeBraceByte opened with
            | mk closed final =>
                cases closed
                · have shorter := length_of_eat_false closes
                  exact (ends.members nestingLimit _ _ final
                    (by omega)).mono (by omega)
                · have shorter := length_of_eat_true closes
                  change final.length ≤ input.length
                  omega

private theorem members_ends (ends : EndsWithFuel fuel) (nestingLimit : Nat)
    (buffer : StaticJsonBuffer) (object : JsonObject) (input : Bytes)
    (enough : 3 * input.length + 2 ≤ fuel + 1) :
    (parseMembers (fuel + 1) nestingLimit buffer object
      input).EndsWithin input.length := by
  have keyed := length_parseString_le input
  rw [parseMembers]
  simp only
  cases opens : eat colonByte (parseString input).2 with
  | mk found valueInput =>
      cases found
      · trivial
      · have consumed := length_of_eat_true opens
        have value := ends.anything nestingLimit buffer valueInput (by omega)
        simp only
        cases parsed : parseAnythingTo fuel nestingLimit buffer
            valueInput with
        | invalid => trivial
        | exhausted => exact absurd parsed value.ne_exhausted
        | done variant afterValue afterBuffer =>
            rw [parsed] at value
            have shorter : afterValue.length ≤ valueInput.length := value
            simp only
            split
            · trivial
            · rename_i next grown stored
              cases closes : eat closeBraceByte afterValue with
              | mk closed unclosed =>
                  cases closed
                  · have kept := length_of_eat_false closes
                    simp only
                    cases separated : eat commaByte unclosed with
                    | mk isComma following =>
                        cases isComma
                        · trivial
                        · have shorterStill := length_of_eat_true separated
                          exact (ends.members nestingLimit next grown
                            following (by omega)).mono (by omega)
                  · have eaten := length_of_eat_true closes
                    change unclosed.length ≤ input.length
                    omega

end Step

theorem endsWithFuel (fuel : Nat) : EndsWithFuel fuel := by
  induction fuel with
  | zero =>
      constructor <;> intros <;> omega
  | succ fuel inductionHypothesis =>
      exact ⟨anything_ends inductionHypothesis,
        fun nestingLimit buffer input _ =>
          array_ends inductionHypothesis nestingLimit buffer input,
        elements_ends inductionHypothesis,
        fun nestingLimit buffer input _ =>
          object_ends inductionHypothesis nestingLimit buffer input,
        members_ends inductionHypothesis⟩

/-- The parser ends on every input. -/
theorem parseDocument_ne_exhausted (capacity : Nat) (input : Bytes) :
    parseDocument capacity input ≠ .exhausted := by
  have ends := (endsWithFuel (parseFuel input)).object defaultNestingLimit
    (StaticJsonBuffer.empty capacity) input
  apply (ends _ _).ne_exhausted
  · simp only [parseFuel]
    omega
  · simp only [parseFuel]
    omega

end FunnelDispenser.Json
