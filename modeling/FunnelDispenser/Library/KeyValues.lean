import Mathlib.Data.List.Infix
import Mathlib.Data.List.TakeWhile

/-!
# Keys and values in one text

A text of fields `key=value` with a separator between them, for any letters.
Reading skips separators where a token should begin, so some texts read the
same; what was written from tokens without delimiters is read back.
-/

namespace FunnelDispenser.KeyValues

universe u

variable {Letter : Type u} [DecidableEq Letter]

/-- The letters up to the next delimiter and what stands behind it.  The
delimiters in front are skipped. -/
def nextToken (delimiter : Letter) (text : List Letter) :
    Option (List Letter × List Letter) :=
  match text.dropWhile (· = delimiter) with
  | [] => none
  | first :: others =>
      some ((first :: others).takeWhile (· ≠ delimiter),
        ((first :: others).dropWhile (· ≠ delimiter)).tail)

section Tokens

variable {delimiter : Letter} {text token behind : List Letter}

theorem takeWhile_of_not_mem (plain : delimiter ∉ token)
    (behind : List Letter) :
    (token ++ behind).takeWhile (· ≠ delimiter) =
        token ++ behind.takeWhile (· ≠ delimiter) ∧
      (token ++ behind).dropWhile (· ≠ delimiter) =
        behind.dropWhile (· ≠ delimiter) := by
  have passes : ∀ letter ∈ token, decide (letter ≠ delimiter) = true := by
    intro letter member
    rw [decide_eq_true_eq]
    rintro rfl
    exact plain member
  exact ⟨List.takeWhile_append_of_pos passes,
    List.dropWhile_append_of_pos passes⟩

theorem nextToken_of_nonempty (nonempty : token ≠ [])
    (plain : delimiter ∉ token) (behind : List Letter) :
    nextToken delimiter (token ++ behind) =
      some (token ++ behind.takeWhile (· ≠ delimiter),
        (behind.dropWhile (· ≠ delimiter)).tail) := by
  obtain ⟨first, others, rfl⟩ := List.exists_cons_of_ne_nil nonempty
  have starts : first ≠ delimiter := fun same =>
    plain (same ▸ List.mem_cons_self)
  obtain ⟨taken, dropped⟩ := takeWhile_of_not_mem plain behind
  rw [List.cons_append] at taken dropped
  rw [nextToken, List.cons_append,
    List.dropWhile_cons_of_neg (by simpa using starts)]
  change some ((first :: (others ++ behind)).takeWhile (· ≠ delimiter),
    ((first :: (others ++ behind)).dropWhile (· ≠ delimiter)).tail) = _
  rw [taken, dropped]

/-- A token ends at its delimiter. -/
theorem nextToken_delimited (nonempty : token ≠ [])
    (plain : delimiter ∉ token) (behind : List Letter) :
    nextToken delimiter (token ++ delimiter :: behind) =
      some (token, behind) := by
  rw [nextToken_of_nonempty nonempty plain,
    List.takeWhile_cons_of_neg (by simp),
    List.dropWhile_cons_of_neg (by simp), List.append_nil, List.tail_cons]

theorem nextToken_last (nonempty : token ≠ [])
    (plain : delimiter ∉ token) :
    nextToken delimiter token = some (token, []) := by
  have whole := nextToken_of_nonempty nonempty plain []
  rw [List.append_nil] at whole
  rw [whole, List.takeWhile_nil, List.dropWhile_nil, List.append_nil,
    List.tail_nil]

/-- What a token is made of, and where it was found. -/
structure IsToken (delimiter : Letter) (text token behind : List Letter) :
    Prop where
  nonempty : token ≠ []
  plain : delimiter ∉ token
  inside : token <:+: text
  remains : behind <:+ text
  shorter : behind.length < text.length

theorem isToken_of_nextToken
    (found : nextToken delimiter text = some (token, behind)) :
    IsToken delimiter text token behind := by
  have skipped : text.dropWhile (· = delimiter) <:+ text :=
    List.dropWhile_suffix _
  have starts := fun nonempty =>
    List.head_dropWhile_not (· = delimiter) (l := text) nonempty
  unfold nextToken at found
  cases start : text.dropWhile (· = delimiter) with
  | nil =>
      rw [start] at found
      cases found
  | cons first others =>
      rw [start] at found skipped
      cases found
      have different : decide (first ≠ delimiter) = true := by
        have head := starts (by rw [start]; exact List.cons_ne_nil _ _)
        simp only [start, List.head_cons] at head
        simpa using head
      have left : ((first :: others).dropWhile (· ≠ delimiter)).tail <:+
          others := by
        rw [List.dropWhile_cons_of_pos (p := (· ≠ delimiter)) different]
        exact (List.tail_suffix _).trans (List.dropWhile_suffix _)
      refine ⟨?_, ?_, ?_, ?_, ?_⟩
      · rw [List.takeWhile_cons_of_pos (p := (· ≠ delimiter)) different]
        exact List.cons_ne_nil _ _
      · intro member
        have passes := List.mem_takeWhile_imp member
        simp at passes
      · exact (List.takeWhile_prefix _).isInfix.trans skipped.isInfix
      · exact (left.trans (List.suffix_cons _ _)).trans skipped
      · have bound := left.length_le
        have whole := skipped.length_le
        rw [List.length_cons] at whole
        omega

end Tokens

section Fields

variable (assign separator : Letter)

/-- The fields up to the first one that is not complete. -/
def readPairs (text : List Letter) : List (List Letter × List Letter) :=
  match _ : nextToken assign text with
  | none => []
  | some (key, behind) =>
      match _ : nextToken separator behind with
      | none => []
      | some (value, rest) => (key, value) :: readPairs rest
termination_by text.length
decreasing_by
  rename_i keyFound valueFound
  exact Nat.lt_trans (isToken_of_nextToken valueFound).shorter
    (isToken_of_nextToken keyFound).shorter

/-- A field that is read back as it was written. -/
structure Readable (pair : List Letter × List Letter) : Prop where
  key_nonempty : pair.1 ≠ []
  key_plain : assign ∉ pair.1
  value_nonempty : pair.2 ≠ []
  value_plain : separator ∉ pair.2

def writePair (pair : List Letter × List Letter) : List Letter :=
  pair.1 ++ assign :: pair.2

def writePairs : List (List Letter × List Letter) → List Letter
  | [] => []
  | [pair] => writePair assign pair
  | pair :: next :: rest =>
      writePair assign pair ++ separator :: writePairs (next :: rest)

variable {assign separator}

theorem readPairs_of_no_key {text : List Letter}
    (missing : nextToken assign text = none) :
    readPairs assign separator text = [] := by
  rw [readPairs.eq_def]
  split
  · rfl
  · rename_i found
    rw [missing] at found
    cases found

theorem readPairs_of_no_value {text behind key : List Letter}
    (keyFound : nextToken assign text = some (key, behind))
    (missing : nextToken separator behind = none) :
    readPairs assign separator text = [] := by
  rw [readPairs.eq_def]
  split
  · rfl
  · rename_i found
    rw [keyFound] at found
    cases found
    split
    · rfl
    · rename_i valueFound
      rw [missing] at valueFound
      cases valueFound

theorem readPairs_cons {text behind rest key value : List Letter}
    (keyFound : nextToken assign text = some (key, behind))
    (valueFound : nextToken separator behind = some (value, rest)) :
    readPairs assign separator text =
      (key, value) :: readPairs assign separator rest := by
  rw [readPairs.eq_def]
  split
  · rename_i missing
    rw [keyFound] at missing
    cases missing
  · rename_i found
    rw [keyFound] at found
    cases found
    split
    · rename_i missing
      rw [valueFound] at missing
      cases missing
    · rename_i found
      rw [valueFound] at found
      cases found
      rfl

/-- What was written is read back. -/
theorem readPairs_writePairs {pairs : List (List Letter × List Letter)}
    (readable : ∀ pair ∈ pairs, Readable assign separator pair) :
    readPairs assign separator (writePairs assign separator pairs) =
      pairs := by
  induction pairs using writePairs.induct with
  | case1 => exact readPairs_of_no_key rfl
  | case2 pair =>
      have plain := readable pair List.mem_cons_self
      rw [writePairs, writePair, readPairs_cons
        (nextToken_delimited plain.key_nonempty plain.key_plain _)
        (nextToken_last plain.value_nonempty plain.value_plain),
        readPairs_of_no_key rfl]
  | case3 pair next rest inductionHypothesis =>
      have plain := readable pair List.mem_cons_self
      have later := inductionHypothesis fun other member =>
        readable other (List.mem_cons_of_mem _ member)
      rw [writePairs, writePair, List.append_assoc, List.cons_append,
        readPairs_cons
          (nextToken_delimited plain.key_nonempty plain.key_plain _)
          (nextToken_delimited plain.value_nonempty plain.value_plain _),
        later]

/-- Everything that is read can be read again, and stood in the text. -/
theorem readable_of_mem_readPairs {text : List Letter}
    {pair : List Letter × List Letter}
    (member : pair ∈ readPairs assign separator text) :
    Readable assign separator pair ∧ pair.1 <:+: text ∧
      pair.2 <:+: text := by
  fun_induction readPairs assign separator text with
  | case1 text missing => cases member
  | case2 text key behind keyFound missing => cases member
  | case3 text key behind keyFound value rest valueFound
      inductionHypothesis =>
      have keyToken := isToken_of_nextToken keyFound
      have valueToken := isToken_of_nextToken valueFound
      have behindInside := keyToken.remains.isInfix
      rcases List.mem_cons.mp member with rfl | inRest
      · exact ⟨⟨keyToken.nonempty, keyToken.plain, valueToken.nonempty,
          valueToken.plain⟩, keyToken.inside,
          valueToken.inside.trans behindInside⟩
      · obtain ⟨readable, keyInside, valueInside⟩ :=
          inductionHypothesis inRest
        have restInside :=
          valueToken.remains.isInfix.trans behindInside
        exact ⟨readable, keyInside.trans restInside,
          valueInside.trans restInside⟩

theorem splitOn_writePairs {pairs : List (List Letter × List Letter)}
    (nonempty : pairs ≠ [])
    (plain : ∀ pair ∈ pairs, separator ∉ writePair assign pair) :
    (writePairs assign separator pairs).splitOn separator =
      pairs.map (writePair assign) := by
  induction pairs using writePairs.induct with
  | case1 => exact absurd rfl nonempty
  | case2 pair =>
      exact List.splitOn_eq_singleton (plain pair List.mem_cons_self)
  | case3 pair next rest inductionHypothesis =>
      have later := inductionHypothesis (List.cons_ne_nil _ _)
        fun other member => plain other (List.mem_cons_of_mem _ member)
      rw [writePairs, List.splitOn_append_cons_self_of_not_mem
        (plain pair List.mem_cons_self), later]
      rfl

end Fields

section Values

variable {Value : Type*} (key : List Letter) (view : List Letter → Value)

def fieldsOf (pairs : List (List Letter × List Letter)) :
    List (List Letter × List Letter) :=
  pairs.filter (·.1 = key)

/-- What the last field with this key says, or what was known before. -/
def latest (known : Option Value) :
    List (List Letter × List Letter) → Option Value
  | [] => known
  | pair :: rest =>
      latest (if pair.1 = key then some (view pair.2) else known) rest

theorem latest_fieldsOf (known : Option Value)
    (pairs : List (List Letter × List Letter)) :
    latest key view known (fieldsOf key pairs) =
      latest key view known pairs := by
  induction pairs generalizing known with
  | nil => rfl
  | cons pair rest inductionHypothesis =>
      by_cases same : pair.1 = key
      · rw [fieldsOf, List.filter_cons_of_pos (by simpa using same), latest,
          latest, if_pos same]
        exact inductionHypothesis _
      · rw [fieldsOf, List.filter_cons_of_neg (by simpa using same), latest,
          if_neg same]
        exact inductionHypothesis known

theorem fieldsOf_eq_nil {pairs : List (List Letter × List Letter)}
    (absent : key ∉ pairs.map Prod.fst) : fieldsOf key pairs = [] := by
  refine List.filter_eq_nil_iff.mpr fun pair member => ?_
  simpa using fun same : pair.1 = key =>
    absent (same ▸ List.mem_map_of_mem member)

theorem length_fieldsOf_le {pairs : List (List Letter × List Letter)}
    (distinct : (pairs.map Prod.fst).Nodup) :
    (fieldsOf key pairs).length ≤ 1 := by
  induction pairs with
  | nil => exact Nat.zero_le 1
  | cons pair rest inductionHypothesis =>
      obtain ⟨fresh, later⟩ := List.nodup_cons.mp distinct
      by_cases same : pair.1 = key
      · have absent := fieldsOf_eq_nil key (same ▸ fresh)
        rw [fieldsOf] at absent
        rw [fieldsOf, List.filter_cons_of_pos (by simpa using same), absent]
        exact Nat.le_refl 1
      · rw [fieldsOf, List.filter_cons_of_neg (by simpa using same)]
        exact inductionHypothesis later

theorem fieldsOf_eq_of_perm {left right : List (List Letter × List Letter)}
    (rearranged : left.Perm right)
    (distinct : (right.map Prod.fst).Nodup) :
    fieldsOf key left = fieldsOf key right := by
  have single := length_fieldsOf_le key distinct
  have same : (fieldsOf key left).Perm (fieldsOf key right) :=
    rearranged.filter _
  cases found : fieldsOf key right with
  | nil =>
      rw [found] at same
      exact same.eq_nil
  | cons pair rest =>
      rw [found, List.length_cons] at single
      have alone : rest = [] := List.length_eq_zero_iff.mp
        (Nat.le_zero.mp (Nat.le_of_succ_le_succ single))
      rw [found, alone] at same
      rw [List.perm_singleton.mp same, alone]

end Values

end FunnelDispenser.KeyValues
