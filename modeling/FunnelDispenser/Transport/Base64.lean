import FunnelDispenser.Library.CMemory

/-!
# Base64

The shared access key comes in Base64 and is decoded into a new buffer; the
signature of a token leaves in Base64.  The decoder sizes its buffer by the
padding at the end of the text but stops at the first other character, so for
some texts the rest of the buffer is what the heap held before.
-/

namespace FunnelDispenser.Transport

open CMemory

def base64char (val : UInt8) : UInt8 :=
  if val < 26 then 65 + val
  else if val < 52 then 97 + (val - 26)
  else if val < 62 then 48 + (val - 52)
  else if val = 62 then 43
  else 47

/-- The third character of a group that ends in two bytes. -/
def base64b16 (val : UInt8) : UInt8 :=
  (bytesOf "AEIMQUYcgkosw048").getD val.toNat 0

/-- The second character of a group that ends in one byte. -/
def base64b8 (val : UInt8) : UInt8 :=
  (bytesOf "AQgw").getD val.toNat 0

/-- `Base64_Encode_Internal`. -/
def base64Encode : Bytes → Bytes
  | b0 :: b1 :: b2 :: rest =>
      base64char (b0 >>> 2) ::
        base64char ((b0 &&& 3) <<< 4 ||| b1 >>> 4) ::
        base64char ((b1 &&& 0x0F) <<< 2 ||| (b2 >>> 6 &&& 3)) ::
        base64char (b2 &&& 0x3F) ::
        base64Encode rest
  | [b0, b1] =>
      [base64char (b0 >>> 2), base64char ((b0 &&& 0x03) <<< 4 ||| b1 >>> 4),
        base64b16 (b1 &&& 0x0F), 61]
  | [b0] => [base64char (b0 >>> 2), base64b8 (b0 &&& 0x03), 61, 61]
  | [] => []

/-- `base64toValue`; `none` is its failure. -/
def base64toValue (base64character : UInt8) : Option UInt8 :=
  if 65 ≤ base64character ∧ base64character ≤ 90 then
    some (base64character - 65)
  else if 97 ≤ base64character ∧ base64character ≤ 122 then
    some (26 + (base64character - 97))
  else if 48 ≤ base64character ∧ base64character ≤ 57 then
    some (52 + (base64character - 48))
  else if base64character = 43 then
    some 62
  else if base64character = 47 then
    some 63
  else
    none

/-- The values of the characters `numberOfBase64Characters` counts. -/
def leadingValues : Bytes → List UInt8
  | [] => []
  | character :: rest =>
      match base64toValue character with
      | some value => value :: leadingValues rest
      | none => []

/-- The padding characters a text ends with, two at most. -/
def paddingLength (text : Bytes) : Nat :=
  match text.reverse with
  | 61 :: 61 :: _ => 2
  | 61 :: _ => 1
  | _ => 0

def base64decodeLen (text : Bytes) : Nat :=
  if text.length = 0 then 0 else text.length / 4 * 3 - paddingLength text

/-- What `Base64decode` writes, from the first byte of the buffer on. -/
def base64decode : (values : List UInt8) → Bytes
  | c1 :: c2 :: c3 :: c4 :: rest =>
      (c1 <<< 2 ||| c2 >>> 4) :: ((c2 &&& 0x0f) <<< 4 ||| c3 >>> 2) ::
        ((c3 &&& 0x03) <<< 6 ||| c4) :: base64decode rest
  | [c1, c2, c3] =>
      [c1 <<< 2 ||| c2 >>> 4, (c2 &&& 0x0f) <<< 4 ||| c3 >>> 2]
  | [c1, c2] => [c1 <<< 2 ||| c2 >>> 4]
  | _ => []

/-- What `Base64_Decoder` returns, or does to the heap. -/
inductive Decoding where
  | refused
  | overrun
  | decoded (bytes : Bytes)
deriving DecidableEq, Repr

/-- `Base64_Decoder`; `stale` is what the heap holds where the buffer is put. -/
def base64Decoder (stale : Nat → UInt8) (source : Bytes) : Decoding :=
  if source.length % 4 ≠ 0 then
    .refused
  else
    let size := base64decodeLen source
    if 0 < size then
      let written := base64decode (leadingValues source)
      if written.length ≤ size then
        .decoded (written ++
          (List.range' written.length (size - written.length)).map stale)
      else
        .overrun
    else
      .decoded []

theorem base64toValue_base64char {val : UInt8} (sextet : val < 64) :
    base64toValue (base64char val) = some val := by
  have all : ∀ number < 64, base64toValue (base64char (UInt8.ofNat number)) =
      some (UInt8.ofNat number) := by decide
  have found := all val.toNat (UInt8.lt_iff_toNat_lt.mp sextet)
  rw [UInt8.ofNat_toNat] at found
  exact found

theorem base64toValue_base64b16 {val : UInt8} (small : val < 16) :
    base64toValue (base64b16 val) = some (val <<< 2) := by
  have all : ∀ number < 16, base64toValue (base64b16 (UInt8.ofNat number)) =
      some (UInt8.ofNat number <<< 2) := by decide
  have found := all val.toNat (UInt8.lt_iff_toNat_lt.mp small)
  rw [UInt8.ofNat_toNat] at found
  exact found

theorem base64toValue_base64b8 {val : UInt8} (small : val < 4) :
    base64toValue (base64b8 val) = some (val <<< 4) := by
  have all : ∀ number < 4, base64toValue (base64b8 (UInt8.ofNat number)) =
      some (UInt8.ofNat number <<< 4) := by decide
  have found := all val.toNat (UInt8.lt_iff_toNat_lt.mp small)
  rw [UInt8.ofNat_toNat] at found
  exact found

theorem base64toValue_padding : base64toValue 61 = none := by decide

theorem forall_byte {property : UInt8 → Prop}
    (all : ∀ number < 256, property (UInt8.ofNat number)) :
    ∀ byte, property byte := by
  intro byte
  have found := all byte.toNat byte.toNat_lt
  rw [UInt8.ofNat_toNat] at found
  exact found

def secondSextet (b0 b1 : UInt8) : UInt8 :=
  (b0 &&& 3) <<< 4 ||| b1 >>> 4

def thirdSextet (b1 b2 : UInt8) : UInt8 :=
  (b1 &&& 0x0F) <<< 2 ||| (b2 >>> 6 &&& 3)

theorem or_lt_64 {left right : UInt8} (leftSmall : left < 64)
    (rightSmall : right < 64) : left ||| right < 64 := by
  rw [UInt8.lt_iff_toNat_lt] at leftSmall rightSmall ⊢
  rw [UInt8.toNat_or]
  exact Nat.or_lt_two_pow (n := 6) leftSmall rightSmall

theorem shiftRight_two_lt : ∀ byte : UInt8, byte >>> 2 < 64 :=
  forall_byte (by decide +kernel)

theorem secondSextet_lt (b0 b1 : UInt8) : secondSextet b0 b1 < 64 := by
  have left : ∀ byte : UInt8, (byte &&& 3) <<< 4 < 64 :=
    forall_byte (by decide +kernel)
  have right : ∀ byte : UInt8, byte >>> 4 < 64 :=
    forall_byte (by decide +kernel)
  exact or_lt_64 (left b0) (right b1)

theorem thirdSextet_lt (b1 b2 : UInt8) : thirdSextet b1 b2 < 64 := by
  have left : ∀ byte : UInt8, (byte &&& 0x0F) <<< 2 < 64 :=
    forall_byte (by decide +kernel)
  have right : ∀ byte : UInt8, byte >>> 6 &&& 3 < 64 :=
    forall_byte (by decide +kernel)
  exact or_lt_64 (left b1) (right b2)

theorem and_sixtyThree_lt : ∀ byte : UInt8, byte &&& 0x3F < 64 :=
  forall_byte (by decide +kernel)

theorem and_fifteen_lt : ∀ byte : UInt8, byte &&& 0x0F < 16 :=
  forall_byte (by decide +kernel)

theorem and_three_lt : ∀ byte : UInt8, byte &&& 0x03 < 4 :=
  forall_byte (by decide +kernel)

theorem join_first (b0 b1 : UInt8) :
    (b0 >>> 2) <<< 2 ||| secondSextet b0 b1 >>> 4 = b0 := by
  apply UInt8.eq_of_toBitVec_eq
  ext place inside
  simp only [secondSextet]
  interval_cases place <;> simp

theorem join_second (b0 b1 b2 : UInt8) :
    (secondSextet b0 b1 &&& 0x0F) <<< 4 ||| thirdSextet b1 b2 >>> 2 = b1 := by
  apply UInt8.eq_of_toBitVec_eq
  ext place inside
  simp only [secondSextet, thirdSextet]
  interval_cases place <;> simp

theorem join_second_last (b0 b1 : UInt8) :
    (secondSextet b0 b1 &&& 0x0F) <<< 4 |||
      ((b1 &&& 0x0F) <<< 2) >>> 2 = b1 := by
  apply UInt8.eq_of_toBitVec_eq
  ext place inside
  simp only [secondSextet]
  interval_cases place <;> simp

theorem join_first_last (b0 : UInt8) :
    (b0 >>> 2) <<< 2 ||| ((b0 &&& 0x03) <<< 4) >>> 4 = b0 := by
  apply UInt8.eq_of_toBitVec_eq
  ext place inside
  interval_cases place <;> simp

theorem join_third (b1 b2 : UInt8) :
    (thirdSextet b1 b2 &&& 0x03) <<< 6 ||| b2 &&& 0x3F = b2 := by
  apply UInt8.eq_of_toBitVec_eq
  ext place inside
  simp only [thirdSextet]
  interval_cases place <;> simp

theorem leadingValues_cons {character value : UInt8}
    (known : base64toValue character = some value) (rest : Bytes) :
    leadingValues (character :: rest) = value :: leadingValues rest := by
  rw [leadingValues, known]

theorem leadingValues_padding (rest : Bytes) :
    leadingValues (61 :: rest) = [] := by
  rw [leadingValues, base64toValue_padding]

/-- What is written is what was encoded. -/
theorem base64decode_base64Encode (bytes : Bytes) :
    base64decode (leadingValues (base64Encode bytes)) = bytes := by
  induction bytes using base64Encode.induct with
  | case1 b0 b1 b2 rest inductionHypothesis =>
      have first := base64toValue_base64char (shiftRight_two_lt b0)
      have second := base64toValue_base64char (secondSextet_lt b0 b1)
      have third := base64toValue_base64char (thirdSextet_lt b1 b2)
      have fourth := base64toValue_base64char (and_sixtyThree_lt b2)
      rw [secondSextet] at second
      rw [thirdSextet] at third
      rw [base64Encode, leadingValues_cons first, leadingValues_cons second,
        leadingValues_cons third, leadingValues_cons fourth, base64decode,
        inductionHypothesis]
      have firstByte := join_first b0 b1
      have secondByte := join_second b0 b1 b2
      have thirdByte := join_third b1 b2
      simp only [secondSextet, thirdSextet] at firstByte secondByte thirdByte
      rw [firstByte, secondByte, thirdByte]
  | case2 b0 b1 =>
      have first := base64toValue_base64char (shiftRight_two_lt b0)
      have second := base64toValue_base64char (secondSextet_lt b0 b1)
      have third := base64toValue_base64b16 (and_fifteen_lt b1)
      rw [secondSextet] at second
      rw [base64Encode, leadingValues_cons first, leadingValues_cons second,
        leadingValues_cons third, leadingValues_padding, base64decode]
      have firstByte := join_first b0 b1
      have secondByte := join_second_last b0 b1
      simp only [secondSextet] at firstByte secondByte
      rw [firstByte, secondByte]
  | case3 b0 =>
      have first := base64toValue_base64char (shiftRight_two_lt b0)
      have second := base64toValue_base64b8 (and_three_lt b0)
      rw [base64Encode, leadingValues_cons first, leadingValues_cons second,
        leadingValues_padding, base64decode, join_first_last]
  | case4 => rfl

def isBase64 (character : UInt8) : Bool :=
  (base64toValue character).isSome

/-- Nothing but Base64 characters in front of the padding. -/
def WellPadded (text : Bytes) : Prop :=
  (text.take (text.length - paddingLength text)).all isBase64 = true

theorem paddingLength_le (text : Bytes) : paddingLength text ≤ 2 := by
  unfold paddingLength
  split <;> omega

theorem take_append_padding (text : Bytes) :
    text.take (text.length - paddingLength text) ++
      List.replicate (paddingLength text) 61 = text := by
  have joined : ∀ front back : Bytes, text = front ++ back →
      back = List.replicate (paddingLength text) 61 →
        text.take (text.length - paddingLength text) ++
          List.replicate (paddingLength text) 61 = text := by
    intro front back whole padding
    have length : text.length - paddingLength text = front.length := by
      rw [whole, List.length_append, ← whole, padding, List.length_replicate,
        Nat.add_sub_cancel]
    rw [length, ← padding, whole, List.take_left]
  by_cases two : ∃ front, text.reverse = 61 :: 61 :: front
  · obtain ⟨front, ends⟩ := two
    apply joined front.reverse [61, 61]
    · rw [← List.reverse_reverse text, ends]
      simp
    · rw [paddingLength, ends]
      rfl
  · by_cases one : ∃ front, text.reverse = 61 :: front
    · obtain ⟨front, ends⟩ := one
      have single : paddingLength text = 1 := by
        rw [paddingLength, ends]
        split
        · rename_i other same
          exact absurd ⟨other, ends.trans same⟩ two
        · rfl
        · rename_i none
          exact absurd rfl (none front)
      apply joined front.reverse [61]
      · rw [← List.reverse_reverse text, ends]
        simp
      · rw [single]
        rfl
    · have none : paddingLength text = 0 := by
        rw [paddingLength]
        split
        · rename_i other same
          exact absurd ⟨_, same⟩ one
        · rename_i other _ same
          exact absurd ⟨_, same⟩ one
        · rfl
      rw [none]
      simp

theorem leadingValues_append_padding (front : Bytes) (count : Nat) :
    leadingValues (front ++ List.replicate count 61) =
      leadingValues front := by
  induction front with
  | nil =>
      cases count with
      | zero => rfl
      | succ count =>
          rw [List.nil_append, List.replicate_succ, leadingValues_padding]
          rfl
  | cons character rest inductionHypothesis =>
      rw [List.cons_append, leadingValues, inductionHypothesis]
      rfl

/-- The values stop at the first character that is not one of Base64. -/
theorem length_leadingValues (front : Bytes) :
    (leadingValues front).length ≤ front.length ∧
      ((leadingValues front).length = front.length ↔
        front.all isBase64 = true) := by
  induction front with
  | nil => simp [leadingValues]
  | cons character rest inductionHypothesis =>
      rw [leadingValues, List.all_cons, isBase64]
      cases base64toValue character with
      | none => simp
      | some value => simpa using inductionHypothesis

theorem length_base64decode (values : List UInt8) :
    (base64decode values).length =
      values.length / 4 * 3 + (values.length % 4 - 1) := by
  induction values using base64decode.induct with
  | case1 c1 c2 c3 c4 rest inductionHypothesis =>
      simp only [base64decode, List.length_cons, inductionHypothesis]
      omega
  | case2 c1 c2 c3 => simp [base64decode]
  | case3 c1 c2 => simp [base64decode]
  | case4 values notFour notThree notTwo =>
      have short : values.length ≤ 1 := by
        match values with
        | [] => simp
        | [_] => simp
        | [c1, c2] => exact absurd rfl (notTwo c1 c2)
        | [c1, c2, c3] => exact absurd rfl (notThree c1 c2 c3)
        | c1 :: c2 :: c3 :: c4 :: rest =>
            exact absurd rfl (notFour c1 c2 c3 c4 rest)
      rw [base64decode]
      · simp only [List.length_nil]
        omega
      · exact notFour
      · exact notThree
      · exact notTwo

/-- The buffer is never too small, and full exactly for a well padded text. -/
theorem length_written {text : Bytes} (groups : text.length % 4 = 0) :
    (base64decode (leadingValues text)).length ≤ base64decodeLen text ∧
      ((base64decode (leadingValues text)).length = base64decodeLen text ↔
        WellPadded text) := by
  have padding := paddingLength_le text
  have shape := take_append_padding text
  have sizes := congrArg List.length shape
  rw [List.length_append, List.length_replicate] at sizes
  have values := leadingValues_append_padding
    (text.take (text.length - paddingLength text)) (paddingLength text)
  rw [shape] at values
  obtain ⟨most, all⟩ :=
    length_leadingValues (text.take (text.length - paddingLength text))
  rw [WellPadded, ← all, length_base64decode, values, base64decodeLen]
  split
  · omega
  · omega

/-- The buffer of the decoder, with what was on the heap behind the written
bytes. -/
theorem base64Decoder_eq {source : Bytes} (groups : source.length % 4 = 0)
    (stale : Nat → UInt8) :
    base64Decoder stale source =
      .decoded (base64decode (leadingValues source) ++
        (List.range' (base64decode (leadingValues source)).length
          (base64decodeLen source -
            (base64decode (leadingValues source)).length)).map stale) := by
  obtain ⟨fits, -⟩ := length_written groups
  rw [base64Decoder, if_neg (by omega)]
  by_cases positive : 0 < base64decodeLen source
  · simp only [positive, if_true, fits]
  · have empty : (base64decode (leadingValues source)).length = 0 := by omega
    have size : base64decodeLen source = 0 := by omega
    simp only [size, Nat.lt_irrefl, if_false, empty]
    simp [List.length_eq_zero_iff.mp empty]

/-- The decoder never writes behind its buffer, and what it returns is
independent of the heap exactly for the texts it refuses and those that are
well padded. -/
theorem base64Decoder_steady_iff (source : Bytes) :
    (∀ stale, base64Decoder stale source ≠ .overrun) ∧
      ((∀ stale other, base64Decoder stale source =
          base64Decoder other source) ↔
        source.length % 4 ≠ 0 ∨ WellPadded source) := by
  by_cases groups : source.length % 4 = 0
  · have full := length_written groups
    constructor
    · intro stale overrun
      rw [base64Decoder_eq groups] at overrun
      cases overrun
    constructor
    · intro steady
      have same := steady (fun _ => 0) (fun _ => 1)
      rw [base64Decoder_eq groups, base64Decoder_eq groups,
        Decoding.decoded.injEq, List.append_cancel_left_eq] at same
      right
      rw [← full.2]
      by_contra gap
      obtain ⟨count, more⟩ : ∃ count, base64decodeLen source -
          (base64decode (leadingValues source)).length = count + 1 :=
        ⟨_, (Nat.sub_add_cancel (by omega)).symm⟩
      rw [more, List.range'_succ, List.map_cons, List.map_cons] at same
      exact absurd (List.cons.inj same).1 (by decide)
    · rintro (ragged | padded) stale other
      · exact absurd groups ragged
      · rw [base64Decoder_eq groups, base64Decoder_eq groups,
          full.2.mpr padded, Nat.sub_self]
        rfl
  · have refused : ∀ stale, base64Decoder stale source = .refused := by
      intro stale
      rw [base64Decoder, if_pos groups]
    refine ⟨fun stale overrun => ?_, ?_⟩
    · rw [refused stale] at overrun
      cases overrun
    · exact iff_of_true
        (fun stale other => (refused stale).trans (refused other).symm)
        (.inl groups)

theorem paddingLength_append {front : Bytes} (plain : front.all isBase64 = true)
    {count : Nat} (most : count ≤ 2) :
    paddingLength (front ++ List.replicate count 61) = count := by
  have ends : ∀ rest : Bytes, front.reverse ≠ 61 :: rest := by
    intro rest same
    have member : (61 : UInt8) ∈ front := by
      rw [← List.mem_reverse, same]
      exact List.mem_cons_self
    have listed := List.all_eq_true.mp plain 61 member
    rw [isBase64, base64toValue_padding] at listed
    cases listed
  rw [paddingLength, List.reverse_append, List.reverse_replicate]
  match count with
  | 0 =>
      rw [List.replicate_zero, List.nil_append]
      split
      · rename_i rest same
        exact absurd same (ends _)
      · rename_i rest _ same
        exact absurd same (ends _)
      · rfl
  | 1 =>
      rw [List.replicate_one, List.singleton_append]
      split
      · rename_i rest same
        exact absurd (List.cons.inj same).2 (ends _)
      · rfl
      · rename_i none
        exact absurd rfl (none _)
  | 2 => rfl

theorem isBase64_base64char {val : UInt8} (sextet : val < 64) :
    isBase64 (base64char val) = true := by
  rw [isBase64, base64toValue_base64char sextet]
  rfl

theorem base64Encode_shape (bytes : Bytes) :
    ∃ front count, base64Encode bytes = front ++ List.replicate count 61 ∧
      front.all isBase64 = true ∧ count ≤ 2 ∧
      (front.length + count) % 4 = 0 := by
  induction bytes using base64Encode.induct with
  | case1 b0 b1 b2 rest inductionHypothesis =>
      obtain ⟨front, count, shape, plain, most, groups⟩ := inductionHypothesis
      have second := isBase64_base64char (secondSextet_lt b0 b1)
      have third := isBase64_base64char (thirdSextet_lt b1 b2)
      rw [secondSextet] at second
      rw [thirdSextet] at third
      refine ⟨base64char (b0 >>> 2) ::
        base64char ((b0 &&& 3) <<< 4 ||| b1 >>> 4) ::
        base64char ((b1 &&& 0x0F) <<< 2 ||| (b2 >>> 6 &&& 3)) ::
        base64char (b2 &&& 0x3F) :: front, count, ?_, ?_, most, ?_⟩
      · rw [base64Encode, shape]
        rfl
      · simp only [List.all_cons, isBase64_base64char (shiftRight_two_lt b0),
          second, third, isBase64_base64char (and_sixtyThree_lt b2), plain,
          Bool.and_self]
      · simp only [List.length_cons]
        omega
  | case2 b0 b1 =>
      have second := isBase64_base64char (secondSextet_lt b0 b1)
      rw [secondSextet] at second
      have third : isBase64 (base64b16 (b1 &&& 0x0F)) = true := by
        rw [isBase64, base64toValue_base64b16 (and_fifteen_lt b1)]
        rfl
      refine ⟨[base64char (b0 >>> 2),
        base64char ((b0 &&& 0x03) <<< 4 ||| b1 >>> 4),
        base64b16 (b1 &&& 0x0F)], 1, rfl, ?_, by decide, by simp⟩
      simp only [List.all_cons, List.all_nil,
        isBase64_base64char (shiftRight_two_lt b0), second, third,
        Bool.and_self]
  | case3 b0 =>
      have second : isBase64 (base64b8 (b0 &&& 0x03)) = true := by
        rw [isBase64, base64toValue_base64b8 (and_three_lt b0)]
        rfl
      refine ⟨[base64char (b0 >>> 2), base64b8 (b0 &&& 0x03)], 2, rfl, ?_,
        by decide, by simp⟩
      simp only [List.all_cons, List.all_nil,
        isBase64_base64char (shiftRight_two_lt b0), second, Bool.and_self]
  | case4 => exact ⟨[], 0, rfl, rfl, by decide, rfl⟩

theorem wellPadded_base64Encode (bytes : Bytes) :
    (base64Encode bytes).length % 4 = 0 ∧ WellPadded (base64Encode bytes) := by
  obtain ⟨front, count, shape, plain, most, groups⟩ :=
    base64Encode_shape bytes
  rw [WellPadded, shape, paddingLength_append plain most, List.length_append,
    List.length_replicate, Nat.add_sub_cancel, List.take_left]
  exact ⟨groups, plain⟩

theorem decoded_base64Encode (stale : Nat → UInt8) (bytes : Bytes) :
    base64Decoder stale (base64Encode bytes) = .decoded bytes := by
  obtain ⟨groups, padded⟩ := wellPadded_base64Encode bytes
  have full := (length_written groups).2.mpr padded
  rw [base64Decoder_eq groups, ← full, Nat.sub_self,
    base64decode_base64Encode]
  simp

/-- Whatever was on the heap, an encoded text is decoded to its bytes. -/
theorem base64Decoder_base64Encode (stale : Nat → UInt8) (bytes : Bytes) :
    base64Decoder stale (base64Encode bytes) = .decoded bytes :=
  decoded_base64Encode stale bytes

end FunnelDispenser.Transport
