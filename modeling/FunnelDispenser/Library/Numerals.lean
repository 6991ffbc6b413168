import FunnelDispenser.Library.Decimal

/-!
# Numerals of any radix

Printing a number with the digits of a radix up to 16, and the C function
`strtol`, which skips blanks, takes a sign and finds the radix itself.  What
is printed is read back in front of anything that is no digit.
-/

namespace FunnelDispenser.Numerals

open CMemory Decimal

def digitValue (byte : UInt8) : Option Nat :=
  if 48 ≤ byte ∧ byte ≤ 57 then some (byte.toNat - 48)
  else if 97 ≤ byte ∧ byte ≤ 102 then some (byte.toNat - 97 + 10)
  else if 65 ≤ byte ∧ byte ≤ 70 then some (byte.toNat - 65 + 10)
  else none

/-- The digits of a radix that a text starts with. -/
def leadingDigits (radix : Nat) : Bytes → List Nat
  | [] => []
  | byte :: rest =>
      match digitValue byte with
      | some digit =>
          if digit < radix then digit :: leadingDigits radix rest else []
      | none => []

def ofLeadingDigits (radix : Nat) (digits : List Nat) : Nat :=
  digits.foldl (fun number digit => number * radix + digit) 0

/-- A number in the digits of a radix, the most significant first. -/
def printRadix (radix number : Nat) : Bytes :=
  (Nat.toDigits radix number).map fun digit => UInt8.ofNat digit.toNat

/-- Nothing that could be a further digit comes first. -/
def EndsDigits (radix : Nat) (rest : Bytes) : Prop :=
  ∀ byte, rest.head? = some byte →
    ∀ digit, digitValue byte = some digit → radix ≤ digit

def digitByte (digit : Nat) : UInt8 :=
  UInt8.ofNat (Nat.digitChar digit).toNat

theorem digitValue_digitByte {digit : Nat} (valid : digit < 16) :
    digitValue (digitByte digit) = some digit := by
  have all : ∀ digit : Fin 16,
      digitValue (digitByte digit) = some digit.val := by decide
  exact all ⟨digit, valid⟩

/-- The digits of a number, with a leading zero only for zero. -/
theorem toDigits_digits {radix : Nat} (least : 1 < radix) (number : Nat) :
    ∃ digits, Nat.toDigits radix number = digits.map Nat.digitChar ∧
      (∀ digit ∈ digits, digit < radix) ∧
      ofLeadingDigits radix digits = number ∧
      digits ≠ [] ∧ (0 < number → digits.head? ≠ some 0) := by
  induction number using Nat.strongRecOn with
  | ind number inductionHypothesis =>
      rw [Nat.toDigits_eq_if least]
      by_cases small : number < radix
      · refine ⟨[number], by rw [if_pos small]; rfl, ?_, ?_, by simp, ?_⟩
        · simpa using small
        · simp [ofLeadingDigits]
        · intro positive
          simpa using Nat.pos_iff_ne_zero.mp positive
      · have fewer : number / radix < number :=
          Nat.div_lt_self (by omega) least
        obtain ⟨digits, printed, bounds, value, nonempty, first⟩ :=
          inductionHypothesis _ fewer
        refine ⟨digits ++ [number % radix], ?_, ?_, ?_, by simp, ?_⟩
        · rw [if_neg small, printed, List.map_append]
          rfl
        · intro digit member
          rcases List.mem_append.mp member with earlier | last
          · exact bounds digit earlier
          · rw [List.mem_singleton.mp last]
            exact Nat.mod_lt _ (by omega)
        · rw [ofLeadingDigits, List.foldl_append]
          change ofLeadingDigits radix digits * radix + number % radix = number
          rw [value]
          exact Nat.div_add_mod' number radix
        · intro _
          rw [List.head?_append_of_ne_nil digits nonempty]
          exact first (Nat.div_pos (by omega) (by omega))

theorem leadingDigits_append {radix : Nat} (most : radix ≤ 16)
    {digits : List Nat} (bounds : ∀ digit ∈ digits, digit < radix)
    {rest : Bytes} (ends : EndsDigits radix rest) :
    leadingDigits radix (digits.map digitByte ++ rest) = digits := by
  induction digits with
  | nil =>
      cases rest with
      | nil => rfl
      | cons byte rest =>
          rw [List.map_nil, List.nil_append, leadingDigits]
          cases found : digitValue byte with
          | none => rfl
          | some digit =>
              have foreign := ends byte rfl digit found
              simp only [Nat.not_lt_of_le foreign, if_false]
  | cons digit digits inductionHypothesis =>
      have valid := bounds digit List.mem_cons_self
      rw [List.map_cons, List.cons_append, leadingDigits,
        digitValue_digitByte (Nat.lt_of_lt_of_le valid most)]
      simp only [valid, if_true]
      rw [inductionHypothesis fun other member =>
        bounds other (List.mem_cons_of_mem _ member)]

theorem leadingDigits_printRadix {radix : Nat} (least : 1 < radix)
    (most : radix ≤ 16) (number : Nat) {rest : Bytes}
    (ends : EndsDigits radix rest) :
    leadingDigits radix (printRadix radix number ++ rest) ≠ [] ∧
      ofLeadingDigits radix
        (leadingDigits radix (printRadix radix number ++ rest)) = number := by
  obtain ⟨digits, printed, bounds, value, nonempty, -⟩ :=
    toDigits_digits least number
  have text : printRadix radix number = digits.map digitByte := by
    rw [printRadix, printed, List.map_map]
    rfl
  rw [text, leadingDigits_append most bounds ends]
  exact ⟨nonempty, value⟩

theorem mem_printRadix {radix : Nat} (least : 1 < radix) (most : radix ≤ 16)
    {number : Nat} {byte : UInt8} (member : byte ∈ printRadix radix number) :
    ∃ digit, digitValue byte = some digit := by
  obtain ⟨digits, printed, bounds, -, -, -⟩ := toDigits_digits least number
  rw [printRadix, printed, List.map_map] at member
  obtain ⟨digit, listed, rfl⟩ := List.mem_map.mp member
  exact ⟨digit, digitValue_digitByte
    (Nat.lt_of_lt_of_le (bounds digit listed) most)⟩

def isSpace (byte : UInt8) : Bool :=
  byte = 32 || (9 ≤ byte && byte ≤ 13)

/-- The radix of a number without its sign, and where its digits are. -/
def radixAndDigits : Bytes → Nat × Bytes
  | 48 :: rest =>
      match rest with
      | mark :: digit :: behind =>
          if (mark = 120 ∨ mark = 88) ∧ (digitValue digit).isSome then
            (16, digit :: behind)
          else
            (8, 48 :: rest)
      | _ => (8, 48 :: rest)
  | text => (10, text)

/-- The sign of a number, and the rest of it. -/
def signAndNumber : Bytes → Int × Bytes
  | 45 :: rest => (-1, rest)
  | 43 :: rest => (1, rest)
  | text => (1, text)

/-- `strtol(text, &end, 0)` for numbers of 32 bits; `none` when there is no
number. -/
def strtol (text : Bytes) : Option Int :=
  let signed := signAndNumber (text.dropWhile isSpace)
  let number := radixAndDigits signed.2
  let digits := leadingDigits number.1 number.2
  if digits.isEmpty then
    none
  else
    some (max (-2147483648)
      (min 2147483647 (signed.1 * ofLeadingDigits number.1 digits)))

theorem digitByte_decimal {digit : Nat} (valid : digit < 10) :
    isSpace (digitByte digit) = false ∧ digitByte digit ≠ 45 ∧
      digitByte digit ≠ 43 ∧ (digit ≠ 0 → digitByte digit ≠ 48) := by
  have all : ∀ digit : Fin 10,
      isSpace (digitByte digit) = false ∧ digitByte digit ≠ 45 ∧
        digitByte digit ≠ 43 ∧ (digit.val ≠ 0 → digitByte digit ≠ 48) := by
    decide
  exact all ⟨digit, valid⟩

theorem signAndNumber_plain {byte : UInt8} (noMinus : byte ≠ 45)
    (noPlus : byte ≠ 43) (rest : Bytes) :
    signAndNumber (byte :: rest) = (1, byte :: rest) := by
  unfold signAndNumber
  split
  · rename_i same
    exact absurd (List.cons.inj same).1 noMinus
  · rename_i same
    exact absurd (List.cons.inj same).1 noPlus
  · rfl

theorem radixAndDigits_plain {byte : UInt8} (nonzero : byte ≠ 48)
    (rest : Bytes) : radixAndDigits (byte :: rest) = (10, byte :: rest) := by
  unfold radixAndDigits
  split
  · rename_i same
    exact absurd (List.cons.inj same).1 nonzero
  · rfl

/-- A printed number behind a blank is read back, whatever text is behind
another blank. -/
theorem strtol_printNat {number : Nat} (bound : number < 2 ^ 31)
    {rest : Bytes}
    (stops : ∀ byte, rest.head? = some byte → byte = 32) :
    strtol (32 :: (printNat number ++ rest)) = some (number : Int) := by
  obtain ⟨digits, printed, bounds, value, nonempty, first⟩ :=
    toDigits_digits (by decide : 1 < 10) number
  have text : printNat number = digits.map digitByte := by
    rw [printNat, printed, List.map_map]
    rfl
  have ends : ∀ radix, EndsDigits radix rest := by
    intro radix byte head digit found
    have blank : digitValue 32 = none := by decide
    rw [stops byte head, blank] at found
    cases found
  obtain ⟨leading, others, rfl⟩ := List.exists_cons_of_ne_nil nonempty
  obtain ⟨solid, noMinus, noPlus, nonzero⟩ :=
    digitByte_decimal (bounds leading List.mem_cons_self)
  have trimmed : (32 :: (printNat number ++ rest)).dropWhile isSpace =
      printNat number ++ rest := by
    rw [text, List.map_cons, List.cons_append,
      List.dropWhile_cons_of_pos (by decide),
      List.dropWhile_cons_of_neg (by simp [solid])]
  have unsigned : signAndNumber (printNat number ++ rest) =
      (1, printNat number ++ rest) := by
    rw [text, List.map_cons, List.cons_append]
    exact signAndNumber_plain noMinus noPlus _
  have found : ∃ radix, radixAndDigits (printNat number ++ rest) =
      (radix, printNat number ++ rest) ∧
        leadingDigits radix (printNat number ++ rest) ≠ [] ∧
        ofLeadingDigits radix
          (leadingDigits radix (printNat number ++ rest)) = number := by
    rcases Nat.eq_zero_or_pos number with rfl | positive
    · -- Zero is an octal number.
      have zero : printNat 0 = printRadix 8 0 := by decide
      refine ⟨8, ?_, ?_⟩
      · rw [show printNat 0 = [48] from by decide]
        cases rest with
        | nil => rfl
        | cons blank behind =>
            obtain rfl := stops blank rfl
            cases behind <;> rfl
      · rw [zero]
        exact leadingDigits_printRadix (by decide) (by decide) 0 (ends 8)
    · refine ⟨10, ?_, leadingDigits_printRadix (by decide) (by decide) number
        (ends 10)⟩
      rw [text, List.map_cons, List.cons_append]
      apply radixAndDigits_plain
      apply nonzero
      rintro rfl
      exact first positive rfl
  obtain ⟨radix, numeral, some, read⟩ := found
  have clamped : max (-2147483648 : Int) (min 2147483647 (1 * number)) =
      number := by
    omega
  simp only [strtol, trimmed, unsigned, numeral, List.isEmpty_iff, some,
    if_false, read, clamped]

end FunnelDispenser.Numerals
