import FunnelDispenser.Library.CMemory

/-!
# Decimal text and 32-bit accumulation

Printing a number with a do-while loop over its decimal digits, and reading
such a text back into a 32-bit register that wraps on overflow.  The two are
inverse modulo `2 ^ 32`, whatever follows the digits.
-/

namespace FunnelDispenser.Decimal

open CMemory

def isDigit (byte : UInt8) : Bool :=
  48 ≤ byte && byte ≤ 57

/-- Decimal digits, most significant first; `0` prints as one digit. -/
def printNat (value : Nat) : Bytes :=
  (Nat.toDigits 10 value).map fun digit => UInt8.ofNat digit.toNat

/-- Accumulate the leading digits of a text, wrapping modulo `2 ^ 32`. -/
def readDigits (accumulator : BitVec 32) : Bytes → BitVec 32
  | [] => accumulator
  | byte :: rest =>
      if isDigit byte then
        readDigits
          (accumulator * 10 + BitVec.ofNat 32 (byte.toNat - 48)) rest
      else
        accumulator

private theorem charToNat_of_isDigit {digit : Char} (valid : digit.isDigit) :
    48 ≤ digit.toNat ∧ digit.toNat ≤ 57 := by
  simp only [Char.isDigit, Bool.and_eq_true, decide_eq_true_eq] at valid
  exact ⟨by simpa using UInt32.le_iff_toNat_le.mp valid.1,
    by simpa using UInt32.le_iff_toNat_le.mp valid.2⟩

private theorem digitByte_toNat {digit : Char} (valid : digit.isDigit) :
    (UInt8.ofNat digit.toNat).toNat = digit.toNat := by
  have bounds := charToNat_of_isDigit valid
  simp
  omega

theorem isDigit_iff_toNat (byte : UInt8) :
    isDigit byte = true ↔ 48 ≤ byte.toNat ∧ byte.toNat ≤ 57 := by
  simp [isDigit, UInt8.le_iff_toNat_le]

theorem isDigit_of_mem_printNat {value : Nat} {byte : UInt8}
    (member : byte ∈ printNat value) :
    isDigit byte = true := by
  obtain ⟨digit, digitMember, rfl⟩ := List.mem_map.mp member
  have valid : digit.isDigit :=
    Nat.isDigit_of_mem_toDigits (by omega) (by omega) digitMember
  rw [isDigit_iff_toNat, digitByte_toNat valid]
  exact charToNat_of_isDigit valid

theorem printNat_ne_nil (value : Nat) : printNat value ≠ [] := by
  simp [printNat, Nat.toDigits_ne_nil]

private theorem readDigits_digits
    (digits : List Char) (rest : Bytes) (initial : Nat)
    (valid : ∀ digit ∈ digits, digit.isDigit)
    (stops : ∀ byte, rest.head? = some byte → isDigit byte = false) :
    readDigits (BitVec.ofNat 32 initial)
        (digits.map (fun digit => UInt8.ofNat digit.toNat) ++ rest) =
      BitVec.ofNat 32 (Nat.ofDigitChars 10 digits initial) := by
  induction digits generalizing initial with
  | nil =>
      cases rest with
      | nil => simp [readDigits]
      | cons byte rest =>
          simp [readDigits, stops byte rfl]
  | cons digit digits inductionHypothesis =>
      have digitValid : digit.isDigit := valid digit (by simp)
      have isDigitByte : isDigit (UInt8.ofNat digit.toNat) = true := by
        rw [isDigit_iff_toNat, digitByte_toNat digitValid]
        exact charToNat_of_isDigit digitValid
      have accumulated :
          BitVec.ofNat 32 initial * 10 +
              BitVec.ofNat 32 ((UInt8.ofNat digit.toNat).toNat - 48) =
            BitVec.ofNat 32 (10 * initial + (digit.toNat - 48)) := by
        rw [digitByte_toNat digitValid]
        simp [Nat.mul_comm 10 initial, BitVec.ofNat_add, BitVec.ofNat_mul]
      rw [List.map_cons, List.cons_append, readDigits, if_pos isDigitByte,
        accumulated, inductionHypothesis _
          (fun tested member => valid tested (by simp [member])),
        Nat.ofDigitChars_cons]
      rfl

/-- Reading a printed number gives it back modulo `2 ^ 32`, provided no
further digit follows. -/
theorem readDigits_printNat
    (value : Nat) (rest : Bytes)
    (stops : ∀ byte, rest.head? = some byte → isDigit byte = false) :
    readDigits 0 (printNat value ++ rest) = BitVec.ofNat 32 value := by
  have accumulated :=
    readDigits_digits (Nat.toDigits 10 value) rest 0
      (fun digit member =>
        Nat.isDigit_of_mem_toDigits (by omega) (by omega) member)
      stops
  rw [Nat.ofDigitChars_ten_toDigits] at accumulated
  exact accumulated

theorem length_printNat_le_of_lt {value count : Nat} (positive : 0 < count)
    (bound : value < 10 ^ count) :
    (printNat value).length ≤ count := by
  rw [printNat, List.length_map,
    Nat.length_toDigits_le_iff (by omega) positive]
  exact bound

theorem length_printNat_le {value : Nat} (bound : value < 2 ^ 32) :
    (printNat value).length ≤ 10 :=
  length_printNat_le_of_lt (by omega) (by omega)

theorem printNat_inj {left right : Nat} (leftBound : left < 2 ^ 32)
    (rightBound : right < 2 ^ 32) (same : printNat left = printNat right) :
    left = right := by
  have readLeft := readDigits_printNat left [] (by simp)
  have readRight := readDigits_printNat right [] (by simp)
  rw [same, readRight] at readLeft
  have values := congrArg BitVec.toNat readLeft
  rw [BitVec.toNat_ofNat, BitVec.toNat_ofNat] at values
  omega

/-- A separator that is no digit ends a printed number. -/
theorem printNat_append_inj {left right : Nat} {separator : UInt8}
    {rest others : Bytes} (leftBound : left < 2 ^ 32)
    (rightBound : right < 2 ^ 32) (stops : isDigit separator = false)
    (same : printNat left ++ separator :: rest =
      printNat right ++ separator :: others) :
    left = right ∧ rest = others := by
  have digits : ∀ value following,
      (printNat value ++ separator :: following).takeWhile isDigit =
        printNat value := by
    intro value following
    rw [List.takeWhile_append_of_pos fun _ => isDigit_of_mem_printNat,
      List.takeWhile_cons_of_neg (by simp [stops]), List.append_nil]
  have printed : printNat left = printNat right := by
    rw [← digits left rest, same, digits]
  refine ⟨printNat_inj leftBound rightBound printed, ?_⟩
  rw [printed] at same
  exact (List.cons.inj (List.append_cancel_left same)).2

end FunnelDispenser.Decimal
