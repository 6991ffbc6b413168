import FunnelDispenser.Transport.Base64

/-!
# URL encoding

Device ids and signatures are put into paths and tokens URL encoded.  A byte
from 128 on is taken for a Latin-1 character and written as the two escapes of
its UTF-8 form; the decoder does not read those.
-/

namespace FunnelDispenser.Transport

open CMemory

def isPrintable (c : UInt8) : Bool :=
  c = 0 || (bytesOf "!()*-._").contains c || (48 ≤ c && c ≤ 57) ||
    (65 ≤ c && c ≤ 90) || (97 ≤ c && c ≤ 122)

def nibbleToString (nibble : UInt8) : UInt8 :=
  if nibble < 10 then nibble + 48 else nibble - 10 + 97

/-- The big nibble as `URL_PrintableChar` writes it. -/
def bigNibbleStr (charVal : UInt8) : UInt8 :=
  let bigNibbleVal := charVal >>> 4
  nibbleToString
    (if 0x0C ≤ bigNibbleVal then bigNibbleVal - 0x04 else bigNibbleVal)

def urlPrintableChar (charVal : UInt8) : Bytes :=
  if isPrintable charVal then
    [charVal]
  else if charVal < 0x80 then
    [37, bigNibbleStr charVal, nibbleToString (charVal &&& 0x0F)]
  else
    [37, 99, if charVal < 0xC0 then 50 else 51, 37, bigNibbleStr charVal,
      nibbleToString (charVal &&& 0x0F)]

def urlEncode (text : Bytes) : Bytes :=
  text.flatMap urlPrintableChar

def isHexDigit (c : UInt8) : Bool :=
  (48 ≤ c && c ≤ 57) || (65 ≤ c && c ≤ 70) || (97 ≤ c && c ≤ 102)

def isInAsciiRange (c : UInt8) : Bool :=
  48 ≤ c && c ≤ 55

/-- `calculateDecodedStringSize` without the terminator; `none` is its 0. -/
def calculateDecodedStringSize : Bytes → Option Nat
  | [] => some 0
  | c :: rest =>
      if c = 37 then
        match rest with
        | big :: little :: behind =>
            if isHexDigit big && isHexDigit little then
              if isInAsciiRange big then
                (calculateDecodedStringSize behind).map (· + 1)
              else
                none
            else
              none
        | _ => none
      else if isPrintable c then
        (calculateDecodedStringSize rest).map (· + 1)
      else
        none

def nibbleFromString (c : UInt8) : UInt8 :=
  if 48 ≤ c ∧ c ≤ 57 then c - 48
  else (if 97 ≤ c ∧ c ≤ 122 then c - 32 else c) + 10 - 65

def charFromNibbles (big little : UInt8) : UInt8 :=
  nibbleFromString big <<< 4 ||| nibbleFromString little

/-- `createDecodedString` in front of the terminator. -/
def createDecodedString : Bytes → Bytes
  | 37 :: big :: little :: behind =>
      charFromNibbles big little :: createDecodedString behind
  | c :: rest => c :: createDecodedString rest
  | [] => []

def urlDecode (input : Bytes) : Decoding :=
  match calculateDecodedStringSize input with
  | none => .refused
  | some size =>
      if (createDecodedString input).length ≤ size then
        .decoded (createDecodedString input)
      else
        .overrun

theorem calculateDecodedStringSize_plain {c : UInt8} (plain : c ≠ 37)
    (rest : Bytes) :
    calculateDecodedStringSize (c :: rest) =
      if isPrintable c then
        (calculateDecodedStringSize rest).map (· + 1)
      else
        none := by
  conv_lhs => unfold calculateDecodedStringSize
  rw [if_neg plain]

theorem calculateDecodedStringSize_escape (big little : UInt8)
    (behind : Bytes) :
    calculateDecodedStringSize (37 :: big :: little :: behind) =
      if isHexDigit big && isHexDigit little then
        if isInAsciiRange big then
          (calculateDecodedStringSize behind).map (· + 1)
        else
          none
      else
        none := by
  rw [calculateDecodedStringSize, if_pos rfl]

theorem length_createDecodedString {input : Bytes} {size : Nat}
    (counted : calculateDecodedStringSize input = some size) :
    (createDecodedString input).length = size := by
  induction input using createDecodedString.induct generalizing size with
  | case1 big little behind inductionHypothesis =>
      rw [calculateDecodedStringSize_escape] at counted
      split at counted
      · split at counted
        · obtain ⟨rest, found, rfl⟩ := Option.map_eq_some_iff.mp counted
          rw [createDecodedString, List.length_cons,
            inductionHypothesis found]
        · cases counted
      · cases counted
  | case2 c rest noEscape inductionHypothesis =>
      unfold calculateDecodedStringSize at counted
      split at counted
      · rename_i percent
        split at counted
        · exact absurd rfl (noEscape _ _ _ percent)
        · cases counted
      · split at counted
        · obtain ⟨more, found, rfl⟩ := Option.map_eq_some_iff.mp counted
          rw [createDecodedString, List.length_cons,
            inductionHypothesis found]
          exact noEscape
        · cases counted
  | case3 =>
      cases counted
      rfl

theorem urlDecode_eq (input : Bytes) :
    urlDecode input =
      if (calculateDecodedStringSize input).isSome then
        .decoded (createDecodedString input)
      else
        .refused := by
  rw [urlDecode]
  cases counted : calculateDecodedStringSize input with
  | none => rfl
  | some size =>
      simp [length_createDecodedString counted]

theorem escape_ascii : ∀ charVal : UInt8, isPrintable charVal = false →
    charVal < 0x80 →
      isHexDigit (bigNibbleStr charVal) = true ∧
      isHexDigit (nibbleToString (charVal &&& 0x0F)) = true ∧
      isInAsciiRange (bigNibbleStr charVal) = true ∧
      charFromNibbles (bigNibbleStr charVal)
        (nibbleToString (charVal &&& 0x0F)) = charVal :=
  forall_byte (by decide +kernel)

theorem plain_of_printable : ∀ charVal : UInt8,
    isPrintable charVal = true → charVal ≠ 37 ∧ charVal < 0x80 :=
  forall_byte (by decide +kernel)

/-- The decoder goes through an encoded character, unless it is one of
Latin-1. -/
theorem decode_urlPrintableChar (charVal : UInt8) (behind : Bytes) :
    (charVal < 0x80 →
      calculateDecodedStringSize (urlPrintableChar charVal ++ behind) =
          (calculateDecodedStringSize behind).map (· + 1) ∧
        createDecodedString (urlPrintableChar charVal ++ behind) =
          charVal :: createDecodedString behind) ∧
    (¬charVal < 0x80 →
      calculateDecodedStringSize (urlPrintableChar charVal ++ behind) =
        none) := by
  rw [urlPrintableChar]
  cases printable : isPrintable charVal with
  | true =>
      obtain ⟨plain, ascii⟩ := plain_of_printable charVal printable
      refine ⟨fun _ => ⟨?_, ?_⟩, fun beyond => absurd ascii beyond⟩
      · simp only [if_true, List.singleton_append]
        rw [calculateDecodedStringSize_plain plain, if_pos printable]
      · simp only [if_true, List.singleton_append]
        rw [createDecodedString]
        exact fun _ _ _ percent _ => plain percent
  | false =>
      simp only [Bool.false_eq_true, if_false]
      constructor
      · intro ascii
        obtain ⟨big, little, inRange, value⟩ :=
          escape_ascii charVal printable ascii
        rw [if_pos ascii]
        simp only [List.cons_append, List.nil_append]
        constructor
        · rw [calculateDecodedStringSize_escape, big, little, inRange]
          rfl
        · rw [createDecodedString, value]
      · intro beyond
        have noDigit : isInAsciiRange 99 = false := by decide
        rw [if_neg beyond]
        simp only [List.cons_append, List.nil_append]
        simp only [calculateDecodedStringSize_escape, noDigit,
          Bool.false_eq_true, if_false, ite_self]

theorem calculateDecodedStringSize_urlEncode (text : Bytes) :
    calculateDecodedStringSize (urlEncode text) =
      if ∀ byte ∈ text, byte < 0x80 then some text.length else none := by
  induction text with
  | nil => simp [urlEncode, calculateDecodedStringSize]
  | cons charVal rest inductionHypothesis =>
      obtain ⟨goesThrough, stops⟩ :=
        decode_urlPrintableChar charVal (urlEncode rest)
      have joined : urlEncode (charVal :: rest) =
          urlPrintableChar charVal ++ urlEncode rest := by
        rw [urlEncode, List.flatMap_cons]
        rfl
      rw [joined]
      by_cases ascii : charVal < 0x80
      · rw [(goesThrough ascii).1, inductionHypothesis]
        by_cases allAscii : ∀ byte ∈ rest, byte < 0x80
        · simp only [List.forall_mem_cons, ascii, true_and, if_pos allAscii]
          rfl
        · simp only [List.forall_mem_cons, ascii, true_and, if_neg allAscii]
          rfl
      · simp only [List.forall_mem_cons, ascii, false_and, if_false,
          stops ascii]

theorem createDecodedString_urlEncode {text : Bytes}
    (ascii : ∀ byte ∈ text, byte < 0x80) :
    createDecodedString (urlEncode text) = text := by
  induction text with
  | nil => rfl
  | cons charVal rest inductionHypothesis =>
      obtain ⟨here, later⟩ := List.forall_mem_cons.mp ascii
      have step := (decode_urlPrintableChar charVal (urlEncode rest)).1 here
      rw [urlEncode, List.flatMap_cons]
      exact step.2.trans (congrArg _ (inductionHypothesis later))

theorem urlDecode_urlEncode {text : Bytes}
    (ascii : ∀ byte ∈ text, byte < 0x80) :
    urlDecode (urlEncode text) = .decoded text := by
  rw [urlDecode_eq, calculateDecodedStringSize_urlEncode, if_pos ascii,
    createDecodedString_urlEncode ascii]
  rfl

/-- The decoder never writes behind its buffer, and it reads an encoded text
back exactly when that was ASCII. -/
theorem urlDecode_urlEncode_iff :
    (∀ input, urlDecode input ≠ .overrun) ∧
      ∀ text, urlDecode (urlEncode text) = .decoded text ↔
        ∀ byte ∈ text, byte < 0x80 := by
  constructor
  · intro input overrun
    rw [urlDecode_eq] at overrun
    split at overrun
    · cases overrun
    · cases overrun
  · intro text
    constructor
    · intro readBack
      by_contra beyond
      rw [urlDecode_eq, calculateDecodedStringSize_urlEncode,
        if_neg beyond] at readBack
      cases readBack
    · exact urlDecode_urlEncode

/-- Both escapes of a Latin-1 character, or one of an ASCII character. -/
def decodeLatin : Bytes → Bytes
  | 37 :: 99 :: 50 :: 37 :: big :: little :: behind =>
      charFromNibbles big little :: decodeLatin behind
  | 37 :: 99 :: 51 :: 37 :: big :: little :: behind =>
      (charFromNibbles big little + 0x40) :: decodeLatin behind
  | 37 :: big :: little :: behind =>
      charFromNibbles big little :: decodeLatin behind
  | c :: rest => c :: decodeLatin rest
  | [] => []

theorem escape_ne : ∀ charVal : UInt8, charVal < 0x80 →
    bigNibbleStr charVal ≠ 99 :=
  forall_byte (by decide +kernel)

theorem escape_latin : ∀ charVal : UInt8, ¬charVal < 0x80 →
    charFromNibbles (bigNibbleStr charVal)
        (nibbleToString (charVal &&& 0x0F)) +
      (if charVal < 0xC0 then 0 else 0x40) = charVal :=
  forall_byte (by decide +kernel)

theorem decodeLatin_urlPrintableChar (charVal : UInt8) (behind : Bytes) :
    decodeLatin (urlPrintableChar charVal ++ behind) =
      charVal :: decodeLatin behind := by
  rw [urlPrintableChar]
  cases printable : isPrintable charVal with
  | true =>
      obtain ⟨plain, -⟩ := plain_of_printable charVal printable
      simp only [if_true, List.singleton_append]
      rw [decodeLatin]
      · exact fun _ _ _ percent _ => plain percent
      · exact fun _ _ _ percent _ => plain percent
      · exact fun _ _ _ percent _ => plain percent
  | false =>
      simp only [Bool.false_eq_true, if_false]
      by_cases ascii : charVal < 0x80
      · have different := escape_ne charVal ascii
        obtain ⟨-, -, -, value⟩ := escape_ascii charVal printable ascii
        rw [if_pos ascii]
        simp only [List.cons_append, List.nil_append]
        rw [decodeLatin, value]
        · exact fun _ _ _ latin => absurd latin different
        · exact fun _ _ _ latin => absurd latin different
      · have value := escape_latin charVal ascii
        rw [if_neg ascii]
        simp only [List.cons_append, List.nil_append]
        by_cases low : charVal < 0xC0
        · rw [if_pos low, UInt8.add_zero] at value
          rw [if_pos low, decodeLatin, value]
        · rw [if_neg low] at value
          rw [if_neg low, decodeLatin, value]

theorem decodeLatin_urlEncode (text : Bytes) :
    decodeLatin (urlEncode text) = text := by
  induction text with
  | nil => rfl
  | cons charVal rest inductionHypothesis =>
      rw [urlEncode, List.flatMap_cons, decodeLatin_urlPrintableChar]
      exact congrArg _ inductionHypothesis

/-- Different texts never share an encoding. -/
theorem urlEncode_injective : Function.Injective urlEncode :=
  Function.LeftInverse.injective decodeLatin_urlEncode

/-- Encoded texts contain neither an ampersand nor an equals sign. -/
theorem plain_urlEncode (text : Bytes) :
    ∀ byte ∈ urlEncode text, byte ≠ 38 ∧ byte ≠ 61 := by
  have each : ∀ charVal : UInt8, (urlPrintableChar charVal).all
      (fun byte => byte ≠ 38 && byte ≠ 61) = true :=
    forall_byte (by decide +kernel)
  intro byte member
  obtain ⟨charVal, -, written⟩ := List.mem_flatMap.mp member
  have plain := List.all_eq_true.mp (each charVal) byte written
  simpa using plain

end FunnelDispenser.Transport
