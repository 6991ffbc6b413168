import FunnelDispenser.Json.Writer

/-!
# The JSON parser

The reader runs over the bytes from its pointer to the end of memory: first
the file, then whatever the heap holds behind it, since the buffer has no
terminator.  `current` past the end of memory reads as NUL.

`parseObject(char *)` parses in place.  Its writer copies every string to the
front of the same buffer and never overtakes the reader, so the strings are
kept by value here and the unread input is left alone.

Loops and nested values share one fuel argument; `Parsed.exhausted` is the
only outcome that the program does not have.
-/

namespace FunnelDispenser.Json

open CMemory

/-- The result of a parsing function: a value with the rest of the input and
the pool, the invalid result, or no result within the fuel. -/
inductive Parsed (Value : Type) where
  | done (value : Value) (rest : Bytes) (buffer : StaticJsonBuffer)
  | invalid
  | exhausted
deriving DecidableEq, Repr

def isSpace (byte : UInt8) : Bool :=
  byte = 32 || byte = 9 || byte = 13 || byte = 10

/-- Where `skipSpacesAndComments` stands. -/
inductive SkipMode where
  | blank
  | block
  | line
deriving DecidableEq, Repr

/-- `skipSpacesAndComments`.  Inside a comment a NUL ends the skipping. -/
def skipFrom : SkipMode → Bytes → Bytes
  | .blank, [] => []
  | .blank, byte :: rest =>
      if isSpace byte then
        skipFrom .blank rest
      else if byte = slashByte then
        match rest with
        | [] => [byte]
        | next :: inner =>
            if next = 42 then
              skipFrom .block inner
            else if next = slashByte then
              skipFrom .line inner
            else
              byte :: next :: inner
      else
        byte :: rest
  | .block, [] => []
  | .block, byte :: rest =>
      if byte = 0 then
        byte :: rest
      else if byte = 42 then
        match rest with
        | [] => []
        | next :: inner =>
            if next = slashByte then
              skipFrom .blank inner
            else
              skipFrom .block (next :: inner)
      else
        skipFrom .block rest
  | .line, [] => []
  | .line, byte :: rest =>
      if byte = 0 then
        byte :: rest
      else if byte = 10 then
        skipFrom .blank rest
      else
        skipFrom .line rest

def skipSpacesAndComments (input : Bytes) : Bytes :=
  skipFrom .blank input

/-- Consume one expected byte behind spaces and comments. -/
def eat (expected : UInt8) (input : Bytes) : Bool × Bytes :=
  match skipSpacesAndComments input with
  | [] => (false, [])
  | byte :: rest =>
      if byte = expected then (true, rest) else (false, byte :: rest)

def isQuote (byte : UInt8) : Bool :=
  byte = apostropheByte || byte = quoteByte

def canBeInNonQuotedString (byte : UInt8) : Bool :=
  (48 ≤ byte && byte ≤ 57) || (95 ≤ byte && byte ≤ 122) ||
    (65 ≤ byte && byte ≤ 90) || byte = 43 || byte = 45 || byte = 46

/-- The quoted branch of `parseString`, behind the opening quote. -/
def readQuoted (stop : UInt8) : Bytes → Bytes × Bytes
  | [] => ([], [])
  | byte :: rest =>
      if byte = 0 then
        ([], byte :: rest)
      else if byte = stop then
        ([], rest)
      else if byte = backslashByte then
        match rest with
        | [] => ([], [])
        | letter :: inner =>
            if unescapeChar letter = 0 then
              ([], letter :: inner)
            else
              let (text, final) := readQuoted stop inner
              (unescapeChar letter :: text, final)
      else
        let (text, final) := readQuoted stop rest
        (byte :: text, final)

def readUnquoted : Bytes → Bytes × Bytes
  | [] => ([], [])
  | byte :: rest =>
      if canBeInNonQuotedString byte then
        let (text, final) := readUnquoted rest
        (byte :: text, final)
      else
        ([], byte :: rest)

def parseString (input : Bytes) : Bytes × Bytes :=
  match skipSpacesAndComments input with
  | [] => ([], [])
  | byte :: rest =>
      if isQuote byte then
        readQuoted byte rest
      else
        readUnquoted (byte :: rest)

/-- `parseStringTo`: whether the token was quoted decides its type. -/
def parseStringTo (input : Bytes) : JsonVariant × Bytes :=
  let hasQuotes :=
    match input with
    | [] => false
    | byte :: _ => isQuote byte
  let (text, rest) := parseString input
  (if hasQuotes then .string text else .unparsed text, rest)

mutual

def parseAnythingTo (fuel nestingLimit : Nat) (buffer : StaticJsonBuffer)
    (input : Bytes) : Parsed JsonVariant :=
  match fuel with
  | 0 => .exhausted
  | fuel + 1 =>
      match skipSpacesAndComments input with
      | [] => .done (parseStringTo []).1 (parseStringTo []).2 buffer
      | byte :: rest =>
          if byte = openBracketByte then
            match parseArray fuel nestingLimit buffer (byte :: rest) with
            | .done true final next => .done .array final next
            | .done false _ _ => .invalid
            | .invalid => .invalid
            | .exhausted => .exhausted
          else if byte = openBraceByte then
            match parseObject fuel nestingLimit buffer (byte :: rest) with
            | .done object final next =>
                if object.success then .done .object final next
                else .invalid
            | .invalid => .invalid
            | .exhausted => .exhausted
          else
            let (variant, final) := parseStringTo (byte :: rest)
            .done variant final buffer
termination_by structural fuel

/-- `parseArray`; the value is whether the array is attached to the pool. -/
def parseArray (fuel nestingLimit : Nat) (buffer : StaticJsonBuffer)
    (input : Bytes) : Parsed Bool :=
  match fuel with
  | 0 => .exhausted
  | fuel + 1 =>
      match nestingLimit with
      | 0 => .invalid
      | nestingLimit + 1 =>
          let (next, attached) := buffer.alloc headerSize
          match eat openBracketByte input with
          | (false, _) => .invalid
          | (true, opened) =>
              match eat closeBracketByte opened with
              | (true, final) => .done attached final next
              | (false, first) =>
                  parseElements fuel nestingLimit next attached first
termination_by structural fuel

def parseElements (fuel nestingLimit : Nat) (buffer : StaticJsonBuffer)
    (attached : Bool) (input : Bytes) : Parsed Bool :=
  match fuel with
  | 0 => .exhausted
  | fuel + 1 =>
      match parseAnythingTo fuel nestingLimit buffer input with
      | .invalid => .invalid
      | .exhausted => .exhausted
      | .done _ afterValue afterBuffer =>
          if attached then
            match afterBuffer.alloc arrayNodeSize with
            | (_, false) => .invalid
            | (next, true) =>
                match eat closeBracketByte afterValue with
                | (true, final) => .done attached final next
                | (false, unclosed) =>
                    match eat commaByte unclosed with
                    | (false, _) => .invalid
                    | (true, following) =>
                        parseElements fuel nestingLimit next attached
                          following
          else
            .invalid
termination_by structural fuel

def parseObject (fuel nestingLimit : Nat) (buffer : StaticJsonBuffer)
    (input : Bytes) : Parsed JsonObject :=
  match fuel with
  | 0 => .exhausted
  | fuel + 1 =>
      match nestingLimit with
      | 0 => .invalid
      | nestingLimit + 1 =>
          let (next, object) := createObject buffer
          match eat openBraceByte input with
          | (false, _) => .invalid
          | (true, opened) =>
              match eat closeBraceByte opened with
              | (true, final) => .done object final next
              | (false, first) =>
                  parseMembers fuel nestingLimit next object first
termination_by structural fuel

def parseMembers (fuel nestingLimit : Nat) (buffer : StaticJsonBuffer)
    (object : JsonObject) (input : Bytes) : Parsed JsonObject :=
  match fuel with
  | 0 => .exhausted
  | fuel + 1 =>
      let (key, afterKey) := parseString input
      match eat colonByte afterKey with
      | (false, _) => .invalid
      | (true, valueInput) =>
          match parseAnythingTo fuel nestingLimit buffer valueInput with
          | .invalid => .invalid
          | .exhausted => .exhausted
          | .done variant afterValue afterBuffer =>
              match setMember afterBuffer object key (.value variant) with
              | (_, _, false) => .invalid
              | (next, grown, true) =>
                  match eat closeBraceByte afterValue with
                  | (true, final) => .done grown final next
                  | (false, unclosed) =>
                      match eat commaByte unclosed with
                      | (false, _) => .invalid
                      | (true, following) =>
                          parseMembers fuel nestingLimit next grown
                            following
termination_by structural fuel

end

/-- `ARDUINOJSON_DEFAULT_NESTING_LIMIT` of an embedded build. -/
def defaultNestingLimit : Nat := 10

/-- Every loop iteration and every nested value consumes input, so this much
fuel is never used up. -/
def parseFuel (input : Bytes) : Nat :=
  3 * input.length + 3

/-- `jsonBuffer.parseObject(json)` with a fresh pool. -/
def parseDocument (capacity : Nat) (input : Bytes) : Parsed JsonObject :=
  parseObject (parseFuel input) defaultNestingLimit
    (StaticJsonBuffer.empty capacity) input

end FunnelDispenser.Json
