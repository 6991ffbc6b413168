import FunnelDispenser.Transport.HttpResponse

/-!
# Answers as servers write them

A server gives the length of a body in advance or sends the body in chunks.
Either way the device reads the answer back, with its fields in order, unless
a segment ends between the two bytes that end a line of its head or a chunk
size.
-/

namespace FunnelDispenser.Transport

open CMemory Decimal Device Numerals Segments

def linesText (lines : List Bytes) : Bytes :=
  (lines.map writeLine).flatten

/-- Where the lines end, between their last two bytes. -/
def lineSeams : List Bytes → List Nat
  | [] => []
  | line :: rest =>
      (line.length + 1) :: (lineSeams rest).map ((writeLine line).length + ·)

/-- A line of the head: a C string that fits the buffer. -/
structure HeadLine (line : Bytes) : Prop where
  fits : FitsLine line
  nonzero : ∀ byte ∈ line, byte ≠ 0

def noteFields (lines : List Bytes) (info : ContentInfo) :
    Option ContentInfo :=
  lines.foldlM (fun noted line => noteField line noted) info

theorem receiveFields_succ (rounds : Nat) (info : ContentInfo) :
    receiveFields (rounds + 1) info =
      readLine >>= fun line =>
        if cStr line = [] then
          pure info
        else
          match noteField (cStr line) info with
          | some noted => receiveFields rounds noted
          | none => throw .readDataFailed :=
  rfl

theorem receiveFields_reads (rounds : Nat) (lines : List Bytes)
    {info final : ContentInfo} (enough : lines.length < rounds)
    (heads : ∀ line ∈ lines, HeadLine line ∧ line ≠ [])
    (noted : noteFields lines info = some final) :
    Reads maxReceiveRetry (receiveFields rounds info)
      (linesText (lines ++ [[]])) (lineSeams (lines ++ [[]])) final := by
  induction lines generalizing rounds info with
  | nil =>
      obtain ⟨others, rfl⟩ : ∃ others, rounds = others + 1 :=
        ⟨rounds - 1, by simp at enough; omega⟩
      cases noted
      have blank : FitsLine [] := ⟨by simp, by simp⟩
      rw [receiveFields_succ]
      refine (readLine_reads blank).bind_of_eq [] [] ?_ ?_ ?_
      · exact Reads.pure _ _
      · simp [linesText]
      · simp [lineSeams]
  | cons line rest inductionHypothesis =>
      obtain ⟨others, rfl⟩ : ∃ others, rounds = others + 1 :=
        ⟨rounds - 1, by simp at enough; omega⟩
      obtain ⟨head, nonempty⟩ := heads line List.mem_cons_self
      rw [noteFields, List.foldlM_cons, Option.bind_eq_bind,
        Option.bind_eq_some_iff] at noted
      obtain ⟨next, notedLine, notedRest⟩ := noted
      have readRest := inductionHypothesis others
        (by rw [List.length_cons] at enough; omega)
        (fun other member => heads other (List.mem_cons_of_mem _ member))
        notedRest
      rw [receiveFields_succ]
      refine (readLine_reads head.fits).bind_of_eq
        (linesText (rest ++ [[]])) (lineSeams (rest ++ [[]])) ?_ ?_ ?_
      · rw [cStr_eq_self head.nonzero, if_neg nonempty, notedLine]
        exact readRest
      · simp [linesText]
      · simp [lineSeams]

theorem length_le_linesText (lines : List Bytes) :
    lines.length ≤ (linesText lines).length := by
  induction lines with
  | nil => exact Nat.zero_le _
  | cons line rest inductionHypothesis =>
      simp only [linesText, List.map_cons, List.flatten_cons,
        List.length_append, writeLine, List.length_cons]
        at inductionHypothesis ⊢
      omega

theorem receiveContentInfo_reads (lines : List Bytes) {final : ContentInfo}
    (heads : ∀ line ∈ lines, HeadLine line ∧ line ≠ [])
    (noted : noteFields lines .empty = some final) :
    Reads maxReceiveRetry receiveContentInfo
      (linesText (lines ++ [[]])) (lineSeams (lines ++ [[]])) final := by
  intro feed rest pending timely unbroken
  have longer := length_le_linesText (lines ++ [[]])
  have enough : lines.length < feed.pending.length + 1 := by
    rw [pending, List.length_append]
    rw [List.length_append] at longer
    omega
  exact receiveFields_reads _ lines enough heads noted feed rest pending timely
    unbroken

def writeChunk (chunk : Bytes) : Bytes :=
  writeLine (printRadix 16 chunk.length) ++ writeLine chunk

def chunksText (chunks : List Bytes) : Bytes :=
  (chunks.map writeChunk).flatten ++ (writeLine [48] ++ writeLine [])

def chunkSeams : List Bytes → List Nat
  | [] => [2]
  | chunk :: rest =>
      ((printRadix 16 chunk.length).length + 1) ::
        (chunkSeams rest).map ((writeChunk chunk).length + ·)

/-- None of the chunks is the last one, and a buffer holds all of them. -/
structure ProperChunks (chunks : List Bytes) : Prop where
  positive : ∀ chunk ∈ chunks, 0 < chunk.length
  memory : chunks.flatten.length < 2 ^ 31

theorem parseStringToHexadecimal_printRadix (size : Nat) :
    parseStringToHexadecimal (printRadix 16 size) =
      some (BitVec.ofNat 32 size) := by
  have ends : EndsDigits 16 [] := by
    intro byte head
    cases head
  have read := leadingDigits_printRadix (by decide : 1 < 16)
    (Nat.le_refl 16) size ends
  rw [List.append_nil] at read
  simp only [parseStringToHexadecimal, List.isEmpty_iff, read.1, if_false,
    read.2]

theorem length_le_chunksText (chunks : List Bytes) :
    chunks.length < (chunksText chunks).length := by
  induction chunks with
  | nil => decide
  | cons chunk rest inductionHypothesis =>
      simp only [chunksText, writeChunk, writeLine, List.map_cons,
        List.flatten_cons, List.length_append, List.length_cons]
        at inductionHypothesis ⊢
      omega

theorem headLine_printRadix {size : Nat} (bound : size < 2 ^ 31) :
    HeadLine (printRadix 16 size) := by
  have digits : ∀ byte ∈ printRadix 16 size, byte ≠ 13 ∧ byte ≠ 0 := by
    intro byte member
    obtain ⟨digit, found⟩ :=
      mem_printRadix (by decide) (Nat.le_refl 16) member
    constructor
    · rintro rfl
      have none : digitValue 13 = none := by decide
      rw [none] at found
      cases found
    · rintro rfl
      have none : digitValue 0 = none := by decide
      rw [none] at found
      cases found
  have length : (printRadix 16 size).length ≤ 8 := by
    rw [printRadix, List.length_map,
      Nat.length_toDigits_le_iff (by decide) (by decide)]
    omega
  exact
    { fits := ⟨by omega, fun member => (digits _ member).1 rfl⟩
      nonzero := fun byte member => (digits byte member).2 }

theorem readChunkEnd_reads :
    Reads maxReceiveRetry readChunkEnd [13, 10] [] () := by
  have read := readChunk_reads [13, 10]
  refine read.bind_of_eq [] [] ?_ ?_ ?_
  · rw [if_pos rfl]
    exact Reads.pure _ _
  · simp
  · simp

/-- What one round of the loop over the chunks makes of a size. -/
def readSizedChunk (rounds : Nat) (content line : Bytes) : HttpReader Bytes :=
  match parseStringToHexadecimal (cStr line) with
  | none => throw .receiveResponseFailed
  | some chunkSize =>
      if chunkSize = 0 then
        readChunkEnd >>= fun _ => pure content
      else if noMemory (content.length + chunkSize.toNat) then
        throw .allocFailed
      else
        readChunk chunkSize.toNat >>= fun chunk =>
          readChunkEnd >>= fun _ => readChunks rounds (content ++ chunk)

theorem readChunks_succ (rounds : Nat) (content : Bytes) :
    readChunks (rounds + 1) content =
      readLine >>= readSizedChunk rounds content :=
  rfl

theorem readChunks_reads (rounds : Nat) (chunks : List Bytes)
    (content : Bytes) (enough : chunks.length < rounds)
    (positive : ∀ chunk ∈ chunks, 0 < chunk.length)
    (memory : content.length + chunks.flatten.length < 2 ^ 31) :
    Reads maxReceiveRetry (readChunks rounds content) (chunksText chunks)
      (chunkSeams chunks) (content ++ chunks.flatten) := by
  induction chunks generalizing rounds content with
  | nil =>
      obtain ⟨others, rfl⟩ : ∃ others, rounds = others + 1 :=
        ⟨rounds - 1, by simp at enough; omega⟩
      have size : FitsLine [48] := ⟨by simp, by simp⟩
      have zero : parseStringToHexadecimal (cStr [48]) = some 0 := by decide
      rw [readChunks_succ]
      refine (readLine_reads size).bind_of_eq [13, 10] [] ?_ ?_ ?_
      · rw [readSizedChunk, zero, List.flatten_nil, List.append_nil]
        simp only [if_true]
        refine readChunkEnd_reads.bind_of_eq [] [] ?_ ?_ ?_
        · exact Reads.pure _ _
        · simp
        · simp
      · simp [chunksText, writeLine]
      · simp [chunkSeams]
  | cons chunk rest inductionHypothesis =>
      obtain ⟨others, rfl⟩ : ∃ others, rounds = others + 1 :=
        ⟨rounds - 1, by simp at enough; omega⟩
      have first := positive chunk List.mem_cons_self
      rw [List.flatten_cons, List.length_append] at memory
      have head := headLine_printRadix (by omega : chunk.length < 2 ^ 31)
      have readRest := inductionHypothesis others (content ++ chunk)
        (by rw [List.length_cons] at enough; omega)
        (fun other member => positive other (List.mem_cons_of_mem _ member))
        (by rw [List.length_append]; omega)
      have value : (BitVec.ofNat 32 chunk.length).toNat = chunk.length := by
        rw [BitVec.toNat_ofNat]
        omega
      have nonzero : BitVec.ofNat 32 chunk.length ≠ 0 := by
        intro zero
        rw [zero] at value
        exact absurd first (by rw [← value]; decide)
      have room : noMemory (content.length + chunk.length) = false := by
        rw [noMemory, decide_eq_false_iff_not]
        omega
      rw [readChunks_succ]
      refine (readLine_reads head.fits).bind_of_eq
        (writeLine chunk ++ chunksText rest)
        ((chunkSeams rest).map ((writeLine chunk).length + ·)) ?_ ?_ ?_
      · rw [readSizedChunk, cStr_eq_self head.nonzero,
          parseStringToHexadecimal_printRadix]
        simp only [nonzero, if_false, value, room, Bool.false_eq_true]
        refine (readChunk_reads chunk).bind_of_eq
          ([13, 10] ++ chunksText rest)
          ((chunkSeams rest).map (2 + ·)) ?_ ?_ ?_
        · refine readChunkEnd_reads.bind_of_eq (chunksText rest)
            (chunkSeams rest) ?_ rfl (by simp)
          rw [List.flatten_cons, ← List.append_assoc]
          exact readRest
        · simp [writeLine]
        · simp [writeLine, Nat.add_assoc, Function.comp_def]
      · simp [chunksText, writeChunk]
      · simp [chunkSeams, writeChunk, Nat.add_assoc, Function.comp_def]

def isFramingName (name : Bytes) : Bool :=
  name.map toLower = bytesOf "content-length" ||
    name.map toLower = bytesOf "transfer-encoding"

def withColon (name : Bytes) : Bytes := name ++ [58]

theorem toLower_eq_colon (byte : UInt8) : toLower byte = 58 ↔ byte = 58 := by
  constructor
  · intro lower
    unfold toLower at lower
    split at lower
    · rename_i capital
      obtain ⟨least, most⟩ := capital
      have value := congrArg UInt8.toNat lower
      rw [UInt8.le_iff_toNat_le] at least most
      simp at value least most
      omega
    · exact lower
  · rintro rfl
    rfl

theorem colon_not_mem_map_toLower {name : Bytes}
    (valid : name.all nameByte = true) : (58 : UInt8) ∉ name.map toLower := by
  intro member
  obtain ⟨byte, inName, lower⟩ := List.mem_map.mp member
  obtain rfl := (toLower_eq_colon byte).mp lower
  have inside := List.all_eq_true.mp valid 58 inName
  exact absurd inside (by decide)

theorem colon_not_mem {name : Bytes} (valid : name.all nameByte = true) :
    (58 : UInt8) ∉ name := by
  intro member
  have inside := List.all_eq_true.mp valid 58 member
  exact absurd inside (by decide)

theorem splitAt_colon {name : Bytes} (noColon : (58 : UInt8) ∉ name)
    (rest : Bytes) :
    (name ++ 58 :: rest).takeWhile (fun byte => byte ≠ 58) = name ∧
      (name ++ 58 :: rest).dropWhile (fun byte => byte ≠ 58) = 58 :: rest := by
  have others : ∀ byte ∈ name, decide (byte ≠ 58) = true := by
    intro byte member
    rw [decide_eq_true_eq]
    rintro rfl
    exact noColon member
  constructor
  · rw [List.takeWhile_append_of_pos others,
      List.takeWhile_cons_of_neg (by simp), List.append_nil]
  · rw [List.dropWhile_append_of_pos others,
      List.dropWhile_cons_of_neg (by simp)]

theorem startsIgnoreCase_headerText {known name : Bytes}
    (valid : name.all nameByte = true) (noColon : (58 : UInt8) ∉ known)
    (value : Bytes) :
    startsIgnoreCase (withColon known) (headerText (name, value)) =
      decide (name.map toLower = known) := by
  have colon : toLower 58 = 58 := by decide
  have joined : (headerText (name, value)).map toLower =
      name.map toLower ++ 58 :: (32 :: value).map toLower := by
    have separator : bytesOf ": " = [58, 32] := by decide
    simp [headerText, separator, colon]
  rw [startsIgnoreCase, Bool.eq_iff_iff, decide_eq_true_eq,
    decide_eq_true_eq, List.map_take, joined]
  constructor
  · intro same
    have whole : known ++ 58 :: ((name.map toLower ++
          58 :: (32 :: value).map toLower).drop (withColon known).length) =
        name.map toLower ++ 58 :: (32 :: value).map toLower := by
      conv_rhs => rw [← List.take_append_drop (withColon known).length
        (name.map toLower ++ 58 :: (32 :: value).map toLower), same]
      simp [withColon]
    have parts := congrArg (List.takeWhile fun byte => byte ≠ 58) whole
    rw [(splitAt_colon noColon _).1,
      (splitAt_colon (colon_not_mem_map_toLower valid) _).1] at parts
    exact parts.symm
  · rintro rfl
    rw [withColon, List.length_append, List.length_singleton,
      ← List.singleton_append, ← List.append_assoc]
    apply List.take_left'
    simp

theorem addHeaderLine_headerText {name : Bytes}
    (valid : name.all nameByte = true) (value : Bytes)
    (headers : PropertyMap) :
    addHeaderLine (headerText (name, value)) headers =
      addHeaderNameValuePair name (32 :: value) headers := by
  have text : headerText (name, value) = name ++ 58 :: 32 :: value := by
    have separator : bytesOf ": " = [58, 32] := by decide
    simp [headerText, separator]
  obtain ⟨before, behind⟩ := splitAt_colon (colon_not_mem valid) (32 :: value)
  rw [text, addHeaderLine, if_pos (by simp), before, behind]
  rfl

/-- A field in the headers; the blank in front of its value is dropped
there. -/
def addField (headers : PropertyMap) (field : Bytes × Bytes) : PropertyMap :=
  addHeaderNameValuePair field.1 (32 :: field.2) headers

theorem noteFields_plain {fields : List (Bytes × Bytes)}
    (valid : ∀ field ∈ fields, field.1.all nameByte = true)
    (plain : ∀ field ∈ fields, isFramingName field.1 = false)
    (info : ContentInfo) :
    noteFields (fields.map headerText) info =
      some { info with headers := fields.foldl addField info.headers } := by
  induction fields generalizing info with
  | nil => rfl
  | cons field rest inductionHypothesis =>
      have validHere := valid field List.mem_cons_self
      have noFraming := plain field List.mem_cons_self
      rw [isFramingName, Bool.or_eq_false_iff] at noFraming
      have noLength := startsIgnoreCase_headerText validHere
        (by decide : (58 : UInt8) ∉ bytesOf "content-length") field.2
      have noCoding := startsIgnoreCase_headerText validHere
        (by decide : (58 : UInt8) ∉ bytesOf "transfer-encoding") field.2
      rw [noFraming.1] at noLength
      rw [noFraming.2] at noCoding
      have lengthName : contentLengthName =
          withColon (bytesOf "content-length") := by decide
      have codingName : transferEncodingName =
          withColon (bytesOf "transfer-encoding") := by decide
      have noted : noteField (headerText field) info =
          some { info with headers := addField info.headers field } := by
        simp only [noteField, noteFraming, lengthName, codingName, noLength,
          noCoding, Bool.false_eq_true, if_false, Option.map_some]
        rw [addHeaderLine_headerText validHere]
        rfl
      rw [List.map_cons, noteFields, List.foldlM_cons, noted]
      exact inductionHypothesis
        (fun other member => valid other (List.mem_cons_of_mem _ member))
        (fun other member => plain other (List.mem_cons_of_mem _ member)) _

/-- How a server delimits a body. -/
inductive BodyCoding where
  | sized (body : Bytes)
  | chunked (chunks : List Bytes)
deriving DecidableEq, Repr

namespace BodyCoding

def body : BodyCoding → Bytes
  | .sized body => body
  | .chunked chunks => chunks.flatten

def field : BodyCoding → Bytes × Bytes
  | .sized body => (bytesOf "Content-Length", printNat body.length)
  | .chunked _ => (bytesOf "Transfer-Encoding", chunkedName)

def text : BodyCoding → Bytes
  | .sized body => body
  | .chunked chunks => chunksText chunks

def seams : BodyCoding → List Nat
  | .sized _ => []
  | .chunked chunks => chunkSeams chunks

def FitsMemory : BodyCoding → Prop
  | .sized body => body.length < 2 ^ 31
  | .chunked chunks => ProperChunks chunks

/-- What the field of the coding tells. -/
def note (info : ContentInfo) : BodyCoding → ContentInfo
  | .sized body => { info with bodyLength := BitVec.ofNat 32 body.length }
  | .chunked _ => { info with chunked := true }

theorem noteField_field {coding : BodyCoding} (fits : coding.FitsMemory)
    (info : ContentInfo) :
    noteField (headerText coding.field) info =
      some { coding.note info with
        headers := addField info.headers coding.field } := by
  cases coding with
  | sized body =>
      have valid : (bytesOf "Content-Length").all nameByte = true := by decide
      have known := startsIgnoreCase_headerText valid
        (by decide : (58 : UInt8) ∉ bytesOf "content-length")
        (printNat body.length)
      have lower : (bytesOf "Content-Length").map toLower =
          bytesOf "content-length" := by decide
      rw [lower, decide_eq_true rfl] at known
      have lengthName : contentLengthName =
          withColon (bytesOf "content-length") := by decide
      have value : (headerText (bytesOf "Content-Length",
          printNat body.length)).drop contentLengthName.length =
            32 :: (printNat body.length ++ []) := by
        have parts : headerText (bytesOf "Content-Length",
            printNat body.length) =
              bytesOf "Content-Length:" ++ 32 :: printNat body.length := by
          have joined : bytesOf "Content-Length" ++ bytesOf ": " =
              bytesOf "Content-Length:" ++ [32] := by decide
          rw [headerText, joined, List.append_assoc]
          rfl
        rw [parts, List.append_nil]
        exact List.drop_left' (by decide)
      have stops : ∀ byte, ([] : Bytes).head? = some byte → byte = 32 := by
        intro byte head
        cases head
      have read := strtol_printNat fits stops
      rw [← value] at read
      simp only [field, noteField, noteFraming, lengthName, known, if_true]
      rw [← lengthName, parseStringToDecimal, read]
      simp only [Option.map_some]
      rw [addHeaderLine_headerText valid]
      rfl
  | chunked chunks =>
      have valid : (bytesOf "Transfer-Encoding").all nameByte = true := by
        decide
      have framing : noteFraming
          (headerText (bytesOf "Transfer-Encoding", chunkedName)) info =
            some { info with chunked := true } := by
        have noLength : startsIgnoreCase contentLengthName
            (headerText (bytesOf "Transfer-Encoding", chunkedName)) =
              false := by decide
        have coded : startsIgnoreCase transferEncodingName
            (headerText (bytesOf "Transfer-Encoding", chunkedName)) =
              true := by decide
        have value : startsIgnoreCase chunkedName
            (((headerText (bytesOf "Transfer-Encoding", chunkedName)).drop
              transferEncodingName.length).dropWhile isSpace) = true := by
          decide
        rw [noteFraming, noLength, coded, value]
        rfl
      simp only [field, noteField, framing, Option.map_some]
      rw [addHeaderLine_headerText valid]
      rfl

theorem note_headers (coding : BodyCoding) (info : ContentInfo)
    (headers : PropertyMap) :
    coding.note { info with headers := headers } =
      { coding.note info with headers := headers } := by
  cases coding <;> rfl

theorem reads {coding : BodyCoding} (fits : coding.FitsMemory)
    (headers : PropertyMap) :
    Reads maxReceiveRetry
      (readHttpResponseBody
        { coding.note .empty with headers := headers })
      coding.text coding.seams coding.body := by
  cases coding with
  | sized body =>
      have bound : body.length < 2 ^ 31 := fits
      have value : (BitVec.ofNat 32 body.length).toNat = body.length := by
        rw [BitVec.toNat_ofNat]
        omega
      have memory : noMemory (BitVec.ofNat 32 body.length).toNat = false := by
        rw [noMemory, value, decide_eq_false_iff_not]
        omega
      have read := readChunk_reads body
      rw [← value] at read
      simp only [readHttpResponseBody, note, ContentInfo.empty,
        memory, Bool.false_eq_true, if_false]
      exact read
  | chunked chunks =>
      intro feed rest pending timely unbroken
      have longer := length_le_chunksText chunks
      have enough : chunks.length < feed.pending.length + 1 := by
        rw [pending, List.length_append]
        simp only [text]
        omega
      have memory : ([] : Bytes).length + chunks.flatten.length < 2 ^ 31 := by
        rw [List.length_nil, Nat.zero_add]
        exact fits.memory
      have read := readChunks_reads _ chunks [] enough fits.positive memory
        feed rest pending timely unbroken
      simp only [readHttpResponseBody, note, if_true]
      exact read

end BodyCoding

/-- An answer with its fields in front of and behind the one that delimits
its body. -/
structure ServerAnswer where
  status : Nat
  reason : Bytes
  earlier : List (Bytes × Bytes)
  coding : BodyCoding
  later : List (Bytes × Bytes)
deriving DecidableEq, Repr

namespace ServerAnswer

variable (answer : ServerAnswer)

def fields : List (Bytes × Bytes) :=
  answer.earlier ++ answer.coding.field :: answer.later

def statusLine : Bytes :=
  bytesOf "HTTP/1.1 " ++ printNat answer.status ++ 32 :: answer.reason

def headText : Bytes :=
  linesText (answer.fields.map headerText ++ [[]])

def text : Bytes :=
  writeLine answer.statusLine ++ (answer.headText ++ answer.coding.text)

/-- The places between the two bytes that end a line or a chunk size. -/
def seams : List Nat :=
  (answer.statusLine.length + 1) ::
    (lineSeams (answer.fields.map headerText ++ [[]]) ++
      answer.coding.seams.map (answer.headText.length + ·)).map
        ((writeLine answer.statusLine).length + ·)

/-- An answer the device has room for, whose body is announced once. -/
structure Proper : Prop where
  status : answer.status < 2 ^ 31
  statusLine : HeadLine answer.statusLine
  lines : ∀ field ∈ answer.fields, HeadLine (headerText field)
  plain : PlainFields answer.fields
  once : ∀ field ∈ answer.earlier ++ answer.later,
    isFramingName field.1 = false
  memory : answer.coding.FitsMemory

variable {answer}

theorem Proper.parseHttpResponse (proper : answer.Proper) :
    Transport.parseHttpResponse (cStr answer.statusLine) =
      some (answer.status : Int) := by
  have stops : ∀ byte, (32 :: answer.reason).head? = some byte →
      byte = 32 := by
    intro byte head
    cases head
    rfl
  have read := strtol_printNat proper.status stops
  have start : answer.statusLine = bytesOf "HTTP/" ++ (bytesOf "1.1" ++
      32 :: (printNat answer.status ++ 32 :: answer.reason)) := by
    have joined : bytesOf "HTTP/1.1 " =
        bytesOf "HTTP/" ++ (bytesOf "1.1" ++ [32]) := by decide
    simp only [ServerAnswer.statusLine, joined, List.append_assoc]
    rfl
  have version : bytesOf "1.1" = [49, 46, 49] := by decide
  rw [cStr_eq_self proper.statusLine.nonzero, start,
    Transport.parseHttpResponse, if_pos (List.prefix_append _ _),
    List.drop_left' (by decide), version]
  simp only [List.cons_append, List.nil_append, List.dropWhile_cons, ne_eq,
    decide_not]
  simp only [parseStringToDecimal]
  simpa using read

theorem Proper.noteFields (proper : answer.Proper) :
    Transport.noteFields (answer.fields.map headerText) .empty =
      some { answer.coding.note .empty with headers := answer.fields } := by
  have valid := proper.plain.names
  have collected := collectHeaders_eq proper.plain
  rw [collectHeaders, List.foldl_map] at collected
  have split : answer.fields.map headerText =
      answer.earlier.map headerText ++ (headerText answer.coding.field ::
        answer.later.map headerText) := by
    simp [fields]
  have notedEarlier := noteFields_plain
    (fun field member => valid field (by simp [fields, member]))
    (fun field member => proper.once field
      (List.mem_append_left answer.later member)) ContentInfo.empty
  have notedLater := fun info => noteFields_plain
    (fun field member => valid field (by simp [fields, member]))
    (fun field member => proper.once field
      (List.mem_append_right answer.earlier member)) info
  rw [Transport.noteFields] at notedEarlier
  simp only [Transport.noteFields] at notedLater
  rw [Transport.noteFields, split, List.foldlM_append, notedEarlier,
    Option.bind_eq_bind, Option.bind_some, List.foldlM_cons,
    BodyCoding.noteField_field proper.memory, Option.bind_eq_bind,
    Option.bind_some, notedLater, BodyCoding.note_headers]
  congr 2
  rw [fields, List.foldl_append] at collected
  exact collected

/-- The reader of an answer, put together from those of its parts. -/
theorem Proper.reads (proper : answer.Proper) :
    Reads maxReceiveRetry readResponse answer.text answer.seams
      ⟨BitVec.ofNat 32 answer.status, answer.fields, answer.coding.body⟩ := by
  have head := receiveContentInfo_reads (answer.fields.map headerText)
    (by
      intro line member
      obtain ⟨field, listed, rfl⟩ := List.mem_map.mp member
      refine ⟨proper.lines field listed, ?_⟩
      simp [headerText, bytesOf])
    proper.noteFields
  have body := BodyCoding.reads proper.memory answer.fields
  refine (readLine_reads proper.statusLine.fits).bind_of_eq _ _ ?_ rfl
    (by rw [seams]; rfl)
  rw [proper.parseHttpResponse]
  refine head.bind_of_eq _ _ ?_ rfl rfl
  refine body.bind_of_eq [] [] ?_ (by simp) (by simp)
  have status : BitVec.ofInt 32 (answer.status : Int) =
      BitVec.ofNat 32 answer.status := BitVec.ofInt_natCast ..
  rw [status]
  exact Reads.pure _ _

end ServerAnswer

end FunnelDispenser.Transport
