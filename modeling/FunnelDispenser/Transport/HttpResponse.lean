import FunnelDispenser.Device.Hub
import FunnelDispenser.Library.Numerals
import FunnelDispenser.Transport.HttpHeaders
import FunnelDispenser.Transport.HttpStream

/-!
# The answer to a request

`HTTPAPI_ExecuteRequest` reads an answer line by line: the status, the fields
with the length or the coding of the body, and the body itself.  An answer
written in either coding is read back, wherever its segments end, as long as
no segment ends inside the end of a line.
-/

namespace FunnelDispenser.Transport

open CMemory Decimal Device Numerals Segments

/-- `ParseStringToDecimal`; `int` and `long` have the same range. -/
def parseStringToDecimal (text : Bytes) : Option Int :=
  strtol text

/-- `ParseStringToHexadecimal` into a `size_t`. -/
def parseStringToHexadecimal (text : Bytes) : Option (BitVec 32) :=
  let values := leadingDigits 16 text
  if values.isEmpty then
    none
  else
    some (BitVec.ofNat 32 (ofLeadingDigits 16 values))

def parseHttpResponse (line : Bytes) : Option Int :=
  if bytesOf "HTTP/" <+: line then
    let version := (line.drop 5).dropWhile fun byte => byte ≠ 46
    let status := version.dropWhile fun byte => byte ≠ 32
    if status = [] then none else parseStringToDecimal status
  else
    none

/-- `InternStrnicmp(line, name, strlen(name)) == 0` for a name in lower
case. -/
def startsIgnoreCase (name line : Bytes) : Bool :=
  (line.take name.length).map toLower = name

def contentLengthName : Bytes := bytesOf "content-length:"
def transferEncodingName : Bytes := bytesOf "transfer-encoding:"
def chunkedName : Bytes := bytesOf "chunked"

/-- What the fields tell. -/
structure ContentInfo where
  bodyLength : BitVec 32
  chunked : Bool
  headers : PropertyMap
deriving DecidableEq, Repr

def ContentInfo.empty : ContentInfo := ⟨0, false, []⟩

/-- The length or the coding of the body; `none` is a length that cannot be
read. -/
def noteFraming (line : Bytes) (info : ContentInfo) : Option ContentInfo :=
  if startsIgnoreCase contentLengthName line then
    (parseStringToDecimal (line.drop contentLengthName.length)).map
      fun length => { info with bodyLength := BitVec.ofInt 32 length }
  else if startsIgnoreCase transferEncodingName line then
    if startsIgnoreCase chunkedName
        ((line.drop transferEncodingName.length).dropWhile isSpace) then
      some { info with chunked := true }
    else
      some info
  else
    some info

/-- A line with a colon goes into the headers. -/
def addHeaderLine (line : Bytes) (headers : PropertyMap) : PropertyMap :=
  if (58 : UInt8) ∈ line then
    addHeaderNameValuePair (line.takeWhile fun byte => byte ≠ 58)
      ((line.dropWhile fun byte => byte ≠ 58).drop 1) headers
  else
    headers

def noteField (line : Bytes) (info : ContentInfo) : Option ContentInfo :=
  (noteFraming line info).map fun noted =>
    { noted with headers := addHeaderLine line noted.headers }

def receiveFields : (rounds : Nat) → ContentInfo → HttpReader ContentInfo
  | 0, _ => ExceptT.mk fun _ => none
  | rounds + 1, info => do
      let line ← readLine
      if cStr line = [] then
        pure info
      else
        match noteField (cStr line) info with
        | some noted => receiveFields rounds noted
        | none => throw .readDataFailed

/-- `ReceiveContentInfoFromXIO`; every round takes a byte at least. -/
def receiveContentInfo : HttpReader ContentInfo :=
  ExceptT.mk fun feed =>
    (receiveFields (feed.pending.length + 1) .empty).run.run feed

/-- Blocks from this size on find no memory. -/
def noMemory (size : Nat) : Bool :=
  2 ^ 31 ≤ size

def readChunkEnd : HttpReader Unit := do
  let tail ← readChunk 2
  if tail = [13, 10] then pure () else throw .readDataFailed

/-- The loop over the chunks, at most `rounds` times round.  The buffer grows
by each of them. -/
def readChunks : (rounds : Nat) → (content : Bytes) → HttpReader Bytes
  | 0, _ => ExceptT.mk fun _ => none
  | rounds + 1, content => do
      let line ← readLine
      match parseStringToHexadecimal (cStr line) with
      | none => throw .receiveResponseFailed
      | some chunkSize =>
          if chunkSize = 0 then
            readChunkEnd
            pure content
          else if noMemory (content.length + chunkSize.toNat) then
            throw .allocFailed
          else
            let chunk ← readChunk chunkSize.toNat
            readChunkEnd
            readChunks rounds (content ++ chunk)

/-- `ReadHTTPResponseBodyFromXIO` with a buffer for the content. -/
def readHttpResponseBody (info : ContentInfo) : HttpReader Bytes :=
  if info.chunked then
    ExceptT.mk fun feed =>
      (readChunks (feed.pending.length + 1) []).run.run feed
  else if noMemory info.bodyLength.toNat then
    throw .allocFailed
  else
    readChunk info.bodyLength.toNat

structure HttpResponse where
  statusCode : BitVec 32
  headers : PropertyMap
  content : Bytes
deriving DecidableEq, Repr

/-- The status line, the fields and the body. -/
def readResponse : HttpReader HttpResponse := do
  let line ← readLine
  match parseHttpResponse (cStr line) with
  | none => throw .receiveResponseFailed
  | some status =>
      let info ← receiveContentInfo
      let content ← readHttpResponseBody info
      pure ⟨BitVec.ofInt 32 status, info.headers, content⟩

end FunnelDispenser.Transport
