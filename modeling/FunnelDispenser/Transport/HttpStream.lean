import FunnelDispenser.Library.CMemory
import FunnelDispenser.Library.Segments

/-!
# Lines and blocks of an HTTP answer

The bytes of an answer reach the HTTP layer in the segments `xio_dowork`
delivers.  A line ends with its carriage return; the line feed behind it is
skipped only when it is there already, so a segment must not end between the
two.
-/

namespace FunnelDispenser.Transport

open CMemory Segments

/-- The failures of `HTTPAPI_ExecuteRequest` while it reads the answer. -/
inductive HttpApiError where
  | readDataFailed
  | receiveResponseFailed
  | allocFailed
deriving DecidableEq, Repr

abbrev HttpReader := FeedReader UInt8 HttpApiError

def tempBufferSize : Nat := 1024

def maxReceiveRetry : Nat := 200

/-- What the scan of the received bytes leads to. -/
inductive LineScan where
  | more (line : Bytes)
  | ended (line rest : Bytes)
  | tooLong
deriving DecidableEq, Repr

/-- A line feed directly behind the carriage return is skipped. -/
def skipLineFeed : Bytes → Bytes
  | 10 :: behind => behind
  | rest => rest

/-- The inner loop of `readLine`, with the bytes of the line so far. -/
def scanLine (line : Bytes) : Bytes → LineScan
  | [] => .more line
  | byte :: rest =>
      if byte ≠ 13 then
        if tempBufferSize - 1 ≤ line.length + 1 then
          .tooLong
        else
          scanLine (line ++ [byte]) rest
      else
        .ended line (skipLineFeed rest)

/-- The outer loop of `readLine`, at most `rounds` times round; `none` is a
line that is too long or takes too long. -/
def readLineRounds : (rounds : Nat) → (line : Bytes) → Feed UInt8 →
    Option Bytes × Feed UInt8
  | 0, _, feed => (none, feed)
  | rounds + 1, line, feed =>
      match scanLine line feed.receive.received with
      | .more longer =>
          readLineRounds rounds longer ⟨[], feed.receive.arriving⟩
      | .ended whole rest => (some whole, ⟨rest, feed.receive.arriving⟩)
      | .tooLong => (none, ⟨[], feed.receive.arriving⟩)

/-- What the callers of `readLine` make of its result. -/
def lineOrFailure : Option Bytes → Except HttpApiError Bytes
  | some line => .ok line
  | none => .error .readDataFailed

def readLine : HttpReader Bytes :=
  ExceptT.mk fun feed =>
    let ended := readLineRounds (maxReceiveRetry + 1) [] feed
    some (lineOrFailure ended.1, ended.2)

def writeLine (text : Bytes) : Bytes :=
  text ++ [13, 10]

/-- A text that fits the buffer and stays on its line. -/
structure FitsLine (text : Bytes) : Prop where
  length_le : text.length ≤ 1022
  noReturn : (13 : UInt8) ∉ text

theorem scanLine_more {line text : Bytes} (fits : FitsLine (line ++ text)) :
    scanLine line text = .more (line ++ text) := by
  induction text generalizing line with
  | nil => rw [scanLine, List.append_nil]
  | cons byte rest inductionHypothesis =>
      have short := fits.length_le
      rw [List.length_append, List.length_cons] at short
      have inside : byte ≠ 13 := by
        rintro rfl
        exact fits.noReturn (by simp)
      have small : ¬tempBufferSize - 1 ≤ line.length + 1 := by
        simp only [tempBufferSize]
        omega
      have joined : line ++ byte :: rest = line ++ [byte] ++ rest := by simp
      rw [scanLine, if_pos inside, if_neg small, joined,
        inductionHypothesis (joined ▸ fits)]

theorem scanLine_ended {line text rest : Bytes}
    (fits : FitsLine (line ++ text)) :
    scanLine line (text ++ 13 :: 10 :: rest) = .ended (line ++ text) rest := by
  induction text generalizing line with
  | nil => simp [scanLine, skipLineFeed]
  | cons byte others inductionHypothesis =>
      have short := fits.length_le
      rw [List.length_append, List.length_cons] at short
      have inside : byte ≠ 13 := by
        rintro rfl
        exact fits.noReturn (by simp)
      have small : ¬tempBufferSize - 1 ≤ line.length + 1 := by
        simp only [tempBufferSize]
        omega
      have joined : line ++ byte :: others = line ++ [byte] ++ others := by
        simp
      rw [List.cons_append, scanLine, if_pos inside, if_neg small, joined,
        inductionHypothesis (joined ▸ fits)]

theorem FitsLine.of_append {text rest : Bytes}
    (fits : FitsLine (text ++ rest)) : FitsLine text where
  length_le := by
    have short := fits.length_le
    rw [List.length_append] at short
    omega
  noReturn := fun member =>
    fits.noReturn (List.mem_append_left _ member)

/-- The line is completed by the segment that brings its carriage return, if
that brings the line feed too.  The induction is on the rounds, of which there
are more than segments. -/
theorem readLineRounds_reads (rounds : Nat) (line text : Bytes)
    (feed : Feed UInt8) {rest : Bytes} (fits : FitsLine (line ++ text))
    (pending : feed.pending = writeLine text ++ rest)
    (timely : feed.arriving.length < rounds)
    (unbroken : ¬feed.Pauses (text.length + 1)) :
    ∃ later, readLineRounds rounds line feed = (some (line ++ text), later) ∧
      feed.Consumes (writeLine text) later := by
  induction rounds generalizing line text feed with
  | zero => exact absurd timely (Nat.not_lt_zero _)
  | succ rounds inductionHypothesis =>
      have waited := feed.consumes_receive
      have fewer := feed.length_receive_arriving
      have there := waited.pending
      rw [pending, List.nil_append, Feed.pending] at there
      have whole : feed.receive.received.length ≠ text.length + 1 := by
        intro paused
        have pauses : feed.receive.Pauses (text.length + 1) :=
          ⟨0, by simpa [Feed.arrived] using paused⟩
        have before := waited.pauses pauses
        rw [List.length_nil, Nat.zero_add] at before
        exact unbroken before
      rw [readLineRounds]
      by_cases inside : feed.receive.received.length ≤ text.length
      · -- The segment ends within the line.
        obtain ⟨others, rfl⟩ : feed.receive.received <+: text :=
          List.prefix_of_prefix_length_le ⟨_, there.symm⟩
            (by simp [writeLine, List.append_assoc]) inside
        have shorter : feed.receive.arriving.flatten =
            writeLine others ++ rest := by
          rw [writeLine, List.append_assoc, List.append_assoc] at there
          rw [writeLine, List.append_assoc]
          exact (List.append_cancel_left there).symm
        have further : feed.receive.arriving ≠ [] := by
          intro none
          rw [none] at shorter
          simp [writeLine] at shorter
        have left := List.length_pos_iff.mpr further
        have consumes : feed.Consumes feed.receive.received
            ⟨[], feed.receive.arriving⟩ := by
          have taken := Feed.consumes_received [] feed.receive.arriving
            feed.receive.received
          rw [List.append_nil] at taken
          exact waited.trans taken
        obtain ⟨later, ended, consumesLine⟩ := inductionHypothesis
          (line ++ feed.receive.received) others ⟨[], feed.receive.arriving⟩
          (by rw [List.append_assoc]; exact fits)
          (by rw [Feed.pending, List.nil_append, shorter])
          (by simp only; omega)
          (fun pauses => unbroken (by
            have before := consumes.pauses pauses
            rw [← Nat.add_assoc, ← List.length_append] at before
            exact before))
        rw [← List.append_assoc] at fits
        rw [scanLine_more fits.of_append]
        refine ⟨later, ?_, ?_⟩
        · rw [← List.append_assoc]
          exact ended
        · rw [writeLine, List.append_assoc]
          exact consumes.trans consumesLine
      · -- The segment brings the end of the line.
        obtain ⟨behind, joined⟩ : writeLine text <+: feed.receive.received :=
          List.prefix_of_prefix_length_le (List.prefix_append _ _)
            ⟨_, there.symm⟩ (by simp [writeLine]; omega)
        have scanned : scanLine line feed.receive.received =
            .ended (line ++ text) behind := by
          rw [← joined, writeLine, List.append_assoc]
          exact scanLine_ended fits
        rw [scanned]
        refine ⟨⟨behind, feed.receive.arriving⟩, rfl, ?_⟩
        have taken := Feed.consumes_received behind feed.receive.arriving
          (writeLine text)
        rw [joined] at taken
        exact waited.trans taken

/-- A line that no segment cuts at its end is read in one piece. -/
theorem readLine_reads {text : Bytes} (fits : FitsLine text) :
    Reads maxReceiveRetry readLine (writeLine text) [text.length + 1]
      text := by
  intro feed rest pending timely unbroken
  obtain ⟨later, ended, consumes⟩ := readLineRounds_reads
    (maxReceiveRetry + 1) [] text feed fits pending
    (Nat.lt_succ_of_le timely) (unbroken _ List.mem_cons_self)
  refine ⟨later, ?_, consumes⟩
  change some (lineOrFailure (readLineRounds _ [] feed).1,
    (readLineRounds _ [] feed).2) = _
  rw [ended]
  rfl

/-- `conn_receive` for a positive number of bytes; it waits without a limit. -/
def connReceive (count : Nat) : HttpReader Bytes :=
  ExceptT.mk fun feed =>
    (takeArriving count feed.receive.received feed.receive.arriving).map
      fun taken => (.ok taken.1, taken.2)

theorem connReceive_run (count : Nat) (feed : Feed UInt8) :
    (connReceive count).run.run feed =
      (takeArriving count feed.receive.received feed.receive.arriving).map
        fun taken => (.ok taken.1, taken.2) :=
  rfl

def readChunk (size : Nat) : HttpReader Bytes :=
  if size = 0 then pure [] else connReceive size

/-- Blocks have no seams. -/
theorem readChunk_reads (block : Bytes) :
    Reads maxReceiveRetry (readChunk block.length) block [] block := by
  by_cases empty : block = []
  · subst empty
    exact Reads.pure _ _
  · intro feed rest pending _ _
    have waited := feed.consumes_receive
    have there := waited.pending
    rw [pending, List.nil_append] at there
    obtain ⟨later, taken, consumes⟩ := takeArriving_consumes there.symm
    refine ⟨later, ?_, waited.trans consumes⟩
    have positive : block.length ≠ 0 := mt List.length_eq_zero_iff.mp empty
    rw [readChunk, if_neg positive, connReceive_run, taken]
    rfl

end FunnelDispenser.Transport
