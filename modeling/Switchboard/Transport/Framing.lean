import Switchboard.Process.Status
import Switchboard.Text.Blank
import Switchboard.Telemetry.Config
import Switchboard.Transport.Basic
import Switchboard.Trace

/-!
# Lines in a stream of bytes

A stream comes in deliveries of any size. `readLine` finds the next line without ever holding more
than `limit` bytes of it; a longer line is passed over and only counted. How the bytes are cut into
deliveries does not matter to the lines that are found.
-/

namespace Switchboard

abbrev Bytes := List UInt8

/-- What one read of a stream gives. -/
inductive Delivery where
  | chunk (bytes : Bytes)
  /-- The read was interrupted and has to be tried again. -/
  | interrupted
  | failed (reason : String)
  deriving DecidableEq, Repr

/-- What is still to come of a stream. -/
abbrev Source := List Delivery

def newline : UInt8 := 10

/-- What is found in a stream: a line without its line break, or the number of bytes of a line that
was too long, its line break counted. -/
inductive LineRead where
  | line (content : Bytes)
  | tooLong (length : Nat)
  | eof
  deriving DecidableEq, Repr

/-- A line of which not all was read. -/
structure LineScan where
  /-- The content so far, or nothing once it is too long. -/
  buffer : Bytes
  /-- The number of bytes that were read of the line. -/
  total : Nat
  overflowed : Bool
  deriving DecidableEq, Repr, Inhabited

namespace LineScan

def start : LineScan := { buffer := [], total := 0, overflowed := false }

/-- The scan after further content, for which `used` bytes were read. -/
def feed (limit : Nat) (s : LineScan) (content : Bytes) (used : Nat) : LineScan :=
  let total := s.total + used
  if s.overflowed then { s with total }
  else if s.buffer.length + content.length > limit then
    { buffer := [], total, overflowed := true }
  else { s with buffer := s.buffer ++ content, total }

/-- The line, after its line break. -/
def finish (s : LineScan) : LineRead :=
  if s.overflowed then .tooLong s.total else .line s.buffer

/-- What the end of the stream makes of the line. -/
def atEnd (s : LineScan) : LineRead := if s.total = 0 then .eof else s.finish

end LineScan

/-- How reading a line ends: with a line, with a failure of the stream, or when the source has run
dry. -/
inductive ScanResult where
  | found (read : LineRead)
  | failed (reason : String)
  | dry (scan : LineScan)
  deriving DecidableEq, Repr

/-- Reads on to the end of the current line; also gives what then is left of the source. -/
def readLine (limit : Nat) : LineScan → Source → ScanResult × Source
  | s, [] => (.dry s, [])
  | s, .interrupted :: rest => readLine limit s rest
  | _, .failed reason :: rest => (.failed reason, rest)
  | s, .chunk bytes :: rest =>
    match bytes.span (· != newline) with
    | (content, []) => readLine limit (s.feed limit content content.length) rest
    | (content, _ :: after) =>
      (.found (s.feed limit content (content.length + 1)).finish, .chunk after :: rest)

/-- The next line of a stream that ends with the source. -/
def readBoundedLine (limit : Nat) (source : Source) : Except String LineRead × Source :=
  match readLine limit .start source with
  | (.found r, rest) => (.ok r, rest)
  | (.failed reason, rest) => (.error reason, rest)
  | (.dry s, rest) => (.ok s.atEnd, rest)

/-- A bound on the number of lines in a source. -/
def Source.bound (source : Source) : Nat :=
  source.foldr (fun
    | .chunk bytes, n => bytes.length + n
    | _, n => n) 0

/-- All lines that a source completes, at most `n`, and how reading ends. -/
def readLines (limit : Nat) : (n : Nat) → LineScan → Source → List LineRead × Except String LineScan
  | 0, s, _ => ([], .ok s)
  | n + 1, s, source =>
    match readLine limit s source with
    | (.dry s, _) => ([], .ok s)
    | (.failed reason, _) => ([], .error reason)
    | (.found r, rest) =>
      let (reads, final) := readLines limit n .start rest
      (r :: reads, final)

/-! ### Lines that arrive -/

/-- The text that bytes encode. -/
def decodeText (bytes : Bytes) : Option String := String.fromUTF8? ⟨bytes.toArray⟩

/-- The bytes of a text. -/
def encodeText (text : String) : Bytes := text.toUTF8.data.toList

/-- A text without the carriage returns at its end. -/
def trimReturns (text : String) : String :=
  String.ofList ((text.toList.reverse.dropWhile (· == '\r')).reverse)

/-- What arrives of a line that was read: a blank line is passed over, and one that is no text, or
too long, is only reported. -/
def LineRead.arrival? : LineRead → Option Arrival
  | .eof => none
  | .tooLong length => some (.discarded length)
  | .line content =>
    match decodeText content with
    | none => some (.discarded content.length)
    | some text =>
      if Text.isBlankText text.toList then none else some (.line (trimReturns text))

/-- The scan after a chunk, and what arrives of the lines that it completes. -/
def LineScan.arrivals (limit : Nat) (s : LineScan) (chunk : Bytes) : List Arrival × LineScan :=
  match readLines limit (chunk.length + 1) s [.chunk chunk] with
  | (reads, .ok s) => (reads.filterMap LineRead.arrival?, s)
  | (reads, .error _) => (reads.filterMap LineRead.arrival?, .start)

/-- The reason that is given for the end of a stream. -/
def endReason : String := "generator output stream ended"

/-- A reason with the status of the process, if its end was seen. -/
def withStatus (reason : String) : Option ExitStatus → String
  | some status => reason ++ " (" ++ status.describe ++ ")"
  | none => reason

/-- What a reader passes on of the lines that it has read, and the end. It is heard only while its
process is the latest one, which is looked up for each line: `heard k` is the answer after `k`
lines. -/
def passOn (heard : Nat → Bool) (reads : List LineRead) (reason : String) : List Arrival :=
  (reads.zipIdx.flatMap fun (r, k) => if heard k then r.arrival?.toList else []) ++
    if heard reads.length then [.ended reason] else []

/-- What arrives of a whole stream, up to and with its end, from a reader that is heard as told.
After the last line the reader waits a while for its process to end, and may see how it did. -/
def arrivals (heard : Nat → Bool) (limit : Nat) (source : Source) (seen : Option ExitStatus) :
    List Arrival :=
  match readLines limit (source.bound + 1) .start source with
  | (reads, .ok s) =>
    passOn heard (reads ++ [s.atEnd].filter (· != .eof)) (withStatus endReason seen)
  | (reads, .error reason) =>
    passOn heard reads (withStatus s!"failed to read generator output: {reason}" seen)

/-! ### The error output -/

/-- What is traced of the error output of a process. -/
def errorEvent (pid : Nat) (message field text : String) : Event :=
  { level := .debug, target := stderrTarget, message
    fields := [("pid", .int pid), (field, .shown text)] }

/-- What is shown of a line of error output, unless it is blank. -/
def shownError? (text : String) : Option String :=
  if Text.isBlankText text.toList then none
  else some (String.ofList (Text.trimEnd text.toList))

def errorLineEvent (pid : Nat) (shown : String) : Event :=
  errorEvent pid "generator stderr" "line" shown

/-- What is traced when the error output is not read any further. -/
def errorStopEvent (pid : Nat) (reason : String) : Event :=
  errorEvent pid "stopped draining stderr" "error" reason

/-- The reason to stop at a line that is no text. -/
def noTextReason : String := "stream did not contain valid UTF-8"

/-- What is traced of a stream of error output, of which at most `n` lines are read, and what is
left of it when its reader lets go. A line that is no text is taken for a failure of the stream. -/
def drainErrors (pid limit : Nat) : (n : Nat) → Source → List Event × Source
  | 0, source => ([], source)
  | n + 1, source =>
    match readBoundedLine limit source with
    | (.error reason, rest) => ([errorStopEvent pid reason], rest)
    | (.ok (.line content), rest) =>
      match decodeText content with
      | none => ([errorStopEvent pid noTextReason], rest)
      | some text =>
        let (events, left) := drainErrors pid limit n rest
        ((shownError? text).toList.map (errorLineEvent pid) ++ events, left)
    | (.ok _, rest) => ([], rest)

/-- What is traced of a whole stream of error output, and what is left of it. No line is too long to
be read. -/
def Source.drain (source : Source) (pid : Nat) : List Event × Source :=
  drainErrors pid source.bound (source.bound + 1) source

/-- The reader of the error output while it is written. -/
structure ErrorReader where
  /-- What has come of a line, the last byte first. -/
  line : Bytes
  /-- When the reader let go of the output. -/
  released : Option Nat
  deriving Repr, Inhabited

namespace ErrorReader

def start : ErrorReader := { line := [], released := none }

/-- The reader after another byte. -/
def take (now : Nat) (r : ErrorReader) (byte : UInt8) : ErrorReader :=
  if byte ≠ newline then { r with line := byte :: r.line }
  else if (decodeText r.line.reverse).isSome then { r with line := [] }
  else { line := [], released := r.released.or (some now) }

def feed (now : Nat) (r : ErrorReader) (bytes : Bytes) : ErrorReader := bytes.foldl (take now) r

/-- Whether the reader let go before an instant. -/
def isGone (r : ErrorReader) (now : Nat) : Bool :=
  match r.released with
  | some t => t < now
  | none => false

end ErrorReader

end Switchboard
