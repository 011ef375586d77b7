import Mathlib.Logic.Relation
import Switchboard.Proofs.Transport.Framing

/-!
# Reading one line

A line is read in a loop, of which each turn takes one delivery, until there is a newline, a failure
or the end of the stream (`LineReader.turn`). At the head of each turn the scan is that of the bytes
that were read of the line (`Within`): it has counted all of them, and keeps them as long as they are
no more than the limit. So the buffer never grows beyond the limit, and what a call returns, what it
leaves in the buffer and where it leaves the stream follow from the line alone (`Ends`,
`line_is_read_within_limit`).
-/

namespace Switchboard

/-! ### Sources that fail -/

def Delivery.isSound : Delivery → Bool
  | .failed _ => false
  | .chunk _ | .interrupted => true

namespace Source

/-- What a source delivers before a read fails. -/
def sound (source : Source) : Source := source.takeWhile Delivery.isSound

/-- A source from the first read on that fails. -/
def beyond (source : Source) : Source := source.dropWhile Delivery.isSound

def failure? (source : Source) : Option String :=
  match source.beyond with
  | .failed reason :: _ => some reason
  | _ => none

theorem beyond_cases (source : Source) :
    (source.beyond = [] ∧ source.failure? = none) ∨
      ∃ reason after, source.beyond = .failed reason :: after ∧ source.failure? = some reason := by
  unfold failure?
  cases h : source.beyond with
  | nil => exact .inl ⟨rfl, rfl⟩
  | cons d after =>
    have failing : d.isSound = false := head?_dropWhile Delivery.isSound source d (by
      rw [← beyond, h]
      rfl)
    cases d with
    | failed reason => exact .inr ⟨reason, after, rfl, rfl⟩
    | chunk | interrupted => cases failing

theorem bytes_sound_append_beyond (source : Source) :
    source.sound.bytes ++ source.beyond.bytes = source.bytes := by
  rw [bytes, bytes, ← List.flatMap_append, sound, beyond, List.takeWhile_append_dropWhile, ← bytes]

end Source

/-! ### The loop -/

/-- A reader between two turns of its loop: what it has of a line, in the buffer that it was handed,
and what is still to come of its source. An empty chunk there is a delivery that was used up. -/
structure LineReader where
  scan : LineScan
  source : Source
  deriving DecidableEq, Repr

namespace LineReader

inductive Turn where
  | goesOn (next : LineReader)
  | returns (result : Except String LineRead) (left : LineReader)

/-- One turn: the next delivery is taken, or as much of it as belongs to the line. -/
def turn (limit : Nat) (r : LineReader) : Turn :=
  match r.source with
  | [] => .returns (.ok r.scan.atEnd) r
  | .interrupted :: rest => .goesOn { r with source := rest }
  | .failed reason :: rest => .returns (.error reason) { r with source := rest }
  | .chunk bytes :: rest =>
    match bytes.span (· != newline) with
    | (content, []) =>
      .goesOn { scan := r.scan.feed limit content content.length, source := rest }
    | (content, _ :: after) =>
      let scan := r.scan.feed limit content (content.length + 1)
      .returns (.ok scan.finish) { scan, source := .chunk after :: rest }

/-- A call begins by clearing the buffer, whatever is in it. -/
def cleared (r : LineReader) : LineReader := { r with scan := .start }

/-- The loop comes from the head of one turn to the head of another. -/
abbrev Reaches (limit : Nat) : LineReader → LineReader → Prop :=
  Relation.ReflTransGen fun r next => r.turn limit = .goesOn next

/-- A call returns a result, and leaves the reader as told. -/
def Returns (limit : Nat) (r : LineReader) (result : Except String LineRead) (left : LineReader) :
    Prop :=
  ∃ last, Reaches limit r.cleared last ∧ last.turn limit = .returns result left

variable {limit : Nat} {source : Source} {content : Bytes} {r next left : LineReader}
  {result : Except String LineRead}

/-- All that a turn can do. -/
inductive Turns (limit : Nat) : LineReader → Turn → Prop where
  | interrupted (scan : LineScan) (rest : Source) :
      Turns limit { scan, source := .interrupted :: rest } (.goesOn { scan, source := rest })
  | content (scan : LineScan) {bytes : Bytes} (open_ : newline ∉ bytes) (rest : Source) :
      Turns limit { scan, source := .chunk bytes :: rest }
        (.goesOn { scan := scan.feed limit bytes bytes.length, source := rest })
  | line (scan : LineScan) {line : Bytes} (open_ : newline ∉ line) (after : Bytes) (rest : Source) :
      Turns limit { scan, source := .chunk (line ++ newline :: after) :: rest }
        (.returns (.ok (scan.feed limit line (line.length + 1)).finish)
          { scan := scan.feed limit line (line.length + 1), source := .chunk after :: rest })
  | failed (scan : LineScan) (reason : String) (rest : Source) :
      Turns limit { scan, source := .failed reason :: rest }
        (.returns (.error reason) { scan, source := rest })
  | dry (scan : LineScan) :
      Turns limit { scan, source := [] } (.returns (.ok scan.atEnd) { scan, source := [] })

theorem turns_turn (limit : Nat) (r : LineReader) : Turns limit r (r.turn limit) := by
  obtain ⟨scan, deliveries⟩ := r
  cases deliveries with
  | nil => exact .dry scan
  | cons d rest =>
    cases d with
    | interrupted => exact .interrupted scan rest
    | failed reason => exact .failed scan reason rest
    | chunk bytes =>
      by_cases ends : newline ∈ bytes
      · obtain ⟨line, after, rfl, open_⟩ := List.eq_append_cons_of_mem ends
        simp only [turn, span_line open_]
        exact .line scan open_ after rest
      · simp only [turn, span_of_not_mem ends]
        exact .content scan ends rest

theorem exists_last (limit : Nat) (r : LineReader) :
    ∃ last result left, Reaches limit r last ∧ last.turn limit = .returns result left := by
  obtain ⟨scan, source⟩ := r
  induction source generalizing scan with
  | nil => exact ⟨_, _, _, .refl, rfl⟩
  | cons d rest ih =>
    have turns := turns_turn limit { scan, source := d :: rest }
    cases ht : turn limit { scan, source := d :: rest } with
    | returns result left => exact ⟨_, _, _, .refl, ht⟩
    | goesOn next =>
      obtain ⟨nextScan, rfl⟩ : ∃ scan, next = { scan, source := rest } := by
        rw [ht] at turns
        cases turns with
        | interrupted | content => exact ⟨_, rfl⟩
      obtain ⟨last, result, left, reaches, returns⟩ := ih nextScan
      exact ⟨last, result, left, .head ht reaches, returns⟩

theorem exists_returns (limit : Nat) (r : LineReader) :
    ∃ result left, Returns limit r result left := by
  obtain ⟨last, result, left, reaches, returns⟩ := exists_last limit r.cleared
  exact ⟨result, left, last, reaches, returns⟩

/-! ### The loop invariant -/

/-- A reader is within a line of a source, of which it has read some bytes. -/
structure Within (limit : Nat) (source : Source) (content : Bytes) (r : LineReader) : Prop where
  scan : r.scan = .after limit content
  open_ : newline ∉ content
  sound : source.sound.bytes = content ++ r.source.sound.bytes
  beyond : r.source.beyond = source.beyond

theorem within_cleared (limit : Nat) (r : LineReader) : Within limit r.source [] r.cleared where
  scan := (LineScan.after_nil limit).symm
  open_ := List.not_mem_nil
  sound := rfl
  beyond := rfl

/-- The buffer keeps the content of a line that fits, and nothing of one that does not. -/
theorem buffer_after (limit : Nat) (content : Bytes) :
    (LineScan.after limit content).buffer = if limit < content.length then [] else content := by
  unfold LineScan.after
  split <;> rfl

theorem length_buffer_after_le (limit : Nat) (content : Bytes) :
    (LineScan.after limit content).buffer.length ≤ limit := by
  rw [buffer_after]
  split
  · exact Nat.zero_le limit
  · next fits => exact Nat.not_lt.mp fits

theorem buffer_feed_after (limit : Nat) (content more : Bytes) (used : Nat) :
    ((LineScan.after limit content).feed limit more used).buffer =
      (LineScan.after limit (content ++ more)).buffer := by
  -- The newline is counted, and leaves the buffer alone.
  have counted (scan : LineScan) :
      (scan.feed limit more used).buffer = (scan.feed limit more more.length).buffer := by
    unfold LineScan.feed
    split
    · rfl
    · split <;> rfl
  rw [counted, LineScan.feed_after]

theorem Within.goesOn (h : Within limit source content r) (ht : r.turn limit = .goesOn next) :
    ∃ more, Within limit source (content ++ more) next := by
  obtain ⟨scan, open_, sound, beyond⟩ := h
  have turns := ht ▸ turns_turn limit r
  cases turns with
  | interrupted =>
    exact ⟨[], by rwa [List.append_nil], by rwa [List.append_nil], by rwa [List.append_nil], beyond⟩
  | @content _ bytes noNewline =>
    obtain rfl := scan
    refine ⟨bytes, LineScan.feed_after limit content bytes, ?_, ?_, beyond⟩
    · rw [List.mem_append, not_or]
      exact ⟨open_, noNewline⟩
    · rw [sound, List.append_assoc]
      rfl

theorem Within.reaches (h : Within limit source content r) (hr : Reaches limit r next) :
    ∃ content, Within limit source content next := by
  induction hr with
  | refl => exact ⟨content, h⟩
  | tail _ ht ih =>
    obtain ⟨content, h⟩ := ih
    obtain ⟨more, h⟩ := h.goesOn ht
    exact ⟨content ++ more, h⟩

/-! ### The end of a call -/

/-- How a call on a source ends: what it returns, what it leaves in the buffer, and where it leaves
the source. -/
inductive Ends (limit : Nat) (source : Source) : Except String LineRead → LineReader → Prop where
  | line {content : Bytes} {left : LineReader} (open_ : newline ∉ content)
      (split : source.sound.bytes = content ++ newline :: left.source.sound.bytes)
      (beyond : left.source.beyond = source.beyond)
      (buffer : left.scan.buffer = (LineScan.after limit content).buffer) :
      Ends limit source (.ok (Piece.read limit { content, terminated := true })) left
  | last (open_ : newline ∉ source.sound.bytes) (whole : source.failure? = none) :
      Ends limit source (.ok (LineScan.after limit source.sound.bytes).atEnd)
        { scan := .after limit source.sound.bytes, source := [] }
  | failed {reason : String} (open_ : newline ∉ source.sound.bytes)
      (failing : source.failure? = some reason) :
      Ends limit source (.error reason)
        { scan := .after limit source.sound.bytes, source := source.beyond.tail }

theorem Within.returns (h : Within limit source content r)
    (ht : r.turn limit = .returns result left) : Ends limit source result left := by
  obtain ⟨scan, open_, sound, beyond⟩ := h
  have failure : source.failure? = r.source.failure? := by
    rw [Source.failure?, ← beyond, ← Source.failure?]
  have turns := ht ▸ turns_turn limit r
  cases turns with
  | dry =>
    obtain rfl : content = source.sound.bytes := by rw [sound]; exact (List.append_nil _).symm
    obtain rfl := scan
    exact .last open_ failure
  | failed _ reason rest =>
    obtain rfl : content = source.sound.bytes := by rw [sound]; exact (List.append_nil _).symm
    obtain rfl : rest = source.beyond.tail := by rw [← beyond]; rfl
    obtain rfl := scan
    exact .failed open_ failure
  | @line _ line noNewline after rest =>
    obtain rfl := scan
    rw [LineScan.finish_feed_after]
    refine .line ?_ ?_ beyond (buffer_feed_after limit content line _)
    · rw [List.mem_append, not_or]
      exact ⟨open_, noNewline⟩
    · rw [sound, List.append_assoc]
      exact congrArg (content ++ ·) (List.append_assoc line (newline :: after) _)

theorem Returns.ends (h : Returns limit r result left) : Ends limit r.source result left := by
  obtain ⟨last, reaches, returns⟩ := h
  obtain ⟨content, within⟩ := (within_cleared limit r).reaches reaches
  exact within.returns returns

/-! ### The line that is read -/

theorem readLine_of_reaches (h : Reaches limit r next) :
    readLine limit r.scan r.source = readLine limit next.scan next.source := by
  induction h with
  | refl => rfl
  | @tail middle next _ ht ih =>
    rw [ih]
    have turns := ht ▸ turns_turn limit middle
    cases turns with
    | interrupted => rfl
    | content _ noNewline => simp only [readLine, span_of_not_mem noNewline]

theorem Returns.readBoundedLine_eq (h : Returns limit r result left) :
    readBoundedLine limit r.source = (result, left.source) := by
  obtain ⟨last, reaches, ht⟩ := h
  have read : readLine limit .start r.source = readLine limit last.scan last.source :=
    readLine_of_reaches reaches
  rw [readBoundedLine, read]
  have turns := ht ▸ turns_turn limit last
  cases turns with
  | dry | failed => rfl
  | line _ noNewline => simp only [readLine, span_line noNewline]

/-- What is read of a source is what a call comes to. -/
theorem exists_ends (limit : Nat) (source : Source) :
    ∃ result left, Ends limit source result left ∧
      readBoundedLine limit source = (result, left.source) := by
  obtain ⟨result, left, h⟩ := exists_returns limit { scan := .start, source }
  exact ⟨result, left, h.ends, h.readBoundedLine_eq⟩

theorem Ends.length_buffer_le (h : Ends limit source result left) :
    left.scan.buffer.length ≤ limit := by
  cases h with
  | line _ _ _ buffer => rw [buffer]; exact length_buffer_after_le ..
  | last | failed => exact length_buffer_after_le ..

theorem Ends.eq_error_iff (h : Ends limit source result left) (reason : String) :
    result = .error reason ↔ newline ∉ source.sound.bytes ∧ source.failure? = some reason := by
  cases h with
  | line _ split => simp [split]
  | last _ whole => simp [whole]
  | failed open_ failing => simp [open_, failing]

end LineReader

/-! ### What a call takes -/

def Piece.bytes (p : Piece) : Bytes := p.content ++ if p.terminated then [newline] else []

theorem Piece.length_bytes (p : Piece) :
    p.bytes.length = p.content.length + if p.terminated then 1 else 0 := by
  rw [bytes, List.length_append]
  split <;> rfl

/-- A call takes a piece off a source: it returns what there is to tell of the piece, keeps the
content in the buffer if it fits, and leaves the rest of the source. -/
structure Piece.IsTaken (limit : Nat) (p : Piece) (source : Source) (read : LineRead)
    (left : LineReader) : Prop where
  open_ : newline ∉ p.content
  /-- What is consumed is the piece, no more and no less. -/
  consumed : source.bytes = p.bytes ++ left.source.bytes
  /-- A piece without a newline is all that there was. -/
  all : p.terminated = false → left.source.bytes = []
  /-- A failure that is still to come is left for a later call. -/
  beyond : left.source.beyond = source.beyond
  eof_iff : read = .eof ↔ source.bytes = []
  line_iff : ∀ line, read = .line line ↔
    source.bytes ≠ [] ∧ p.content.length ≤ limit ∧ line = p.content
  tooLong_iff : ∀ length, read = .tooLong length ↔
    limit < p.content.length ∧ length = p.bytes.length
  kept : p.content.length ≤ limit → left.scan.buffer = p.content
  dropped : limit < p.content.length → left.scan.buffer = []

theorem Piece.isTaken_read {limit : Nat} {p : Piece} {source : Source} {left : LineReader}
    (open_ : newline ∉ p.content) (nonempty : p.bytes ≠ [])
    (consumed : source.bytes = p.bytes ++ left.source.bytes)
    (all : p.terminated = false → left.source.bytes = [])
    (beyond : left.source.beyond = source.beyond)
    (buffer : left.scan.buffer = (LineScan.after limit p.content).buffer) :
    p.IsTaken limit source (p.read limit) left := by
  have bytes_ne : source.bytes ≠ [] := by
    rw [consumed]
    exact List.append_ne_nil_of_left_ne_nil nonempty _
  rw [LineReader.buffer_after] at buffer
  unfold Piece.read
  split
  · next long =>
    rw [if_pos long] at buffer
    refine ⟨open_, consumed, all, beyond, by simp [bytes_ne], fun line => ?_, fun length => ?_,
      fun fits => absurd long (Nat.not_lt.mpr fits), fun _ => buffer⟩
    · simp [Nat.not_le.mpr long]
    · rw [LineRead.tooLong.injEq, length_bytes, eq_comm, and_iff_right long]
  · next fits =>
    rw [if_neg fits] at buffer
    refine ⟨open_, consumed, all, beyond, by simp [bytes_ne], fun line => ?_, fun length => ?_,
      fun _ => buffer, fun long => absurd long fits⟩
    · simp [bytes_ne, Nat.not_lt.mp fits, eq_comm]
    · simp [fits]

namespace LineReader

theorem Ends.exists_isTaken {limit : Nat} {source : Source} {left : LineReader} {read : LineRead}
    (h : Ends limit source (.ok read) left) : ∃ p : Piece, p.IsTaken limit source read left := by
  have bytes_eq := source.bytes_sound_append_beyond
  cases h with
  | @line content _ open_ split beyond buffer =>
    refine ⟨_, Piece.isTaken_read open_ ?_ ?_ nofun beyond buffer⟩
    · simp [Piece.bytes]
    · rw [← bytes_eq, ← left.source.bytes_sound_append_beyond, split, beyond]
      simp [Piece.bytes]
  | last open_ whole =>
    obtain ⟨beyond, -⟩ | ⟨reason, after, -, failing⟩ := source.beyond_cases
    · rw [beyond, Source.bytes_nil, List.append_nil] at bytes_eq
      rw [bytes_eq] at open_ ⊢
      rw [LineScan.atEnd_after]
      have consumed : source.bytes =
          Piece.bytes { content := source.bytes, terminated := false } ++ Source.bytes [] := by
        simp [Piece.bytes]
      split
      · next empty =>
        refine ⟨{ content := source.bytes, terminated := false }, open_, consumed, fun _ => rfl,
          beyond.symm, by simp [empty], by simp [empty], by simp [empty], fun _ => ?_, fun _ => ?_⟩
        · rw [empty, LineScan.after_nil]; rfl
        · rw [empty, LineScan.after_nil]; rfl
      · next nonempty =>
        refine ⟨_, Piece.isTaken_read open_ ?_ consumed (fun _ => rfl) beyond.symm rfl⟩
        simpa [Piece.bytes] using nonempty
    · rw [whole] at failing
      cases failing

/-- **A line is read within the limit, and no byte behind it is.** Whatever is in the buffer, and
however the source comes, a call reads on until it returns, and at the head of each turn of its loop
the buffer holds no more than the limit. It fails exactly if a read fails before a newline has come.
Else it takes just the bytes up to and with the next newline, or all bytes if there is none. The end
is reported exactly if there were no bytes; a line that fits is left in the buffer without its
newline; and of one that does not fit nothing is left there, and its bytes are counted. -/
theorem line_is_read_within_limit (limit : Nat) (r : LineReader) :
    (∀ head, Reaches limit r.cleared head → head.scan.buffer.length ≤ limit ∧
      readLine limit .start r.source = readLine limit head.scan head.source) ∧
    (∃ result left, Returns limit r result left) ∧
    ∀ result left, Returns limit r result left →
      readBoundedLine limit r.source = (result, left.source) ∧
      left.scan.buffer.length ≤ limit ∧
      (∀ reason, result = .error reason ↔
        newline ∉ r.source.sound.bytes ∧ r.source.failure? = some reason) ∧
      ∀ read, result = .ok read → ∃ p : Piece, p.IsTaken limit r.source read left := by
  refine ⟨fun head reaches => ⟨?_, readLine_of_reaches reaches⟩, exists_returns limit r,
    fun result left h => ⟨h.readBoundedLine_eq, h.ends.length_buffer_le, h.ends.eq_error_iff,
      fun read found => ?_⟩⟩
  · obtain ⟨content, within⟩ := (within_cleared limit r).reaches reaches
    rw [within.scan]
    exact length_buffer_after_le limit content
  · subst found
    exact h.ends.exists_isTaken

def handed : LineReader where
  scan := { buffer := [1, 2, 3], total := 7, overflowed := true }
  source := [.chunk [97, 98], .interrupted, .chunk [99, 10, 100, 10], .failed "gone"]

/-- The long line is counted with its newline and leaves nothing in the buffer; the short one is
what comes next. -/
theorem long_line_is_passed_over :
    ∃ left, handed.Returns 2 (.ok (.tooLong 4)) left ∧ left.scan.buffer = [] ∧
      left.source = [.chunk [100, 10], .failed "gone"] := by
  obtain ⟨-, ⟨result, left, returns⟩, promise⟩ := line_is_read_within_limit 2 handed
  obtain ⟨read, -, -, taken⟩ := promise result left returns
  obtain ⟨rfl, rest⟩ : Except.ok (.tooLong 4) = result ∧
      [.chunk [100, 10], .failed "gone"] = left.source := Prod.mk.inj read
  obtain ⟨p, taken⟩ := taken _ rfl
  exact ⟨left, returns, taken.dropped ((taken.tooLong_iff 4).mp rfl).1, rest.symm⟩

end LineReader

end Switchboard
