import Mathlib.Data.List.Forall2
import Mathlib.Data.List.TakeDrop
import Mathlib.Data.List.TakeWhile
import Switchboard.Proofs.Text.Trimming
import Switchboard.Transport.Process

/-!
# Every stream is cut into its lines

A stream is cut after each newline (`cut`), and what is left over at its end is a piece of its own
(`pieces`). `Piece.Yields` says what arrives of a piece, without regard to how it was read. The
reader keeps a scan of the line that it is in, and the scan depends only on the bytes of that line
(`LineScan.after`), so the places at which the stream was cut into deliveries leave no trace: what
is read is what the pieces are (`readLines_eq`), and what arrives is what they yield. A process
transport keeps its scan from one piece of output to the next, and finds the same (`findings_eq`).
-/

namespace Switchboard

/-! ### The pieces of a stream -/

/-- The lines of a stream without their newlines, and what comes after the last newline. -/
def cut : Bytes → List Bytes × Bytes
  | [] => ([], [])
  | b :: rest =>
    if b = newline then ([] :: (cut rest).1, (cut rest).2)
    else match cut rest with
      | ([], tail) => ([], b :: tail)
      | (line :: lines, tail) => ((b :: line) :: lines, tail)

/-- A line with its newline, or the end of a stream that lacks one. -/
structure Piece where
  content : Bytes
  terminated : Bool
  deriving DecidableEq, Repr

/-- The pieces of a stream. What comes after the last newline is one only if there is something. -/
def pieces (bytes : Bytes) : List Piece :=
  (cut bytes).1.map (fun line => { content := line, terminated := true }) ++
    if (cut bytes).2 = [] then [] else [{ content := (cut bytes).2, terminated := false }]

/-- What arrives of a piece if no more than `limit` bytes of a line are kept. -/
inductive Piece.Yields (limit : Nat) (p : Piece) : List Arrival → Prop where
  | tooLong (long : limit < p.content.length) :
      Yields limit p [.discarded (p.content.length + if p.terminated then 1 else 0)]
  | noText (fits : p.content.length ≤ limit) (noText : ∀ text, encodeText text ≠ p.content) :
      Yields limit p [.discarded p.content.length]
  | blank {text : String} (fits : p.content.length ≤ limit) (encoded : encodeText text = p.content)
      (blank : ∀ c ∈ text.toList, Text.isBlank c = true) : Yields limit p []
  | line {text kept : String} {returns : Nat} (fits : p.content.length ≤ limit)
      (encoded : encodeText text = p.content) (visible : ∃ c ∈ text.toList, Text.isBlank c = false)
      (trimmed : text.toList = kept.toList ++ List.replicate returns '\r')
      (last : kept.toList.getLast? ≠ some '\r') : Yields limit p [.line kept]

def Source.bytes (source : Source) : Bytes :=
  source.flatMap fun
    | .chunk bytes => bytes
    | _ => []

@[simp] theorem Source.bytes_nil : Source.bytes [] = [] := rfl

@[simp] theorem Source.bytes_chunk (bytes : Bytes) (rest : Source) :
    Source.bytes (.chunk bytes :: rest) = bytes ++ Source.bytes rest := rfl

theorem Source.bound_eq (source : Source) : source.bound = source.bytes.length := by
  induction source with
  | nil => rfl
  | cons d rest ih =>
    rw [Source.bound] at ih ⊢
    rw [List.foldr_cons, ih]
    cases d <;> simp [Source.bytes]

/-! ### Cutting -/

theorem cut_of_not_mem {bytes : Bytes} (h : newline ∉ bytes) : cut bytes = ([], bytes) := by
  induction bytes with
  | nil => rfl
  | cons b rest ih =>
    obtain ⟨hb, hrest⟩ := not_or.mp (List.mem_cons.not.mp h)
    rw [cut, if_neg (Ne.symm hb), ih hrest]

theorem cut_line {line : Bytes} (h : newline ∉ line) (rest : Bytes) :
    cut (line ++ newline :: rest) = (line :: (cut rest).1, (cut rest).2) := by
  induction line with
  | nil => rw [List.nil_append, cut, if_pos rfl]
  | cons b line ih =>
    obtain ⟨hb, hline⟩ := not_or.mp (List.mem_cons.not.mp h)
    rw [List.cons_append, cut, if_neg (Ne.symm hb), ih hline]

theorem newline_not_mem_tail (bytes : Bytes) : newline ∉ (cut bytes).2 := by
  induction bytes with
  | nil => exact List.not_mem_nil
  | cons b rest ih =>
    rw [cut]
    split
    · exact ih
    · rename_i hb
      generalize cut rest = c at ih
      obtain ⟨lines, tail⟩ := c
      cases lines with
      | nil => exact List.mem_cons.not.mpr (not_or.mpr ⟨Ne.symm hb, ih⟩)
      | cons line lines => exact ih

theorem cut_append (a b : Bytes) :
    cut (a ++ b) = ((cut a).1 ++ (cut ((cut a).2 ++ b)).1, (cut ((cut a).2 ++ b)).2) := by
  induction a with
  | nil => rfl
  | cons x a ih =>
    rw [List.cons_append, cut, cut, ih]
    split
    · rfl
    · rename_i hx
      generalize cut a = c at ih
      obtain ⟨lines, tail⟩ := c
      cases lines with
      | nil =>
        simp only [List.nil_append, List.cons_append]
        rw [cut, if_neg hx]
      | cons line lines => rfl

/-! ### Scanning -/

def Piece.read (limit : Nat) (p : Piece) : LineRead :=
  if limit < p.content.length then
    .tooLong (p.content.length + if p.terminated then 1 else 0)
  else .line p.content

namespace LineScan

/-- The scan of a line of which some bytes were read. -/
def after (limit : Nat) (content : Bytes) : LineScan :=
  if limit < content.length then { buffer := [], total := content.length, overflowed := true }
  else { buffer := content, total := content.length, overflowed := false }

theorem after_nil (limit : Nat) : after limit [] = start := by simp [after, start]

theorem feed_after (limit : Nat) (content more : Bytes) :
    (after limit content).feed limit more more.length = after limit (content ++ more) := by
  unfold after
  rw [List.length_append]
  by_cases h : limit < content.length
  · rw [if_pos h, if_pos (by omega)]
    rfl
  · rw [if_neg h]
    by_cases hmore : limit < content.length + more.length
    · simp [feed, hmore]
    · simp [feed, hmore]

theorem finish_feed_after (limit : Nat) (content more : Bytes) :
    ((after limit content).feed limit more (more.length + 1)).finish =
      Piece.read limit { content := content ++ more, terminated := true } := by
  unfold after Piece.read
  simp only [List.length_append]
  by_cases h : limit < content.length
  · rw [if_pos h, if_pos (by omega)]
    simp [feed, finish]
    omega
  · rw [if_neg h]
    by_cases hmore : limit < content.length + more.length
    · simp [feed, finish, hmore]
      omega
    · simp [feed, finish, hmore]

theorem atEnd_after (limit : Nat) (content : Bytes) :
    (after limit content).atEnd =
      if content = [] then .eof
      else Piece.read limit { content := content, terminated := false } := by
  cases content with
  | nil => rw [after_nil, if_pos rfl]; rfl
  | cons b rest =>
    by_cases h : limit < rest.length + 1
    · simp [after, atEnd, finish, Piece.read, h]
    · simp [after, atEnd, finish, Piece.read, h]

theorem filter_atEnd_after (limit : Nat) (content : Bytes) :
    [(after limit content).atEnd].filter (· != .eof) =
      if content = [] then []
      else [Piece.read limit { content := content, terminated := false }] := by
  have read (p : Piece) : p.read limit ≠ .eof := by
    unfold Piece.read
    split <;> nofun
  rw [atEnd_after]
  split
  · rfl
  · simp [read]

end LineScan

theorem span_of_not_mem {bytes : Bytes} (h : newline ∉ bytes) :
    bytes.span (· != newline) = (bytes, []) := by
  have all : ∀ b ∈ bytes, (b != newline) = true := fun b hb => by
    rw [bne_iff_ne]
    rintro rfl
    exact h hb
  rw [List.span_eq_takeWhile_dropWhile, List.takeWhile_eq_self_iff.mpr all,
    List.dropWhile_eq_nil_iff.mpr all]

theorem span_line {line : Bytes} (h : newline ∉ line) (rest : Bytes) :
    (line ++ newline :: rest).span (· != newline) = (line, newline :: rest) := by
  have all : ∀ b ∈ line, (b != newline) = true := fun b hb => by
    rw [bne_iff_ne]
    rintro rfl
    exact h hb
  rw [List.span_eq_takeWhile_dropWhile, List.takeWhile_append_of_pos all,
    List.dropWhile_append_of_pos all, List.takeWhile_cons_of_neg (by simp),
    List.dropWhile_cons_of_neg (by simp), List.append_nil]

/-- One line of a source that does not fail: the source runs dry within the line, or the line is
found and the source goes on after its newline. -/
theorem readLine_cases (limit : Nat) (content : Bytes) {source : Source}
    (whole : ∀ reason, .failed reason ∉ source) :
    (newline ∉ source.bytes ∧ readLine limit (.after limit content) source =
      (.dry (.after limit (content ++ source.bytes)), [])) ∨
    ∃ (line : Bytes) (rest : Source), source.bytes = line ++ newline :: rest.bytes ∧
      newline ∉ line ∧ (∀ reason, .failed reason ∉ rest) ∧
      readLine limit (.after limit content) source =
        (.found (Piece.read limit { content := content ++ line, terminated := true }), rest) := by
  induction source generalizing content with
  | nil =>
    left
    rw [Source.bytes_nil, List.append_nil]
    exact ⟨List.not_mem_nil, rfl⟩
  | cons d rest ih =>
    have hrest : ∀ reason, .failed reason ∉ rest :=
      fun reason h => whole reason (List.mem_cons_of_mem d h)
    cases d with
    | failed reason => exact absurd List.mem_cons_self (whole reason)
    | interrupted => exact ih content hrest
    | chunk bytes =>
      rw [Source.bytes_chunk, readLine]
      by_cases ends : newline ∈ bytes
      · obtain ⟨front, after, rfl, hfront⟩ := List.eq_append_cons_of_mem ends
        refine .inr ⟨front, .chunk after :: rest, ?_, hfront, by simpa using hrest, ?_⟩
        · rw [Source.bytes_chunk, List.append_assoc, List.cons_append]
        · rw [span_line hfront]
          dsimp only
          rw [LineScan.finish_feed_after]
      · -- The line goes on in what comes next.
        simp only [span_of_not_mem ends, LineScan.feed_after]
        rcases ih (content ++ bytes) hrest with ⟨hnone, hdry⟩ | ⟨line, rest', hbytes, hline, hgood,
          hfound⟩
        · refine .inl ⟨?_, by rw [hdry, List.append_assoc]⟩
          rw [List.mem_append, not_or]
          exact ⟨ends, hnone⟩
        · refine .inr ⟨bytes ++ line, rest', by rw [hbytes, List.append_assoc], ?_, hgood, ?_⟩
          · rw [List.mem_append, not_or]
            exact ⟨ends, hline⟩
          · rw [hfound, List.append_assoc]

/-- **What is read of a source is what it is cut into,** however it is delivered. -/
theorem readLines_eq (limit : Nat) (content : Bytes) (open_ : newline ∉ content) {source : Source}
    (whole : ∀ reason, .failed reason ∉ source) {n : Nat} (enough : source.bytes.length < n) :
    readLines limit n (.after limit content) source =
      ((cut (content ++ source.bytes)).1.map fun line =>
          Piece.read limit { content := line, terminated := true },
        .ok (.after limit (cut (content ++ source.bytes)).2)) := by
  induction n generalizing content source with
  | zero => omega
  | succ n ih =>
    rw [readLines]
    rcases readLine_cases limit content whole with ⟨hnone, hdry⟩ |
      ⟨line, rest, hbytes, hline, hrest, hfound⟩
    · have hopen : newline ∉ content ++ source.bytes := by
        rw [List.mem_append, not_or]
        exact ⟨open_, hnone⟩
      rw [hdry, cut_of_not_mem hopen]
      rfl
    · have hless : rest.bytes.length < n := by
        rw [hbytes, List.length_append, List.length_cons] at enough
        omega
      have hnext := ih [] List.not_mem_nil hrest hless
      rw [LineScan.after_nil, List.nil_append] at hnext
      have hopen : newline ∉ content ++ line := by
        rw [List.mem_append, not_or]
        exact ⟨open_, hline⟩
      simp only [hfound, hnext]
      rw [hbytes, ← List.append_assoc, cut_line hopen]
      rfl

/-! ### What arrives -/

theorem decodeText_eq_some_iff {bytes : Bytes} {text : String} :
    decodeText bytes = some text ↔ encodeText text = bytes := by
  have hdata : encodeText text = bytes ↔ text.toByteArray = ⟨bytes.toArray⟩ := by
    constructor
    · rintro rfl
      rfl
    · intro h
      have hbytes := congrArg (fun b : ByteArray => b.data.toList) h
      simpa [encodeText] using hbytes
  rw [hdata, decodeText, String.fromUTF8?]
  split
  · rename_i h
    rw [Option.some.injEq, ← String.toByteArray_inj]
    exact eq_comm
  · rename_i h
    refine ⟨nofun, fun heq => absurd ?_ h⟩
    rw [← heq]
    exact text.isValidUTF8

theorem exists_replicate_trimReturns (text : String) :
    ∃ returns, text.toList = (trimReturns text).toList ++ List.replicate returns '\r' := by
  obtain ⟨trailing, split, all, -⟩ := exists_trailing (· == '\r') text.toList
  have returns : trailing = List.replicate trailing.length '\r' :=
    List.eq_replicate_of_mem fun c hc => by simpa using all c hc
  exact ⟨trailing.length, by rw [trimReturns, String.toList_ofList, ← returns, ← split]⟩

theorem getLast?_trimReturns (text : String) :
    (trimReturns text).toList.getLast? ≠ some '\r' := by
  obtain ⟨-, -, -, last⟩ := exists_trailing (· == '\r') text.toList
  rw [trimReturns, String.toList_ofList]
  exact fun h => by simpa using last '\r' h

theorem trimReturns_eq {text kept : String} {returns : Nat}
    (trimmed : text.toList = kept.toList ++ List.replicate returns '\r')
    (last : kept.toList.getLast? ≠ some '\r') : trimReturns text = kept := by
  rw [← String.toList_inj, trimReturns, String.toList_ofList]
  refine dropTrailing_eq trimmed (by simp) fun c hc => beq_eq_false_iff_ne.mpr ?_
  rintro rfl
  exact last hc

theorem Piece.yields_arrival (limit : Nat) (p : Piece) :
    p.Yields limit (p.read limit).arrival?.toList := by
  unfold read
  by_cases hlong : limit < p.content.length
  · rw [if_pos hlong]
    exact .tooLong hlong
  · rw [if_neg hlong]
    have hfits : p.content.length ≤ limit := Nat.le_of_not_lt hlong
    dsimp only [LineRead.arrival?]
    cases htext : decodeText p.content with
    | none =>
      refine .noText hfits fun text hencoded => ?_
      rw [decodeText_eq_some_iff.mpr hencoded] at htext
      cases htext
    | some text =>
      have hencoded := decodeText_eq_some_iff.mp htext
      by_cases hblank : Text.isBlankText text.toList = true
      · simp only [if_pos hblank]
        exact .blank hfits hencoded (List.all_eq_true.mp hblank)
      · simp only [if_neg hblank]
        obtain ⟨returns, htrimmed⟩ := exists_replicate_trimReturns text
        refine .line hfits hencoded ?_ htrimmed (getLast?_trimReturns text)
        simpa [Text.isBlankText] using hblank

theorem Piece.Yields.eq_arrival {limit : Nat} {p : Piece} {found : List Arrival}
    (h : p.Yields limit found) : found = (p.read limit).arrival?.toList := by
  unfold read
  cases h with
  | tooLong long =>
    rw [if_pos long]
    rfl
  | noText fits noText =>
    have hnone : decodeText p.content = none :=
      Option.eq_none_iff_forall_ne_some.mpr fun text h => noText text (decodeText_eq_some_iff.mp h)
    rw [if_neg (Nat.not_lt.mpr fits)]
    simp only [LineRead.arrival?, hnone, Option.toList_some]
  | blank fits encoded blank =>
    have hblank : Text.isBlankText _ = true := List.all_eq_true.mpr blank
    rw [if_neg (Nat.not_lt.mpr fits)]
    simp only [LineRead.arrival?, decodeText_eq_some_iff.mpr encoded, if_pos hblank,
      Option.toList_none]
  | line fits encoded visible trimmed last =>
    rename_i text kept returns
    have hvisible : Text.isBlankText text.toList ≠ true := by simpa [Text.isBlankText] using visible
    rw [if_neg (Nat.not_lt.mpr fits)]
    simp only [LineRead.arrival?, decodeText_eq_some_iff.mpr encoded, if_neg hvisible,
      trimReturns_eq trimmed last, Option.toList_some]

theorem forall₂_yields_iff {limit : Nat} {ps : List Piece} {found : List (List Arrival)} :
    List.Forall₂ (Piece.Yields limit) ps found ↔
      found = ps.map fun p => (p.read limit).arrival?.toList := by
  constructor
  · intro h
    induction h with
    | nil => rfl
    | cons hp _ ih => rw [List.map_cons, hp.eq_arrival, ih]
  · rintro rfl
    rw [List.forall₂_map_right_iff, List.forall₂_same]
    exact fun p _ => p.yields_arrival limit

theorem passOn_always (reads : List LineRead) (reason : String) :
    passOn (fun _ => true) reads reason = reads.filterMap LineRead.arrival? ++ [.ended reason] := by
  have hread : (reads.zipIdx.flatMap fun r => if true then r.1.arrival?.toList else []) =
      (reads.zipIdx.map Prod.fst).flatMap fun r => r.arrival?.toList := by
    rw [List.flatMap_map]
    rfl
  rw [passOn, hread, List.zipIdx_map_fst, List.filterMap_eq_flatMap_toList]
  rfl

theorem passOn_never (reads : List LineRead) (reason : String) :
    passOn (fun _ => false) reads reason = [] := by
  simp [passOn]

/-- What is read of a whole source is what its pieces are. -/
theorem arrivals_eq_passOn (heard : Nat → Bool) (limit : Nat) {source : Source}
    (whole : ∀ reason, .failed reason ∉ source) (seen : Option ExitStatus) :
    arrivals heard limit source seen =
      passOn heard ((pieces source.bytes).map (Piece.read limit)) (withStatus endReason seen) := by
  have hreads := readLines_eq limit [] List.not_mem_nil whole
    (n := source.bound + 1) (by rw [source.bound_eq]; omega)
  rw [LineScan.after_nil, List.nil_append] at hreads
  rw [arrivals, hreads]
  simp only [LineScan.filter_atEnd_after]
  congr 1
  rw [pieces, List.map_append, List.map_map]
  congr 1
  split <;> rfl

/-- What the reader of a process finds in what it meets. -/
def Running.findings (limit : Nat) (p : Running) : List Sight → List Arrival
  | [] => []
  | sight :: rest => (p.read limit sight).2 ++ (p.read limit sight).1.findings limit rest

theorem LineScan.arrivals_after (limit : Nat) {content : Bytes} (open_ : newline ∉ content)
    (chunk : Bytes) :
    (after limit content).arrivals limit chunk =
      ((cut (content ++ chunk)).1.filterMap fun line =>
          (Piece.read limit { content := line, terminated := true }).arrival?,
        after limit (cut (content ++ chunk)).2) := by
  have hwhole : ∀ reason, .failed reason ∉ [Delivery.chunk chunk] := by simp
  have hreads := readLines_eq limit content open_ hwhole (n := chunk.length + 1)
    (by simp [Source.bytes])
  rw [Source.bytes_chunk, Source.bytes_nil, List.append_nil] at hreads
  simp only [arrivals, hreads, List.filterMap_map]
  rfl

theorem LineScan.arrival_atEnd (limit : Nat) {content : Bytes} (open_ : newline ∉ content) :
    (after limit content).atEnd.arrival?.toList =
      (pieces content).flatMap fun piece => (piece.read limit).arrival?.toList := by
  have hfilter (r : LineRead) :
      r.arrival?.toList = ([r].filter (· != .eof)).flatMap fun r => r.arrival?.toList := by
    cases r <;> simp [LineRead.arrival?]
  rw [hfilter, filter_atEnd_after, pieces, cut_of_not_mem open_]
  split <;> rfl

theorem pieces_append (a b : Bytes) :
    pieces (a ++ b) = (cut a).1.map (fun line => { content := line, terminated := true }) ++
      pieces ((cut a).2 ++ b) := by
  rw [pieces, cut_append, pieces, List.map_append, List.append_assoc]

theorem Running.findings_eq (limit : Nat) {content : Bytes} (open_ : newline ∉ content)
    (output : List (Nat × Bytes)) (finish : Nat) {p : Running}
    (scan : p.reader.scan = .after limit content) :
    p.findings limit (output.map (fun (t, bytes) => .piece t bytes) ++ [.ending finish]) =
      (pieces (content ++ output.flatMap Prod.snd)).flatMap
        fun piece => (piece.read limit).arrival?.toList := by
  induction output generalizing content p with
  | nil =>
    rw [List.flatMap_nil, List.append_nil, ← LineScan.arrival_atEnd limit open_, ← scan]
    exact List.append_nil _
  | cons chunk output ih =>
    have hread := LineScan.arrivals_after limit open_ chunk.2
    have hnext := ih (newline_not_mem_tail (content ++ chunk.2))
      (p := (p.read limit (.piece chunk.1 chunk.2)).1) (by simp only [read, scan, hread])
    rw [List.map_cons, List.cons_append, findings, hnext, List.flatMap_cons, ← List.append_assoc,
      pieces_append (content ++ chunk.2), List.flatMap_append, List.flatMap_map]
    congr 1
    simp only [read, scan, hread, List.filterMap_eq_flatMap_toList]

/-- **The reader frames every stream exactly.** The pieces of a stream determine what arrives: what
each of them yields, in order, and then the end, however the stream is cut into deliveries. From a
reader that is not heard nothing arrives, and from one that is heard at times what is found then. -/
theorem reader_frames_every_stream (limit : Nat) (source : Source)
    (whole : ∀ reason, .failed reason ∉ source) (seen : Option ExitStatus) :
    (∃ found, List.Forall₂ (Piece.Yields limit) (pieces source.bytes) found) ∧
    ∀ found, List.Forall₂ (Piece.Yields limit) (pieces source.bytes) found →
      arrivals (fun _ => true) limit source seen =
        found.flatten ++ [.ended (withStatus endReason seen)] ∧
      arrivals (fun _ => false) limit source seen = [] ∧
      (∀ heard, arrivals heard limit source seen =
        (found.zipIdx.flatMap fun (yielded, k) => if heard k then yielded else []) ++
          if heard found.length then [.ended (withStatus endReason seen)] else []) ∧
      ∀ (p : Running) (output : List (Nat × Bytes)) (finish : Nat), p.reader = .start →
        output.flatMap Prod.snd = source.bytes →
        p.findings limit (output.map (fun (t, bytes) => .piece t bytes) ++ [.ending finish]) =
          found.flatten := by
  refine ⟨⟨_, forall₂_yields_iff.mpr rfl⟩, fun found hfound => ?_⟩
  obtain rfl := forall₂_yields_iff.mp hfound
  refine ⟨?_, ?_, fun heard => ?_, fun p output finish hfresh hbytes => ?_⟩
  · rw [arrivals_eq_passOn _ limit whole, passOn_always, List.filterMap_map,
      List.filterMap_eq_flatMap_toList, List.flatMap_def]
    rfl
  · rw [arrivals_eq_passOn _ limit whole, passOn_never]
  · rw [arrivals_eq_passOn _ limit whole, passOn, List.zipIdx_map, List.zipIdx_map,
      List.flatMap_map, List.flatMap_map, List.length_map, List.length_map]
    rfl
  · have hscan : p.reader.scan = .after limit [] := by rw [hfresh, LineScan.after_nil]; rfl
    rw [Running.findings_eq limit List.not_mem_nil output finish hscan, List.nil_append, hbytes,
      List.flatMap_def]

def mixedStream : Source :=
  [.chunk [97, 98], .interrupted, .chunk [99, 13], .chunk [10, 108, 111, 110, 103], .chunk [32],
    .interrupted, .chunk [108, 105, 110, 101, 10, 255, 10, 32, 10, 195], .chunk [169]]

/-- The reader that keeps four bytes of a line finds one that fits exactly, one that is too long,
one that is no text, one that is blank, and a last one without its newline. -/
theorem mixed_stream_is_framed :
    (∀ reason, .failed reason ∉ mixedStream) ∧
    List.Forall₂ (Piece.Yields 4) (pieces mixedStream.bytes)
      [[.line "abc"], [.discarded 10], [.discarded 1], [], [.line "é"]] ∧
    arrivals (fun _ => true) 4 mixedStream none =
      [.line "abc", .discarded 10, .discarded 1, .line "é",
        .ended "generator output stream ended"] ∧
    arrivals (fun _ => false) 4 mixedStream none = [] := by
  have hwhole : ∀ reason, .failed reason ∉ mixedStream := by simp [mixedStream]
  have hyields : List.Forall₂ (Piece.Yields 4) (pieces mixedStream.bytes)
      [[.line "abc"], [.discarded 10], [.discarded 1], [], [.line "é"]] :=
    forall₂_yields_iff.mpr rfl
  obtain ⟨hheard, hunheard, -⟩ := (reader_frames_every_stream 4 mixedStream hwhole none).2 _ hyields
  exact ⟨hwhole, hyields, hheard, hunheard⟩

end Switchboard
