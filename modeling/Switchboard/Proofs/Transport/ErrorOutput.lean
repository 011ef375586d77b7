import Switchboard.Proofs.Transport.OneLine

/-!
# How far the error output is read

The error output is read line by line, in whatever deliveries it comes, and no line is too long. But
a line that is no text is taken for a failure of the stream, and the reader lets go of it there. So
what is traced are the lines before the first one that is no text, and all that comes behind it is
left (`drained_to_first_line_without_text`).
-/

namespace Switchboard

/-- The lines that can be read of a source. What comes after the last newline is one of them only if
the source comes to its end. -/
def Source.lines (source : Source) : List Bytes :=
  match source.failure? with
  | none => (pieces source.sound.bytes).map Piece.content
  | some _ => (cut source.sound.bytes).1

/-! ### Reading on -/

theorem Source.length_sound_le (source : Source) : source.sound.bytes.length ≤ source.bound := by
  rw [bound_eq, ← source.bytes_sound_append_beyond, List.length_append]
  exact Nat.le_add_right _ _

theorem read_of_fits {limit : Nat} {p : Piece} (fits : p.content.length ≤ limit) :
    p.read limit = .line p.content := if_neg (Nat.not_lt.mpr fits)

/-- One line of a source of which all lines fit: there is none complete before the source fails or
ends, or it is read and the source goes on after its newline. -/
theorem readBoundedLine_cases {limit : Nat} {source : Source}
    (fits : source.sound.bytes.length ≤ limit) :
    (newline ∉ source.sound.bytes ∧ readBoundedLine limit source =
      match source.failure? with
      | some reason => (.error reason, source.beyond.tail)
      | none => (.ok (if source.sound.bytes = [] then .eof else .line source.sound.bytes), [])) ∨
    ∃ (line : Bytes) (rest : Source), source.sound.bytes = line ++ newline :: rest.sound.bytes ∧
      newline ∉ line ∧ rest.beyond = source.beyond ∧
      readBoundedLine limit source = (.ok (.line line), rest) := by
  obtain ⟨result, left, ends, read⟩ := LineReader.exists_ends limit source
  rw [read]
  cases ends with
  | @line content _ open_ split beyond =>
    have short : content.length ≤ limit := by
      rw [split, List.length_append] at fits
      omega
    exact .inr ⟨content, left.source, split, open_, beyond, by rw [read_of_fits short]⟩
  | last open_ whole =>
    refine .inl ⟨open_, ?_⟩
    rw [whole, LineScan.atEnd_after, read_of_fits fits]
  | failed open_ failing =>
    refine .inl ⟨open_, ?_⟩
    rw [failing]

/-! ### The lines of a source -/

namespace Source

variable {source rest : Source}

theorem failure?_congr (same : rest.beyond = source.beyond) : rest.failure? = source.failure? := by
  rw [failure?, same, ← failure?]

theorem lines_of_open (open_ : newline ∉ source.sound.bytes) :
    source.lines =
      if source.failure? = none ∧ source.sound.bytes ≠ [] then [source.sound.bytes] else [] := by
  rw [lines, pieces, cut_of_not_mem open_]
  cases source.failure? with
  | some reason => simp
  | none => by_cases empty : source.sound.bytes = [] <;> simp [empty]

theorem lines_of_line {line : Bytes} (hline : newline ∉ line)
    (split : source.sound.bytes = line ++ newline :: rest.sound.bytes)
    (same : rest.beyond = source.beyond) : source.lines = line :: rest.lines := by
  rw [lines, lines, failure?_congr same, pieces, pieces, split, cut_line hline]
  cases source.failure? <;> rfl

end Source

theorem readBoundedLine_of_lines_nil {limit : Nat} {source : Source}
    (fits : source.sound.bytes.length ≤ limit) (h : source.lines = []) :
    readBoundedLine limit source =
      match source.failure? with
      | some reason => (.error reason, source.beyond.tail)
      | none => (.ok .eof, []) := by
  obtain ⟨open_, read⟩ | ⟨line, rest, split, hline, same, -⟩ := readBoundedLine_cases fits
  · rw [Source.lines_of_open open_] at h
    rw [read]
    cases failing : source.failure? with
    | some reason => rfl
    | none =>
      have empty : source.sound.bytes = [] := by simpa [failing] using h
      dsimp only
      rw [if_pos empty]
  · cases (Source.lines_of_line hline split same).symm.trans h

theorem readBoundedLine_of_lines_cons {limit : Nat} {source : Source} {line : Bytes}
    {later : List Bytes} (fits : source.sound.bytes.length ≤ limit)
    (h : source.lines = line :: later) :
    ∃ rest : Source, readBoundedLine limit source = (.ok (.line line), rest) ∧
      rest.lines = later ∧ rest.beyond = source.beyond ∧
      rest.sound.bytes.length < source.sound.bytes.length := by
  obtain ⟨open_, read⟩ | ⟨first, rest, split, hfirst, same, read⟩ := readBoundedLine_cases fits
  · -- The source ends within its last line.
    rw [Source.lines_of_open open_] at h
    split_ifs at h with last
    obtain ⟨rfl, rfl⟩ := List.cons.inj h
    obtain ⟨beyond, -⟩ | ⟨reason, after, -, failing⟩ := source.beyond_cases
    · refine ⟨[], ?_, rfl, beyond.symm, List.length_pos_of_ne_nil last.2⟩
      rw [read, last.1]
      dsimp only
      rw [if_neg last.2]
    · rw [last.1] at failing
      cases failing
  · obtain ⟨rfl, rfl⟩ := List.cons.inj ((Source.lines_of_line hfirst split same).symm.trans h)
    refine ⟨rest, read, rfl, same, ?_⟩
    rw [split, List.length_append, List.length_cons]
    omega

/-! ### Draining -/

theorem drainErrors_of_texts (pid : Nat) {limit n : Nat} {source : Source} {later : List Bytes}
    (fits : source.sound.bytes.length ≤ limit) (enough : source.sound.bytes.length < n)
    (texts : List String) (h : source.lines = texts.map encodeText ++ later) :
    ∃ (m : Nat) (rest : Source), rest.lines = later ∧ rest.beyond = source.beyond ∧
      rest.sound.bytes.length ≤ limit ∧ rest.sound.bytes.length < m ∧
      drainErrors pid limit n source =
        ((texts.filterMap shownError?).map (errorLineEvent pid) ++ (drainErrors pid limit m rest).1,
          (drainErrors pid limit m rest).2) := by
  induction texts generalizing source n with
  | nil => exact ⟨n, source, h, rfl, fits, enough, rfl⟩
  | cons text texts ih =>
    obtain ⟨rest, read, others, same, shorter⟩ := readBoundedLine_of_lines_cons fits h
    obtain _ | n := n
    · exact absurd enough (Nat.not_lt_zero _)
    obtain ⟨m, left, hlater, hsame, hfits, henough, drained⟩ :=
      ih (n := n) (by omega) (by omega) others
    refine ⟨m, left, hlater, hsame.trans same, hfits, henough, ?_⟩
    rw [drainErrors, read]
    dsimp only
    rw [decodeText_eq_some_iff.mpr rfl]
    dsimp only
    rw [drained, List.filterMap_cons]
    cases shownError? text <;> simp

/-! ### What is shown of a line -/

/-- What is shown of a line of error output: nothing if it is blank, else the line without the
blanks at its end. -/
inductive Shows (text : String) : Option String → Prop where
  | blank (blank : ∀ c ∈ text.toList, Text.isBlank c = true) : Shows text none
  | line {shown : String} {blanks : List Char}
      (visible : ∃ c ∈ text.toList, Text.isBlank c = false)
      (trimmed : text.toList = shown.toList ++ blanks)
      (blank : ∀ c ∈ blanks, Text.isBlank c = true)
      (last : ∀ c ∈ shown.toList.getLast?, Text.isBlank c = false) : Shows text (some shown)

theorem shownError?_eq_iff {text : String} {found : Option String} :
    shownError? text = found ↔ Shows text found := by
  constructor
  · rintro rfl
    unfold shownError?
    split
    · next blank => exact .blank (List.all_eq_true.mp blank)
    · next visible =>
      obtain ⟨blanks, split, blank, last⟩ := exists_trailing Text.isBlank text.toList
      refine .line (by simpa [Text.isBlankText] using visible) ?_ blank ?_
      · rwa [String.toList_ofList]
      · rwa [String.toList_ofList]
  · intro h
    unfold shownError?
    cases h with
    | blank blank => exact if_pos (List.all_eq_true.mpr blank)
    | line visible trimmed blank last =>
      rw [if_neg (by simpa [Text.isBlankText] using visible), Text.trimEnd,
        dropTrailing_eq trimmed blank last, String.ofList_toList]

/-! ### While it is written -/

namespace ErrorReader

/-- The reader after output that came at some instants. -/
def follow (r : ErrorReader) (output : List (Nat × Bytes)) : ErrorReader :=
  output.foldl (fun r (now, bytes) => r.feed now bytes) r

variable {r : ErrorReader} {content : Bytes}

theorem feed_spec (now : Nat) (open_ : newline ∉ content) (line : r.line = content.reverse)
    (bytes : Bytes) :
    (r.feed now bytes).line = (cut (content ++ bytes)).2.reverse ∧
      ((r.feed now bytes).released = none ↔ r.released = none ∧
        ∀ line ∈ (cut (content ++ bytes)).1, ∃ text, encodeText text = line) := by
  induction bytes generalizing r content with
  | nil => simp [feed, cut_of_not_mem open_, line]
  | cons b bytes ih =>
    rw [feed, List.foldl_cons, ← feed]
    by_cases hb : b = newline
    · subst hb
      rw [cut_line open_, List.forall_mem_cons]
      have isText : (decodeText content).isSome ↔ ∃ text, encodeText text = content := by
        simp only [Option.isSome_iff_exists, decodeText_eq_some_iff]
      have taken : (r.take now newline).line = [].reverse ∧
          ((r.take now newline).released = none ↔
            r.released = none ∧ ∃ text, encodeText text = content) := by
        rw [take, if_neg (not_not.mpr rfl), line, List.reverse_reverse, ← isText]
        split
        · next h => simp [h]
        · next h => simp [h]
      obtain ⟨hline, hreleased⟩ := ih List.not_mem_nil taken.1
      rw [List.nil_append] at hline hreleased
      exact ⟨hline, by rw [hreleased, taken.2, and_assoc]⟩
    · have next_open : newline ∉ content ++ [b] := by simp [open_, Ne.symm hb]
      have taken : r.take now b = { r with line := (content ++ [b]).reverse } := by
        rw [take, if_pos hb, line, List.reverse_concat]
      have h := ih (r := r.take now b) next_open (by rw [taken])
      rw [List.append_assoc, List.singleton_append] at h
      rw [h.1, h.2, taken]
      exact ⟨rfl, Iff.rfl⟩

/-- **The reader goes on exactly as long as the complete lines are texts.** -/
theorem released_eq_none_iff (output : List (Nat × Bytes)) :
    (start.follow output).released = none ↔
      ∀ line ∈ (cut (output.flatMap Prod.snd)).1, ∃ text, encodeText text = line := by
  suffices general : ∀ (r : ErrorReader) (content : Bytes), newline ∉ content →
      r.line = content.reverse → ((r.follow output).released = none ↔ r.released = none ∧
        ∀ line ∈ (cut (content ++ output.flatMap Prod.snd)).1, ∃ text, encodeText text = line) by
    simpa [start] using general start [] List.not_mem_nil rfl
  induction output with
  | nil => intro r content open_ line; simp [follow, cut_of_not_mem open_]
  | cons chunk output ih =>
    intro r content open_ line
    obtain ⟨hline, hreleased⟩ := feed_spec chunk.1 open_ line chunk.2
    rw [follow, List.foldl_cons, ← follow, ih _ _ (newline_not_mem_tail _) hline, hreleased,
      List.flatMap_cons, ← List.append_assoc, cut_append (content ++ chunk.2),
      List.forall_mem_append, and_assoc]

end ErrorReader

/-! ### The whole stream -/

theorem texts_or_first_without (lines : List Bytes) :
    (∃ texts : List String, lines = texts.map encodeText) ∨
      ∃ (texts : List String) (line : Bytes) (later : List Bytes),
        lines = texts.map encodeText ++ line :: later ∧ ∀ text, encodeText text ≠ line := by
  induction lines with
  | nil => exact .inl ⟨[], rfl⟩
  | cons line lines ih =>
    by_cases h : ∃ text, encodeText text = line
    · obtain ⟨text, rfl⟩ := h
      obtain ⟨texts, rfl⟩ | ⟨texts, other, later, rfl, noText⟩ := ih
      · exact .inl ⟨text :: texts, rfl⟩
      · exact .inr ⟨text :: texts, other, later, rfl, noText⟩
    · exact .inr ⟨[], line, lines, rfl, not_exists.mp h⟩

/-- **The error output is drained up to the first line that is no text.** However a stream is
delivered, its lines decide what is traced of it. If all of them are texts, each one that is not
blank is traced, in order and without the blanks at its end, and reading goes on until the stream
ends or a read fails, which is traced too. If there is one that is no text, this is so for the lines
before the first of those only; then the reader stops, and the lines after it are left unread. A
process loses its reader exactly if a complete line that it has written, at whatever instants, is no
text. -/
theorem drained_to_first_line_without_text (pid : Nat) (source : Source) :
    (∀ text found, shownError? text = found ↔ Shows text found) ∧
    (∀ texts : List String, source.lines = texts.map encodeText →
      source.drain pid =
        ((texts.filterMap shownError?).map (errorLineEvent pid) ++
            source.failure?.toList.map (errorStopEvent pid),
          source.beyond.tail)) ∧
    (∀ (texts : List String) (line : Bytes) (later : List Bytes),
      source.lines = texts.map encodeText ++ line :: later →
      (∀ text, encodeText text ≠ line) →
      ∃ left : Source,
        source.drain pid =
          ((texts.filterMap shownError?).map (errorLineEvent pid) ++
              [errorStopEvent pid noTextReason],
            left) ∧
        left.lines = later ∧ left.beyond = source.beyond) ∧
    ((∃ texts : List String, source.lines = texts.map encodeText) ∨
      ∃ (texts : List String) (line : Bytes) (later : List Bytes),
        source.lines = texts.map encodeText ++ line :: later ∧
          ∀ text, encodeText text ≠ line) ∧
    ∀ output : List (Nat × Bytes),
      (ErrorReader.start.follow output).released = none ↔
        ∀ line ∈ (cut (output.flatMap Prod.snd)).1, ∃ text, encodeText text = line := by
  have fits := source.length_sound_le
  refine ⟨fun text found => shownError?_eq_iff, fun texts h => ?_,
    fun texts line later h noText => ?_, texts_or_first_without source.lines,
    ErrorReader.released_eq_none_iff⟩
  · obtain ⟨m, rest, none, same, hfits, henough, drained⟩ :=
      drainErrors_of_texts pid fits (Nat.lt_succ_of_le fits) texts (by rw [h, List.append_nil])
    obtain _ | m := m
    · exact absurd henough (Nat.not_lt_zero _)
    rw [Source.drain, drained, drainErrors, readBoundedLine_of_lines_nil hfits none,
      Source.failure?_congr same, same]
    obtain ⟨beyond, ending⟩ | ⟨reason, after, beyond, failing⟩ := source.beyond_cases
    · simp [beyond, ending]
    · simp [beyond, failing]
  · obtain ⟨m, rest, hlines, same, hfits, henough, drained⟩ :=
      drainErrors_of_texts pid fits (Nat.lt_succ_of_le fits) texts h
    obtain _ | m := m
    · exact absurd henough (Nat.not_lt_zero _)
    obtain ⟨left, read, hlater, hsame, -⟩ := readBoundedLine_of_lines_cons hfits hlines
    have hnone : decodeText line = none :=
      Option.eq_none_iff_forall_ne_some.mpr fun text h => noText text (decodeText_eq_some_iff.mp h)
    refine ⟨left, ?_, hlater, hsame.trans same⟩
    rw [Source.drain, drained, drainErrors, read]
    dsimp only
    rw [hnone]

/-- Of two lines neither is traced, since the first one is no text. -/
theorem line_behind_no_text_is_lost :
    Source.lines [.chunk [255, 10, 104, 105, 10]] = [[255], encodeText "hi"] ∧
      shownError? "hi" = some "hi" ∧
      Source.drain [.chunk [255, 10, 104, 105, 10]] 7 =
        ([errorStopEvent 7 noTextReason], [.chunk [104, 105, 10]]) := ⟨rfl, rfl, rfl⟩

def brokenErrors : Source :=
  [.chunk [104], .interrupted, .chunk [105, 32, 10, 9, 10], .chunk [195], .chunk [40, 10, 97, 10],
    .failed "gone"]

/-- The blank line is passed over; the last one is lost, and so is the failure behind it. A stream
of texts is traced up to the failure, but for what it breaks off. -/
theorem broken_errors_are_traced_in_part :
    (∃ left : Source,
      brokenErrors.drain 7 =
        ([errorLineEvent 7 "hi", errorStopEvent 7 "stream did not contain valid UTF-8"], left) ∧
      left.lines = [encodeText "a"] ∧ left.failure? = some "gone") ∧
    Source.drain [.chunk [104], .interrupted, .chunk [105, 32, 10, 97], .failed "gone"] 7 =
      ([errorLineEvent 7 "hi", errorStopEvent 7 "gone"], []) := by
  have noText (text : String) : encodeText text ≠ [195, 40] := by
    rw [ne_eq, ← decodeText_eq_some_iff]
    have none : decodeText [195, 40] = none := rfl
    rw [none]
    exact nofun
  obtain ⟨-, -, stopped, -⟩ := drained_to_first_line_without_text 7 brokenErrors
  obtain ⟨-, drained, -⟩ := drained_to_first_line_without_text 7
    [.chunk [104], .interrupted, .chunk [105, 32, 10, 97], .failed "gone"]
  obtain ⟨left, found, later, same⟩ := stopped ["hi ", "\t"] [195, 40] [encodeText "a"] rfl noText
  exact ⟨⟨left, found, later, Source.failure?_congr same⟩, drained ["hi "] rfl⟩

end Switchboard
