import Switchboard.Config
import Switchboard.Proofs.Json.Decoding

/-!
# Configurations that are written and read again

What comes back is the configuration with its spans cut to whole milliseconds, of which there are at
most as many as 64 bits count (`ProcessConfig.cut`). So a configuration comes back unchanged if and
only if its spans are of that kind, and it does so the second time: `round_trip_cuts_spans`.
-/

namespace Switchboard

open Switchboard.Json

/-! ### Spans -/

namespace Timespan

/-- A number of whole milliseconds that fits 64 bits. -/
def IsWhole (t : Timespan) : Prop := ∃ ms ≤ maxWord64, t = .ofMillis ms

def cut (t : Timespan) : Timespan where
  nanos := min (t.nanos - t.nanos % 1000000) (maxWord64 * 1000000)

variable (t : Timespan)

theorem ofMillis_cappedMillis : ofMillis t.cappedMillis = t.cut := by
  have same : t.cappedMillis * 1000000 = t.cut.nanos :=
    calc min (t.nanos / 1000000) maxWord64 * 1000000
        = min (t.nanos / 1000000 * 1000000) (maxWord64 * 1000000) :=
          (Nat.mul_min_mul_right _ _ _).symm
      _ = min (t.nanos - t.nanos % 1000000) (maxWord64 * 1000000) := by
          rw [Nat.div_mul_self_eq_mod_sub_self]
  exact congrArg Timespan.mk same

theorem cappedMillis_le : t.cappedMillis ≤ maxWord64 := Nat.min_le_right _ _

theorem isWhole_cut : t.cut.IsWhole := ⟨t.cappedMillis, t.cappedMillis_le, by
  rw [ofMillis_cappedMillis]⟩

variable {t}

theorem IsWhole.cut_eq (h : t.IsWhole) : t.cut = t := by
  obtain ⟨ms, fits, rfl⟩ := h
  simp only [cut, ofMillis, Nat.mul_mod_left, Nat.sub_zero, Timespan.mk.injEq]
  exact Nat.min_eq_left (Nat.mul_le_mul_right _ fits)

theorem cut_eq_iff : t.cut = t ↔ t.IsWhole :=
  ⟨fun same => same ▸ t.isWhole_cut, IsWhole.cut_eq⟩

theorem IsWhole.after?_eq {now : Nat} (h : t.IsWhole)
    (early : now + maxWord64 * 1000000 ≤ lastInstant) : t.after? now = some (now + t.nanos) := by
  obtain ⟨ms, fits, rfl⟩ := h
  have ends : ms * 1000000 ≤ maxWord64 * 1000000 := Nat.mul_le_mul_right _ fits
  exact if_pos (Nat.le_trans (Nat.add_le_add_left ends now) early)

end Timespan

namespace ProcessConfig

def cut (c : ProcessConfig) : ProcessConfig :=
  { c with requestTimeout := c.requestTimeout.map .cut, shutdownGrace := c.shutdownGrace.cut }

def spans (c : ProcessConfig) : List Timespan := c.shutdownGrace :: c.requestTimeout.toList

variable {c : ProcessConfig}

theorem cut_eq_iff : c.cut = c ↔ ∀ t ∈ c.spans, t.IsWhole := by
  obtain ⟨executable, args, workingDir, requestTimeout, shutdownGrace, stderr, restart, lines⟩ := c
  cases requestTimeout with
  | none => simp [cut, spans, Timespan.cut_eq_iff]
  | some t => simp [cut, spans, Timespan.cut_eq_iff, and_comm]

theorem cut_cut : c.cut.cut = c.cut := by
  refine cut_eq_iff.mpr fun t ht => ?_
  rcases List.mem_cons.mp ht with rfl | ht
  · exact c.shutdownGrace.isWhole_cut
  · obtain ⟨t, -, rfl⟩ := Option.map_eq_some_iff.mp (Option.mem_toList.mp ht)
    exact t.isWhole_cut

/-! ### The values of the members -/

def values (c : ProcessConfig) : List Value :=
  [.string c.executable, .array (c.args.map .string),
   (c.workingDir.map Value.string).getD .null, (c.requestTimeout.map millisDocument).getD .null,
   millisDocument c.shutdownGrace, Choice.document c.stderr, Choice.document c.restart,
   .number (.int c.maxLineBytes)]

theorem document_eq (c : ProcessConfig) :
    c.document = .object ((fields.map Json.Field.name).zip c.values) := rfl

/-- What is needed of a value so that it is written and read again: it is no record, its numbers fit
64 bits, and it is a list of scalars at most. -/
structure Flat (v : Value) : Prop where
  noRecord : ∀ ms, v ≠ .object ms
  ordered : v.Ordered
  numbers : ∀ n ∈ v.numbers, n.Exact
  nested : v.depth ≤ 1

theorem flat_null : Flat .null := ⟨nofun, .null, nofun, Nat.zero_le _⟩

theorem flat_text (s : String) : Flat (.string s) := ⟨nofun, .string s, nofun, Nat.zero_le _⟩

theorem flat_texts (ss : List String) : Flat (.array (ss.map .string)) where
  noRecord := nofun
  ordered := .array (List.forall_mem_map.mpr fun s _ => .string s)
  numbers n hn := by
    obtain ⟨v, hv, hn⟩ := Value.mem_numbers_array.mp hn
    obtain ⟨s, -, rfl⟩ := List.mem_map.mp hv
    cases hn
  nested := Value.depth_array_le.mpr (List.forall_mem_map.mpr fun _ _ => Nat.le_refl 0)

theorem flat_number {n : Nat} (fits : n ≤ maxWord64) : Flat (.number (.int n)) where
  noRecord := nofun
  ordered := .number _
  numbers m hm := by
    obtain rfl : m = .int n := by simpa [Value.numbers, Value.fold] using hm
    exact ⟨n, rfl, (by decide : minInt64 ≤ 0).trans (Int.natCast_nonneg n), Int.ofNat_le.mpr fits⟩
  nested := Nat.zero_le _

theorem flat_values (fits : c.maxLineBytes ≤ maxWord64) : ∀ v ∈ c.values, Flat v := by
  have millis (t : Timespan) : Flat (millisDocument t) := flat_number t.cappedMillis_le
  have directory : Flat ((c.workingDir.map Value.string).getD .null) := by
    cases c.workingDir with
    | none => exact flat_null
    | some path => exact flat_text path
  have timeout : Flat ((c.requestTimeout.map millisDocument).getD .null) := by
    cases c.requestTimeout with
    | none => exact flat_null
    | some t => exact millis t
  simp only [values, List.forall_mem_cons]
  exact ⟨flat_text _, flat_texts _, directory, timeout, millis _, flat_text _, flat_text _,
    flat_number fits, List.forall_mem_nil _⟩

/-! ### Reading -/

theorem faithful_fields {v : Value} (noRecord : ∀ ms, v ≠ .object ms) :
    ∀ f ∈ fields, f.set.FaithfulAt v := by
  have text (expected : String) := Decoder.faithful_text expected
  have word (expected : String) : (Decoder.word maxWord64 expected).Faithful :=
    (Decoder.faithful_integer _ _ _).map _
  have millis : millisDecoder.Faithful := (word "u64").map _
  have choice {α : Type} [Choice α] : (Choice.decoder (α := α)).FaithfulAt v :=
    Decoder.faithfulAt_choice _ noRecord
  simp only [fields, List.forall_mem_cons]
  exact ⟨(text _).map _ v, (text _).list.map _ v, (text _).option.map _ v, millis.option.map _ v,
    millis.map _ v, choice.map _, choice.map _, (word _).map _ v, List.forall_mem_nil _⟩

theorem ofValue_texts (ss : List String) :
    (Decoder.list .string).ofValue (.array (ss.map .string)) = .ok ss := by
  have read : (ss.map Value.string).mapM Decoder.string.ofValue = .ok ss := by
    induction ss with
    | nil => rfl
    | cons s ss ih =>
      rw [List.map_cons, List.mapM_cons, ih]
      rfl
  exact read

theorem ofValue_path (path : Option String) :
    (Decoder.option (.text "path string")).ofValue ((path.map Value.string).getD .null) =
      .ok path := by
  cases path <;> rfl

theorem ofValue_word {n : Nat} (fits : n ≤ maxWord64) (expected : String) :
    (Decoder.word maxWord64 expected).ofValue (.number (.int n)) = .ok n := by
  have read : (Decoder.integer 0 maxWord64 expected).ofValue (.number (.int n)) = .ok (n : Int) :=
    Decoder.integer_eq_ok_iff.mpr ⟨rfl, Int.natCast_nonneg n, Int.ofNat_le.mpr fits⟩
  simp only [Decoder.word, Decoder.map, read]
  rfl

theorem ofValue_millis (t : Timespan) : millisDecoder.ofValue (millisDocument t) = .ok t.cut := by
  rw [← t.ofMillis_cappedMillis]
  simp only [millisDecoder, millisDocument, Decoder.map, ofValue_word t.cappedMillis_le]
  rfl

theorem ofValue_timeout (timeout : Option Timespan) :
    (Decoder.option millisDecoder).ofValue ((timeout.map millisDocument).getD .null) =
      .ok (timeout.map .cut) := by
  cases timeout with
  | none => rfl
  | some t =>
    have read : (Decoder.option millisDecoder).ofValue (millisDocument t) =
        some <$> millisDecoder.ofValue (millisDocument t) := rfl
    rw [Option.map_some, Option.getD_some, read, ofValue_millis]
    rfl

theorem ofValue_stderr (policy : StderrPolicy) :
    Choice.decoder.ofValue (Choice.document policy) = .ok policy := by
  cases policy <;> rfl

theorem ofValue_restart (policy : RestartPolicy) :
    Choice.decoder.ofValue (Choice.document policy) = .ok policy := by
  cases policy <;> rfl

theorem itemsOfValue_values (fits : c.maxLineBytes ≤ maxWord64) :
    Decoder.itemsOfValue "struct ProcessConfig" 8 8 0 fields c.values default = .ok c.cut := by
  simp only [fields, values, Json.Field.optional, Decoder.itemsOfValue_cons, ofValue_texts,
    ofValue_path, ofValue_timeout, ofValue_millis, ofValue_stderr, ofValue_restart,
    ofValue_word fits]
  rfl

/-! ### The round trip -/

theorem parse_render (fits : c.maxLineBytes ≤ maxWord64) :
    decoder.parse c.document.render = .ok c.cut := by
  have flat : ∀ m ∈ (fields.map Json.Field.name).zip c.values, Flat m.2 :=
    fun _ hm => flat_values fits _ (List.of_mem_zip hm).2
  have inOrder : ((fields.map Json.Field.name).zip c.values).map (fun m => (m.1, m.2.ordered)) =
      (fields.map Json.Field.name).zip c.values := by
    have same : ∀ m ∈ (fields.map Json.Field.name).zip c.values, (m.1, m.2.ordered) = id m :=
      fun m hm => by rw [(flat m hm).ordered.ordered_eq, id]
    exact (List.map_congr_left same).trans (List.map_id _)
  rw [document_eq]
  refine Decoder.record_parse_render _ (fun m hm f hf _ => ?faithful) (fun n hn => ?numbers)
    ?nested (fun m hm => (List.of_mem_zip hm).1) ?found
  case faithful =>
    rw [(flat m hm).ordered.ordered_eq]
    exact faithful_fields (flat m hm).noRecord f hf
  case numbers =>
    obtain ⟨m, hm, hn⟩ := Value.mem_numbers_object.mp hn
    exact (flat m hm).numbers n hn
  case nested =>
    exact Value.depth_object_le.mpr fun m hm => (flat m hm).nested.trans (by decide)
  case found =>
    rw [inOrder, Decoder.membersOfValue_zip "struct ProcessConfig" 8 8 (by decide) rfl]
    exact itemsOfValue_values fits

/-- **A configuration comes back with its spans cut.** Read again from its text, it is otherwise as
it was, whatever stands in it; its line limit is a number of 64 bits. So it is the same if and only
if each span is a number of whole milliseconds that fits 64 bits, it has a deadline if and only if
it had one, and what was read once is read again as it is. -/
theorem round_trip_cuts_spans (c : ProcessConfig) (fits : c.maxLineBytes ≤ maxWord64) :
    decoder.parse c.document.render = .ok c.cut ∧
      (decoder.parse c.document.render = .ok c ↔ ∀ t ∈ c.spans, t.IsWhole) ∧
      ∀ d, decoder.parse c.document.render = .ok d →
        d.requestTimeout.isSome = c.requestTimeout.isSome ∧
          decoder.parse d.document.render = .ok d := by
  have read := parse_render fits
  refine ⟨read, ?_, fun d found => ?_⟩
  · rw [read, Except.ok.injEq, cut_eq_iff]
  · obtain rfl := Except.ok.inj (read.symm.trans found)
    have again : decoder.parse c.cut.document.render = .ok c.cut.cut := parse_render fits
    rw [cut_cut] at again
    exact ⟨Option.isSome_map, again⟩

def awkward : ProcessConfig where
  executable := "C:\\tools \"new\"/\x00\x7d\n"
  args := ["", "\\u0041", "\u20ac\x7f"]
  workingDir := some ""
  requestTimeout := some { nanos := 1999999 }
  shutdownGrace := { nanos := (maxWord64 + 1) * 1000000 + 5 }
  stderr := .inherit
  restart := .onDemand
  maxLineBytes := maxWord64

theorem awkward_config_survives :
    awkward.maxLineBytes ≤ maxWord64 ∧
      decoder.parse awkward.document.render =
        .ok { awkward with
          requestTimeout := some (.ofMillis 1), shutdownGrace := .ofMillis maxWord64 } ∧
      decoder.parse awkward.document.render ≠ .ok awkward := by
  have fits : awkward.maxLineBytes ≤ maxWord64 := Nat.le_refl _
  obtain ⟨read, -, -⟩ := round_trip_cuts_spans awkward fits
  refine ⟨fits, read, fun same => ?_⟩
  have cut : awkward.cut = awkward := Except.ok.inj (read.symm.trans same)
  exact absurd cut (by decide)

end ProcessConfig

end Switchboard
