import Switchboard.Proofs.Content.Registry
import Switchboard.Proofs.Content.Sessions
import Switchboard.Proofs.Json.Shape

/-!
# Numbers that are not finite

A document has no number that is not finite. Its writer refuses one in whatever state it is
(`DocumentWriter.write_error`), and an object fails with what is refused within, so that all numbers
of a document are finite (`DocumentWriter.HoldsFinite`). A text has no such rule: its writer takes
the first scalar without a key, whatever it is, and nothing after it. So a number that is not finite
is a text if it is what was written first (`SlipsThrough`), and it is refused otherwise.
-/

namespace Switchboard.Content

open Switchboard.Number Switchboard.Json

/-- A write of a number that is not finite, or of an object with such a write within. -/
inductive Write.NonFinite : Write → Prop where
  | value {key : Option String} {x : Binary64} (infinite : x.isFinite = false) :
      NonFinite (.value key (.float x))
  | object {key : Option String} {steps : List Write} {step : Write} (within : step ∈ steps)
      (h : NonFinite step) : NonFinite (.object key steps)

theorem of_bind_eq_ok {α β : Type} {found : Except Error α} {next : α → Except Error β} {b : β}
    (h : found >>= next = .ok b) : ∃ a, found = .ok a ∧ next a = .ok b := by
  cases found with
  | error error => cases h
  | ok a => exact ⟨a, rfl, h⟩

/-! ### Documents -/

def OnlyFinite (v : Value) : Prop := ∀ x, Json.Number.float x ∈ v.numbers → x.isFinite = true

namespace DocumentWriter

theorem encode_infinite {x : Binary64} (infinite : x.isFinite = false) :
    encode (.float x) = .error (notFinite x) := by
  simp [encode, infinite, notFinite]

theorem writeAll_error {step : Write} (refused : ∀ w, ∃ error, write w step = .error error) :
    ∀ {steps : List Write}, step ∈ steps → ∀ w, ∃ error, writeAll w steps = .error error
  | first :: others, within, w => by
    rw [writeAll]
    cases found : write w first with
    | error error => exact ⟨error, rfl⟩
    | ok next =>
      obtain rfl | within := List.mem_cons.mp within
      · obtain ⟨error, failed⟩ := refused w
        cases found.symm.trans failed
      · exact writeAll_error refused within next

/-- **A document writer refuses a number that is not finite**, in whatever state it is. -/
theorem write_error {step : Write} (h : step.NonFinite) (w : DocumentWriter) :
    ∃ error, w.write step = .error error := by
  induction h generalizing w with
  | value infinite => exact ⟨_, by rw [write, encode_infinite infinite]; rfl⟩
  | object within h ih =>
    obtain ⟨error, failed⟩ := writeAll_error ih within empty
    exact ⟨error, by rw [write, failed]; rfl⟩

/-- A writer with finite numbers only, also where they do not show. -/
structure HoldsFinite (w : DocumentWriter) : Prop where
  members : ∀ m ∈ w.members, OnlyFinite m.2
  root : ∀ v ∈ w.root, OnlyFinite v

theorem HoldsFinite.empty : empty.HoldsFinite := ⟨List.forall_mem_nil _, nofun⟩

theorem HoldsFinite.document {w : DocumentWriter} (h : w.HoldsFinite) : OnlyFinite w.document := by
  unfold DocumentWriter.document
  cases root : w.root with
  | some v => exact h.root v root
  | none =>
    intro x hx
    obtain ⟨m, hm, hx⟩ := Value.mem_numbers_object.mp hx
    exact h.members m hm x hx

theorem HoldsFinite.put {w : DocumentWriter} (h : w.HoldsFinite) (key : Option String) {v : Value}
    (finite : OnlyFinite v) : (w.put key v).HoldsFinite := by
  cases key with
  | some name =>
    refine ⟨fun m hm => ?_, h.root⟩
    obtain rfl | hm := Members.mem_insert hm
    · exact finite
    · exact h.members m hm
  | none => exact ⟨h.members, fun u hu => Option.some.inj hu ▸ finite⟩

theorem onlyFinite_of_encode {datum : Datum} {v : Value} (encoded : encode datum = .ok v) :
    OnlyFinite v := by
  cases datum with
  | float x =>
    cases finite : x.isFinite with
    | false => simp [encode, finite] at encoded
    | true =>
      simp only [encode, finite, if_true, Except.ok.injEq] at encoded
      subst encoded
      intro y hy
      obtain rfl : y = x := by simpa [Value.numbers, Value.fold] using hy
      exact finite
  | strings values =>
    simp only [encode, Except.ok.injEq] at encoded
    subst encoded
    intro x hx
    obtain ⟨v, hv, hx⟩ := Value.mem_numbers_array.mp hx
    obtain ⟨s, -, rfl⟩ := List.mem_map.mp hv
    simp [Value.numbers, Value.fold] at hx
  | string | bool | int | null =>
    simp only [encode, Except.ok.injEq] at encoded
    subst encoded
    intro x hx
    simp [Value.numbers, Value.fold] at hx

mutual

theorem HoldsFinite.write {w w' : DocumentWriter} (h : w.HoldsFinite) :
    ∀ {step : Write}, w.write step = .ok w' → w'.HoldsFinite
  | .value key datum, done => by
    rw [DocumentWriter.write] at done
    obtain ⟨v, encoded, put⟩ := of_bind_eq_ok done
    obtain rfl := Except.ok.inj put
    exact h.put key (onlyFinite_of_encode encoded)
  | .object key steps, done => by
    rw [DocumentWriter.write] at done
    obtain ⟨nested, inner, put⟩ := of_bind_eq_ok done
    obtain rfl := Except.ok.inj put
    exact h.put key (HoldsFinite.empty.writeAll inner).document

theorem HoldsFinite.writeAll {w w' : DocumentWriter} (h : w.HoldsFinite) :
    ∀ {steps : List Write}, w.writeAll steps = .ok w' → w'.HoldsFinite
  | [], done => Except.ok.inj done ▸ h
  | step :: steps, done => by
    rw [DocumentWriter.writeAll] at done
    obtain ⟨next, first, others⟩ := of_bind_eq_ok done
    exact (h.write first).writeAll others

end

theorem unsupported_of_error {w : DocumentWriter} {key : Option String} {datum : Datum}
    {error : Error} (h : w.write (.value key datum) = .error error) :
    ∃ message, error = .unsupportedValue jsonType message := by
  cases datum with
  | float x =>
    cases finite : x.isFinite with
    | false =>
      rw [write, encode_infinite finite] at h
      cases h
      exact ⟨_, rfl⟩
    | true => simp [write, encode, finite, bind, Except.bind] at h
  | string | bool | int | null | strings => cases h

end DocumentWriter

/-! ### Texts -/

/-- A scalar without a key, which is all that a text can be. -/
def Write.isBare : Write → Bool
  | .value none (.strings _) => false
  | .value none _ => true
  | .value (some _) _ | .object _ _ | .fail _ => false

namespace TextWriter

theorem write_empty_of_bare {step : Write} (bare : step.isBare) :
    ∃ s, empty.write step = .ok { value := some s } := by
  obtain ⟨_ | name, datum⟩ | _ | _ := step <;> try contradiction
  cases datum with
  | strings values => contradiction
  | string | bool | int | float | null => exact ⟨_, rfl⟩

theorem write_error_of_not_bare {step : Write} (other : step.isBare = false) (w : TextWriter) :
    ∃ error, w.write step = .error error := by
  obtain ⟨_ | name, datum⟩ | _ | error := step
  · cases datum with
    | strings values => exact ⟨_, rfl⟩
    | string | bool | int | float | null => cases other
  · cases datum <;> exact ⟨_, rfl⟩
  · exact ⟨_, rfl⟩
  · exact ⟨error, rfl⟩

theorem write_full (s : String) (step : Write) :
    ∃ error, TextWriter.write { value := some s } step = .error error := by
  cases bare : step.isBare with
  | false => exact write_error_of_not_bare bare _
  | true =>
    obtain ⟨_ | name, datum⟩ | _ | _ := step <;> try contradiction
    cases datum <;> exact ⟨_, rfl⟩

theorem unsupported_of_put {w : TextWriter} {key : Option String} {text : String} {error : Error}
    (h : w.put key text = .error error) :
    ∃ message, error = .unsupportedValue textType message := by
  obtain ⟨_ | s⟩ := w <;> cases key <;> cases h <;> exact ⟨_, rfl⟩

theorem unsupported_of_error {w : TextWriter} {key : Option String} {datum : Datum} {error : Error}
    (h : w.write (.value key datum) = .error error) :
    ∃ message, error = .unsupportedValue textType message := by
  cases datum with
  | strings values => cases h; exact ⟨_, rfl⟩
  | string | bool | int | float | null => exact unsupported_of_put h

end TextWriter

/-! ### Either -/

namespace Writer

theorem write_json_eq_error_iff {w : DocumentWriter} {step : Write} {error : Error} :
    (json w).write step = .error error ↔ w.write step = .error error := by
  rw [write]
  cases w.write step <;> simp [Functor.map, Except.map]

theorem write_text_eq_error_iff {w : TextWriter} {step : Write} {error : Error} :
    (text w).write step = .error error ↔ w.write step = .error error := by
  rw [write]
  cases w.write step <;> simp [Functor.map, Except.map]

theorem attempt_of_error {w : Writer} {step : Write} {error : Error}
    (h : w.write step = .error error) : w.attempt step = w := by
  rw [attempt, h]

theorem attempts_append (w : Writer) (before after : List Write) :
    w.attempts (before ++ after) = (w.attempts before).attempts after := List.foldl_append

theorem attempts_of_error {w : Writer} {before : List Write} {step : Write} {error : Error}
    (h : (w.attempts before).write step = .error error) (after : List Write) :
    w.attempts (before ++ step :: after) = w.attempts (before ++ after) := by
  rw [attempts_append, attempts_append, attempts, List.foldl_cons, attempt_of_error h, ← attempts]

theorem attempts_of_refused {w : Writer} {steps : List Write}
    (refused : ∀ step ∈ steps, ∃ error, w.write step = .error error) : w.attempts steps = w := by
  induction steps with
  | nil => rfl
  | cons step steps ih =>
    obtain ⟨⟨error, first⟩, others⟩ := List.forall_mem_cons.mp refused
    rw [attempts, List.foldl_cons, attempt_of_error first]
    exact ih others

def form : Writer → Form
  | .json _ => .json
  | .text _ => .text

@[simp] theorem form_ofForm (form : Form) : (ofForm form).form = form := by cases form <;> rfl

theorem form_attempt (w : Writer) (step : Write) : (w.attempt step).form = w.form := by
  unfold attempt
  cases w with
  | json d => cases h : d.write step <;> simp [write, h, form]
  | text t => cases h : t.write step <;> simp [write, h, form]

theorem form_attempts (w : Writer) (steps : List Write) : (w.attempts steps).form = w.form := by
  induction steps generalizing w with
  | nil => rfl
  | cons step steps ih => rw [attempts, List.foldl_cons, ← attempts, ih, form_attempt]

theorem unsupported_of_error {w : Writer} {key : Option String} {datum : Datum} {error : Error}
    (h : w.write (.value key datum) = .error error) :
    ∃ message, error = .unsupportedValue w.form.contentType message := by
  cases w with
  | json d => exact DocumentWriter.unsupported_of_error (write_json_eq_error_iff.mp h)
  | text t => exact TextWriter.unsupported_of_error (write_text_eq_error_iff.mp h)

/-- **A document writer holds finite numbers only**, whatever was tried. -/
theorem attempts_json (steps : List Write) :
    ∃ w, (ofForm .json).attempts steps = .json w ∧ w.HoldsFinite := by
  induction steps using List.reverseRecOn with
  | nil => exact ⟨.empty, rfl, .empty⟩
  | append_singleton steps step ih =>
    obtain ⟨w, same, finite⟩ := ih
    rw [attempts_append, same]
    cases done : w.write step with
    | error error => exact ⟨w, by simp [attempts, attempt, write, done], finite⟩
    | ok next => exact ⟨next, by simp [attempts, attempt, write, done], finite.write done⟩

theorem attempts_full (s : String) (steps : List Write) :
    attempts (.text { value := some s }) steps = .text { value := some s } := by
  refine attempts_of_refused fun step _ => ?_
  obtain ⟨error, refused⟩ := TextWriter.write_full s step
  exact ⟨error, write_text_eq_error_iff.mpr refused⟩

theorem attempts_of_no_bare {steps : List Write} (none : ∀ step ∈ steps, step.isBare = false) :
    (ofForm .text).attempts steps = ofForm .text := by
  refine attempts_of_refused fun step within => ?_
  obtain ⟨error, refused⟩ := TextWriter.write_error_of_not_bare (none step within) .empty
  exact ⟨error, write_text_eq_error_iff.mpr refused⟩

theorem attempts_of_first {before : List Write} {step : Write} {s : String}
    (none : ∀ earlier ∈ before, earlier.isBare = false)
    (taken : TextWriter.empty.write step = .ok { value := some s }) (after : List Write) :
    (ofForm .text).attempts (before ++ step :: after) = .text { value := some s } := by
  have first : (ofForm .text).attempt step = .text { value := some s } := by
    rw [attempt, ofForm, write, taken]
    rfl
  rw [attempts_append, attempts_of_no_bare none, attempts, List.foldl_cons, first]
  exact attempts_full s after

theorem write_error_of_bare {before : List Write} (h : ∃ earlier ∈ before, earlier.isBare = true)
    (step : Write) : ∃ error, ((ofForm .text).attempts before).write step = .error error := by
  have found : (before.find? Write.isBare).isSome := by simpa using h
  obtain ⟨earlier, found⟩ := Option.isSome_iff_exists.mp found
  obtain ⟨bare, past, after, rfl, none⟩ := List.find?_eq_some_iff_append.mp found
  obtain ⟨s, taken⟩ := TextWriter.write_empty_of_bare bare
  obtain ⟨error, refused⟩ := TextWriter.write_full s step
  rw [attempts_of_first (by simpa using none) taken]
  exact ⟨error, write_text_eq_error_iff.mpr refused⟩

end Writer

/-! ### Factories -/

/-- The factories of the two forms, and the registries of such factories. -/
inductive Factory.Standard : Factory → Prop where
  | ofForm (form : Form) : Standard (.ofForm form)
  | registry {r : Registry} (each : ∀ entry ∈ r.factories, Standard entry.2) : Standard r.toFactory

theorem Factory.Standard.exists_form {f : Factory} (h : f.Standard) {contentType : String}
    {w : Writer} (opened : f.openWriter contentType = .ok w) : ∃ form, w = .ofForm form := by
  induction h generalizing contentType with
  | ofForm form =>
    obtain ⟨_, -, made⟩ := of_bind_eq_ok opened
    exact ⟨form, (Except.ok.inj made).symm⟩
  | @registry r each ih =>
    obtain ⟨entry, found, made⟩ := of_bind_eq_ok opened
    exact ih entry (Registry.mem_of_resolve found) made

/-! ### Sessions -/

/-- A number slips through as a text: it has no key, and no scalar without one was written
before. -/
structure SlipsThrough (form : Form) (before : List Write) (step : Write) : Prop where
  text : form = .text
  bare : step.isBare = true
  first : ∀ earlier ∈ before, earlier.isBare = false

theorem write_error_of_not_slips {form : Form} {before : List Write} {step : Write}
    (h : step.NonFinite) (other : ¬ SlipsThrough form before step) :
    ∃ error, ((Writer.ofForm form).attempts before).write step = .error error := by
  cases form with
  | json =>
    obtain ⟨w, same, -⟩ := Writer.attempts_json before
    obtain ⟨error, refused⟩ := DocumentWriter.write_error h w
    exact ⟨error, by rw [same, Writer.write_json_eq_error_iff, refused]⟩
  | text =>
    by_cases first : ∀ earlier ∈ before, earlier.isBare = false
    · have bare : step.isBare = false := by
        cases bare : step.isBare with
        | false => rfl
        | true => exact absurd ⟨rfl, bare, first⟩ other
      obtain ⟨error, refused⟩ := TextWriter.write_error_of_not_bare bare .empty
      exact ⟨error, by rw [Writer.attempts_of_no_bare first, Writer.ofForm,
        Writer.write_text_eq_error_iff, refused]⟩
    · exact Writer.write_error_of_bare (by simpa using first) step

theorem render_infinite {x : Binary64} (infinite : x.isFinite = false) :
    Layout.plain.render x ∈ ["NaN", "inf", "-inf"] := by
  cases x with
  | nan => decide
  | infinite negative => cases negative <;> decide
  | finite => cases infinite

/-- **A number that is not finite is refused, unless it is the first scalar of a text.** A factory
of one of the forms, or a registry of such, opens a writer, and after any writes one is tried of
such a number or of an object with one within. Unless it slips through, it fails, a plain one in the
name of the form, and all goes on as if it had not been tried. If it slips through, there was no
text before, and from then on the text is that of the number. No document ever has such a number in
it: its writer refuses them in whatever state, as does the writer of an object in it. -/
theorem infinite_refused_unless_first_in_text {f : Factory} (standard : f.Standard)
    {contentType : String} {fresh : Writer} (opened : f.openWriter contentType = .ok fresh) :
    ∃ form, fresh = .ofForm form ∧
      (∀ before step, step.NonFinite →
        (¬ SlipsThrough form before step →
          (∃ error, (fresh.attempts before).write step = .error error ∧
            ∀ key x, step = .value key (.float x) →
              ∃ message, error = .unsupportedValue form.contentType message) ∧
          ∀ after, fresh.attempts (before ++ step :: after) = fresh.attempts (before ++ after)) ∧
        (SlipsThrough form before step →
          ∃ x : Binary64, x.isFinite = false ∧ step = .value none (.float x) ∧
            (fresh.attempts before).content =
              .error (.unsupportedValue textType "an empty payload") ∧
            Layout.plain.render x ∈ ["NaN", "inf", "-inf"] ∧
            ∀ after, (fresh.attempts (before ++ step :: after)).content =
              .ok (Layout.plain.render x))) ∧
      (form = .json →
        (∀ steps, ∃ w, fresh.attempts steps = .json w ∧ OnlyFinite w.document) ∧
        ∀ (w : DocumentWriter) (step : Write), step.NonFinite →
          ∃ error, w.write step = .error error) := by
  obtain ⟨form, rfl⟩ := standard.exists_form opened
  refine ⟨form, rfl, fun before step h => ⟨fun other => ?_, ?_⟩, ?_⟩
  · obtain ⟨error, refused⟩ := write_error_of_not_slips h other
    refine ⟨⟨error, refused, ?_⟩, Writer.attempts_of_error refused⟩
    rintro key x rfl
    have named := Writer.unsupported_of_error refused
    rwa [Writer.form_attempts, Writer.form_ofForm] at named
  · rintro ⟨rfl, bare, first⟩
    cases h with
    | object => cases bare
    | @value key x infinite =>
      cases key with
      | some name => cases bare
      | none =>
        refine ⟨x, infinite, rfl, ?_, render_infinite infinite, fun after => ?_⟩
        · rw [Writer.attempts_of_no_bare first]
          rfl
        · rw [Writer.attempts_of_first first rfl]
          rfl
  · rintro rfl
    refine ⟨fun steps => ?_, fun w step h => DocumentWriter.write_error h w⟩
    obtain ⟨w, same, finite⟩ := Writer.attempts_json steps
    exact ⟨w, same, finite.document⟩

/-- The text factory opens a writer that takes what is not a number for its text. -/
theorem nan_is_taken_as_text :
    (Factory.ofForm .text).openWriter "text/plain" = .ok (.ofForm .text) ∧
      (Writer.ofForm .text).content = .error (.unsupportedValue textType "an empty payload") ∧
      (Writer.ofForm .text).write (.value none (.float .nan)) =
        .ok (.text { value := some "NaN" }) ∧
      ((Writer.ofForm .text).attempt (.value none (.float .nan))).content = .ok "NaN" :=
  ⟨rfl, rfl, rfl, rfl⟩

/-- A registry of both forms opens a text that becomes `-inf` on the third attempt, and a document
that refuses the same number within an object. -/
theorem registry_refuses_in_documents_only :
    let both := (Registry.ofHistory [.ofForm .json, .ofForm .text]).toFactory
    let infinite (key : Option String) := Write.value key (.float (.infinite true))
    both.Standard ∧
      both.openWriter "text/plain; charset=utf-8" = .ok (.ofForm .text) ∧
      (∀ after, ((Writer.ofForm .text).attempts
        ([infinite (some "a"), .object none [infinite none]] ++ infinite none :: after)).content =
          .ok "-inf") ∧
      both.openWriter "application/vnd.a+json" = .ok (.ofForm .json) ∧
      ∃ error, ((Writer.ofForm .json).attempts [.value (some "a") (.int 1)]).write
        (.object (some "b") [.value (some "c") .null, infinite (some "d")]) = .error error := by
  intro both infinite
  have standard : both.Standard := by
    refine .registry fun entry within => ?_
    have stand : (Registry.ofHistory [.ofForm .json, .ofForm .text]).factories =
        [("application/json", .ofForm .json), ("text/plain", .ofForm .text)] := rfl
    rw [stand] at within
    obtain rfl | rfl := by simpa using within
    · exact .ofForm .json
    · exact .ofForm .text
  have opensText : both.openWriter "text/plain; charset=utf-8" = .ok (.ofForm .text) := rfl
  have opensJson : both.openWriter "application/vnd.a+json" = .ok (.ofForm .json) := rfl
  refine ⟨standard, opensText, ?_, opensJson, ?_⟩
  · obtain ⟨form, fresh, sessions, -⟩ := infinite_refused_unless_first_in_text standard opensText
    obtain rfl : form = .text := by cases form <;> first | rfl | cases fresh
    obtain ⟨-, slips⟩ := sessions [infinite (some "a"), .object none [infinite none]]
      (infinite none) (.value rfl)
    obtain ⟨x, -, same, -, -, shown⟩ := slips ⟨rfl, rfl, by simp [infinite, Write.isBare]⟩
    cases same
    exact shown
  · obtain ⟨form, fresh, sessions, -⟩ := infinite_refused_unless_first_in_text standard opensJson
    obtain rfl : form = .json := by cases form <;> first | rfl | cases fresh
    have within : (infinite (some "d")).NonFinite := .value rfl
    obtain ⟨refused, -⟩ := sessions [.value (some "a") (.int 1)]
      (.object (some "b") [.value (some "c") .null, infinite (some "d")])
      (.object (by simp) within)
    obtain ⟨⟨error, failed, -⟩, -⟩ := refused fun slips => by cases slips.text
    exact ⟨error, failed⟩

end Switchboard.Content
