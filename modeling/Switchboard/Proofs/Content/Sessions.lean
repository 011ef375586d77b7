import Mathlib.Data.List.Induction
import Switchboard.Content.Session
import Switchboard.Proofs.Json.Members

/-!
# What a session leaves

The document of a session against its successful writes. `Puts` and `Fails` say of an act what it
puts or why it fails, and `Makes` which document some puts make; none of them mentions a writer.
`Recorded` tells a whole session in these terms. A writer does what they say in whatever state it
is (`Puts.perform_eq`, `Fails.perform_eq`), so a session is as it is recorded, and what fails or
only looks can be left out of it.
-/

namespace Switchboard.Content

open Switchboard.Json

/-! ### What writes come to -/

/-- A value and the key under which a write puts it, if it has one. -/
abbrev Put := Option String × Value

/-- The value that was put last under a key, or without one. -/
def lastPut (puts : List Put) (key : Option String) : Option Value :=
  (puts.filter (·.1 == key)).getLast?.map Prod.snd

/-- The value that stands for a datum in a document. A number that is not finite has none. -/
inductive Datum.Shows : Datum → Value → Prop where
  | string (s : String) : Shows (.string s) (.string s)
  | bool (b : Bool) : Shows (.bool b) (.bool b)
  | int (i : Int) : Shows (.int i) (.number (.int i))
  | float {x : Number.Binary64} (finite : x.isFinite = true) : Shows (.float x) (.number (.float x))
  | null : Shows .null .null
  | strings (ss : List String) : Shows (.strings ss) (.array (ss.map .string))

/-- The document that some puts make: the last value without a key; if there is none, the record
with the last value under each key. -/
inductive Makes (puts : List Put) : Value → Prop where
  | whole {v : Value} (last : lastPut puts none = some v) : Makes puts v
  | record {ms : Members} (keyed : lastPut puts none = none) (ascending : ms.Ascending)
      (values : ∀ name, ms.get? name = lastPut puts (some name)) : Makes puts (.object ms)

mutual

/-- A write that succeeds, and what it puts. An object puts the document of its own session. -/
inductive Puts : Act → Put → Prop where
  | value {key : Option String} {datum : Datum} {v : Value}
      (shown : datum.Shows v) : Puts (.value key datum) (key, v)
  | object {key : Option String} {acts : List Act} {puts : List Put} {v : Value}
      (inner : AllPut acts puts) (made : Makes puts v) : Puts (.object key acts) (key, v)

/-- A session in which nothing fails, and what its writes put. -/
inductive AllPut : List Act → List Put → Prop where
  | nil : AllPut [] []
  | look {acts : List Act} {puts : List Put} (rest : AllPut acts puts) :
      AllPut (.look :: acts) puts
  | write {act : Act} {put : Put} {acts : List Act} {puts : List Put} (first : Puts act put)
      (rest : AllPut acts puts) : AllPut (act :: acts) (put :: puts)

end

def notFinite (x : Number.Binary64) : Error :=
  .unsupportedValue jsonType ("non-finite number " ++ Number.Layout.plain.render x)

/-- A write that fails. An object fails as the first write does that fails within. -/
inductive Fails : Act → Error → Prop where
  | float {key : Option String} {x : Number.Binary64} (infinite : x.isFinite = false) :
      Fails (.value key (.float x)) (notFinite x)
  | object {key : Option String} {before after : List Act} {act : Act} {puts : List Put}
      {error : Error} (inner : AllPut before puts) (failed : Fails act error) :
      Fails (.object key (before ++ act :: after)) error
  | fail (error : Error) : Fails (.fail error) error

/-- A session with what each act answers and what its successful writes put. A look is answered with
the text of the document so far. -/
inductive Recorded : List Act → List (Except Error Reply) → List Put → Prop where
  | start : Recorded [] [] []
  | written {acts : List Act} {replies : List (Except Error Reply)} {puts : List Put} {act : Act}
      {put : Put} (past : Recorded acts replies puts) (done : Puts act put) :
      Recorded (acts ++ [act]) (replies ++ [.ok .written]) (puts ++ [put])
  | failed {acts : List Act} {replies : List (Except Error Reply)} {puts : List Put} {act : Act}
      {error : Error} (past : Recorded acts replies puts) (failure : Fails act error) :
      Recorded (acts ++ [act]) (replies ++ [.error error]) puts
  | looked {acts : List Act} {replies : List (Except Error Reply)} {puts : List Put} {v : Value}
      (past : Recorded acts replies puts) (made : Makes puts v) :
      Recorded (acts ++ [.look]) (replies ++ [.ok (.content v.render)]) puts

theorem lastPut_concat (puts : List Put) (put : Put) (key : Option String) :
    lastPut (puts ++ [put]) key = if put.1 = key then some put.2 else lastPut puts key := by
  unfold lastPut
  rw [List.filter_append]
  by_cases h : put.1 = key <;> simp [h]

namespace DocumentWriter

/-! ### The document of some puts -/

def putAll (w : DocumentWriter) (puts : List Put) : DocumentWriter :=
  puts.foldl (fun w put => w.put put.1 put.2) w

theorem putAll_concat (w : DocumentWriter) (puts : List Put) (put : Put) :
    w.putAll (puts ++ [put]) = (w.putAll puts).put put.1 put.2 := by
  simp [putAll]

/-- What a fresh writer holds after some puts. -/
structure Holds (w : DocumentWriter) (puts : List Put) : Prop where
  root : w.root = lastPut puts none
  ascending : w.members.Ascending
  values : ∀ name, w.members.get? name = lastPut puts (some name)

theorem Holds.put {w : DocumentWriter} {puts : List Put} (h : w.Holds puts) (put : Put) :
    (w.put put.1 put.2).Holds (puts ++ [put]) := by
  obtain ⟨key, v⟩ := put
  cases key with
  | none =>
    exact ⟨by simp [DocumentWriter.put, lastPut_concat], h.ascending,
      fun name => by simp [DocumentWriter.put, lastPut_concat, h.values]⟩
  | some name =>
    refine ⟨by simp [DocumentWriter.put, lastPut_concat, h.root], h.ascending.insert name v,
      fun other => ?_⟩
    simp [DocumentWriter.put, lastPut_concat, Members.get?_insert, h.values]

theorem holds_putAll (puts : List Put) : (empty.putAll puts).Holds puts := by
  induction puts using List.reverseRecOn with
  | nil => exact ⟨rfl, List.Pairwise.nil, fun _ => rfl⟩
  | append_singleton puts put ih =>
    rw [putAll_concat]
    exact ih.put put

theorem Holds.makes_iff {w : DocumentWriter} {puts : List Put} (h : w.Holds puts) {v : Value} :
    Makes puts v ↔ w.document = v := by
  constructor
  · intro made
    cases made with
    | whole last => simp [document, h.root, last]
    | record keyed ascending values =>
      have same := h.ascending.ext ascending fun name => (h.values name).trans (values name).symm
      simp [document, h.root, keyed, same]
  · rintro rfl
    cases last : lastPut puts none with
    | some v => simpa [document, h.root, last] using Makes.whole last
    | none => simpa [document, h.root, last] using Makes.record last h.ascending h.values

theorem makes_putAll_iff {puts : List Put} {v : Value} :
    Makes puts v ↔ (empty.putAll puts).document = v :=
  (holds_putAll puts).makes_iff

end DocumentWriter

/-! ### What a writer does -/

open DocumentWriter

theorem DocumentWriter.encode_eq_ok_iff {datum : Datum} {v : Value} :
    encode datum = .ok v ↔ datum.Shows v := by
  constructor
  · intro encoded
    cases datum with
    | float x =>
      cases finite : x.isFinite with
      | true =>
        obtain rfl : Value.number (.float x) = v := by simpa [encode, finite] using encoded
        exact .float finite
      | false => simp [encode, finite] at encoded
    | string | bool | int | null | strings =>
      obtain rfl := Except.ok.inj encoded
      constructor
  · intro shown
    cases shown with
    | float finite => simp [encode, finite]
    | string | bool | int | null | strings => rfl

mutual

theorem Puts.perform_eq {act : Act} {put : Put} (h : Puts act put) (w : DocumentWriter) :
    w.perform act = (w.put put.1 put.2, .ok .written) := by
  cases h with
  | value shown => simp [perform, encode_eq_ok_iff.mpr shown]
  | object inner made => simp [perform, inner.performAll_eq, makes_putAll_iff.mp made]

theorem AllPut.performAll_eq {acts : List Act} {puts : List Put} (h : AllPut acts puts)
    (w : DocumentWriter) : w.performAll acts = (w.putAll puts, .ok ()) := by
  cases h with
  | nil => rfl
  | look rest => simp [performAll, perform, rest.performAll_eq]
  | write first rest => simp [performAll, first.perform_eq, rest.performAll_eq, putAll]

end

theorem AllPut.performAll_append {before : List Act} {puts : List Put} (h : AllPut before puts)
    (w : DocumentWriter) (after : List Act) :
    w.performAll (before ++ after) = (w.putAll puts).performAll after := by
  induction before generalizing w puts with
  | nil =>
    cases h
    rfl
  | cons act before ih =>
    rw [List.cons_append, performAll]
    cases h with
    | look rest => simpa [perform] using ih rest w
    | write first rest => simpa [first.perform_eq, putAll] using ih rest _

theorem Fails.perform_eq {act : Act} {error : Error} (h : Fails act error) (w : DocumentWriter) :
    w.perform act = (w, .error error) := by
  induction h generalizing w with
  | float infinite => simp [perform, encode, infinite, notFinite]
  | object inner failed ih => rw [perform, inner.performAll_append, performAll, ih]
  | fail error => rfl

/-! ### Every act has its outcome -/

/-- An induction over acts: objects by the acts of their sessions. -/
@[elab_as_elim, induction_eliminator]
theorem Act.induct {motive : Act → Prop} (value : ∀ key datum, motive (.value key datum))
    (object : ∀ (key : Option String) (acts : List Act), (∀ act ∈ acts, motive act) →
      motive (.object key acts))
    (fail : ∀ error, motive (.fail error)) (look : motive .look) (act : Act) : motive act :=
  @Act.rec motive (fun acts => ∀ act ∈ acts, motive act) value object fail look
    (List.forall_mem_nil _) (fun _ _ head tail => List.forall_mem_cons.mpr ⟨head, tail⟩) act

/-- What comes of an act: it puts something, fails or looks. -/
inductive Comes (act : Act) : Prop where
  | puts {put : Put} (h : Puts act put)
  | fails {error : Error} (h : Fails act error)
  | looks (h : act = .look)

theorem allPut_or_fails {acts : List Act} (each : ∀ act ∈ acts, Comes act) :
    (∃ puts, AllPut acts puts) ∨
      ∃ before act after puts error, acts = before ++ act :: after ∧ AllPut before puts ∧
        Fails act error := by
  induction acts with
  | nil => exact .inl ⟨[], .nil⟩
  | cons act acts ih =>
    obtain ⟨first, others⟩ := List.forall_mem_cons.mp each
    cases first with
    | fails h => exact .inr ⟨[], act, acts, [], _, rfl, .nil, h⟩
    | puts h =>
      obtain ⟨puts, all⟩ | ⟨before, failing, after, puts, error, rfl, all, failed⟩ := ih others
      · exact .inl ⟨_, .write h all⟩
      · exact .inr ⟨act :: before, failing, after, _, error, rfl, .write h all, failed⟩
    | looks h =>
      subst h
      obtain ⟨puts, all⟩ | ⟨before, failing, after, puts, error, rfl, all, failed⟩ := ih others
      · exact .inl ⟨_, .look all⟩
      · exact .inr ⟨.look :: before, failing, after, _, error, rfl, .look all, failed⟩

theorem comes (act : Act) : Comes act := by
  induction act with
  | value key datum =>
    cases datum with
    | float x =>
      cases finite : x.isFinite with
      | true => exact .puts (.value (.float finite))
      | false => exact .fails (.float finite)
    | string | bool | int | null | strings => exact .puts (.value (by constructor))
  | object key acts ih =>
    obtain ⟨puts, all⟩ | ⟨before, act, after, puts, error, rfl, all, failed⟩ := allPut_or_fails ih
    · exact .puts (.object all (makes_putAll_iff.mpr rfl))
    · exact .fails (.object all failed)
  | fail error => exact .fails (.fail error)
  | look => exact .looks rfl

/-- **A failure leaves the writer as it was.** -/
theorem DocumentWriter.perform_of_error {w : DocumentWriter} {act : Act} {error : Error}
    (h : (w.perform act).2 = .error error) : (w.perform act).1 = w := by
  cases comes act with
  | puts done =>
    rw [done.perform_eq] at h
    cases h
  | fails failure => rw [failure.perform_eq]
  | looks look => rw [look, perform]

theorem exists_recorded (acts : List Act) : ∃ replies puts, Recorded acts replies puts := by
  induction acts using List.reverseRecOn with
  | nil => exact ⟨[], [], .start⟩
  | append_singleton acts act ih =>
    obtain ⟨replies, puts, past⟩ := ih
    cases comes act with
    | puts h => exact ⟨_, _, .written past h⟩
    | fails h => exact ⟨_, _, .failed past h⟩
    | looks h =>
      subst h
      exact ⟨_, _, .looked past (makes_putAll_iff.mpr rfl)⟩

/-! ### Whole sessions -/

namespace DocumentWriter

theorem session_append (w : DocumentWriter) (before after : List Act) :
    w.session (before ++ after) =
      (((w.session before).1.session after).1,
        (w.session before).2 ++ ((w.session before).1.session after).2) := by
  induction before generalizing w with
  | nil => rfl
  | cons act before ih => simp [session, ih]

theorem session_concat (w : DocumentWriter) (acts : List Act) (act : Act) :
    w.session (acts ++ [act]) =
      (((w.session acts).1.perform act).1,
        (w.session acts).2 ++ [((w.session acts).1.perform act).2]) := by
  rw [session_append]
  rfl

end DocumentWriter

theorem Recorded.session_eq {acts : List Act} {replies : List (Except Error Reply)}
    {puts : List Put} (h : Recorded acts replies puts) :
    empty.session acts = (empty.putAll puts, replies) := by
  induction h with
  | start => rfl
  | written past done ih => rw [session_concat, ih, done.perform_eq, putAll_concat]
  | failed past failure ih => rw [session_concat, ih, failure.perform_eq]
  | looked past made ih =>
    rw [session_concat, ih, perform, content_eq_render, makes_putAll_iff.mp made]

/-- An act that leaves no trace: it changes neither the writer nor what later acts answer. -/
theorem session_of_traceless {act : Act} (h : act = .look ∨ ∃ error, Fails act error)
    (w : DocumentWriter) (before after : List Act) :
    ∃ reply later,
      w.session (before ++ act :: after) =
        ((w.session (before ++ after)).1, (w.session before).2 ++ reply :: later) ∧
      (w.session (before ++ after)).2 = (w.session before).2 ++ later := by
  have same : ∃ reply, (w.session before).1.perform act = ((w.session before).1, reply) := by
    obtain rfl | ⟨error, failed⟩ := h
    · exact ⟨_, by rw [perform]⟩
    · exact ⟨_, failed.perform_eq _⟩
  obtain ⟨reply, same⟩ := same
  exact ⟨reply, ((w.session before).1.session after).2,
    by rw [session_append, session_append, session, same], by rw [session_append]⟩

/-! ### Sessions of writes alone -/

/-- The writer that a write leaves, with what it answers. -/
def DocumentWriter.attempt (w : DocumentWriter) (step : Write) :
    DocumentWriter × Except Error Reply :=
  match w.write step with
  | .ok next => (next, .ok .written)
  | .error error => (w, .error error)

mutual

theorem DocumentWriter.perform_eq_attempt (w : DocumentWriter) : ∀ {act : Act} {step : Write},
    act.write? = some step → w.perform act = w.attempt step
  | .value key datum, step, h => by
    obtain rfl := Option.some.inj h
    rw [perform, attempt, write]
    cases encode datum <;> rfl
  | .object key acts, step, h => by
    obtain rfl := Option.some.inj h
    rw [perform, attempt, write, ← performAll_eq_writeAll]
    cases empty.performAll acts with
    | mk left answer => cases answer <;> rfl
  | .fail error, step, h => by
    obtain rfl := Option.some.inj h
    rw [perform, attempt, write]

/-- An object has the document of its writes, whatever is looked at in between. -/
theorem DocumentWriter.performAll_eq_writeAll (w : DocumentWriter) : ∀ acts : List Act,
    (w.performAll acts).2.map (fun _ => (w.performAll acts).1) = w.writeAll (Act.writes acts)
  | [] => rfl
  | act :: acts => by
    cases h : act.write? with
    | none =>
      cases act <;> first | contradiction | skip
      exact performAll_eq_writeAll w acts
    | some step =>
      rw [performAll, perform_eq_attempt w h, attempt, Act.writes, h, Option.toList_some,
        List.singleton_append, writeAll]
      cases w.write step with
      | error error => rfl
      | ok next => exact performAll_eq_writeAll next acts

end

/-- **The document of a session is determined by its successful writes.** Every session of a fresh
writer can be recorded, and it is as recorded: each act answers what the record says, and the
document is the one, and the only one, that the successful writes make. The content is always the
text of the document. An act that fails leaves the writer as it was, so one that fails or only looks
can be left out: the same document is left, and all other acts answer the same. And an object is
written as if nothing was looked at within. -/
theorem document_of_successful_writes (acts : List Act) :
    (∃ replies puts, Recorded acts replies puts) ∧
    (∀ replies puts, Recorded acts replies puts →
      (empty.session acts).2 = replies ∧
      ∀ v, Makes puts v ↔ (empty.session acts).1.document = v) ∧
    (Writer.json (empty.session acts).1).content = .ok (empty.session acts).1.document.render ∧
    (∀ before act after, acts = before ++ act :: after →
      (act = .look ∨ ∃ error, Fails act error) →
      ∃ reply later,
        empty.session acts =
          ((empty.session (before ++ after)).1, (empty.session before).2 ++ reply :: later) ∧
        (empty.session (before ++ after)).2 = (empty.session before).2 ++ later) ∧
    ∀ (w : DocumentWriter), ∀ act ∈ acts,
      (∀ error, (w.perform act).2 = .error error → (w.perform act).1 = w) ∧
      ∀ step, act.write? = some step → w.perform act = w.attempt step := by
  refine ⟨exists_recorded acts, fun replies puts recorded => ?_,
    congrArg _ (content_eq_render _), ?_,
    fun w act _ => ⟨fun error => perform_of_error, fun step same => w.perform_eq_attempt same⟩⟩
  · rw [recorded.session_eq]
    exact ⟨rfl, fun v => makes_putAll_iff⟩
  · rintro before act after rfl traceless
    exact session_of_traceless traceless empty before after

/-- An object that fails behind its first member leaves nothing, and what was put under a key shows
no more once something was put without one. -/
example :
    (empty.session
      [.value (some "b") (.int 1), .look,
        .object (some "a") [.value (some "c") .null, .value none (.float .nan)],
        .object (some "b") [.value (some "c") .null, .look, .value (some "c") (.bool true)], .look,
        .value none (.strings ["x"]), .value (some "d") .null, .look]).2 =
      [.ok .written, .ok (.content "\x7b\"b\":1\x7d"), .error (notFinite .nan), .ok .written,
        .ok (.content "\x7b\"b\":\x7b\"c\":true\x7d\x7d"), .ok .written, .ok .written,
        .ok (.content "[\"x\"]")] := by rfl

end Switchboard.Content
