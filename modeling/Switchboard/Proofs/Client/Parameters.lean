import Switchboard.Proofs.Client.Building
import Switchboard.Proofs.Content.Documents

/-!
# Structured parameters arrive unchanged

A structured parameter is written as a text, which is read again before it is put among the others.
What arrives is the document of its session (`encodeObject_of_ok`). A failure within it is told when
the builder is executed, whatever else is set before.
-/

namespace Switchboard.Client

open Switchboard.Json Switchboard.Content

/-! ### Encoding -/

theorem writeAll_json (w : DocumentWriter) (steps : List Write) :
    (Writer.json w).writeAll steps = (w.writeAll steps).map .json := by
  induction steps generalizing w with
  | nil => rfl
  | cons step steps ih =>
    rw [Writer.writeAll, List.foldlM_cons, DocumentWriter.writeAll, Writer.write]
    cases w.write step with
    | error error => rfl
    | ok next => exact ih next

section

variable {steps : List Write} {factory : Factory}

theorem encodeObject_of_ok (serves : factory.openWriter jsonType = .ok (.ofForm .json))
    {w : DocumentWriter} (written : DocumentWriter.empty.writeAll steps = .ok w)
    (read : Value.parse w.document.render = .ok w.document) :
    encodeObject steps factory = .ok w.document := by
  have content : (Writer.json w).content = .ok w.document.render := congrArg _ w.content_eq_render
  simp [encodeObject, serves, Writer.ofForm, writeAll_json, written, content, read, Except.map,
    bind, Except.bind]

theorem encodeObject_of_error (serves : factory.openWriter jsonType = .ok (.ofForm .json))
    {error : Content.Error} (failed : DocumentWriter.empty.writeAll steps = .error error) :
    encodeObject steps factory = .error error.message := by
  simp [encodeObject, serves, Writer.ofForm, writeAll_json, failed, Except.map, bind, Except.bind]

end

namespace RequestBuilder

/-! ### What a builder keeps -/

namespace Draft

variable {σ : Type} [Transport σ]

theorem run_deferred {d : Draft σ} {message : String} (h : d.builder.deferred = some message)
    {steps : List (Step σ)} (quiet : steps.any Step.isExecution = false) :
    (d.run steps).builder.deferred = some message ∧
      (d.run steps).builder.executed = d.builder.executed := by
  have put (b : RequestBuilder) (key : String) (encoding : Except String Value)
      (hb : b.deferred = some message) :
      (b.put key encoding).deferred = some message ∧
        (b.put key encoding).executed = b.executed := by
    cases encoding <;> simp [RequestBuilder.put, hb]
  induction steps using List.reverseRecOn with
  | nil => exact ⟨h, rfl⟩
  | append_singleton steps x ih =>
    simp only [List.any_append, List.any_cons, List.any_nil, Bool.or_false,
      Bool.or_eq_false_iff] at quiet
    obtain ⟨deferred, executed⟩ := ih quiet.1
    rw [run_concat]
    cases x with
    | method | returnAs | meanwhile => exact ⟨deferred, executed⟩
    | param key value =>
      obtain ⟨same, unspent⟩ := put _ key value.encode deferred
      exact ⟨same, unspent.trans executed⟩
    | paramObject key steps factory =>
      obtain ⟨same, unspent⟩ := put _ key (encodeObject steps factory) deferred
      exact ⟨same, unspent.trans executed⟩
    | execute | call => simp [Step.isExecution] at quiet

/-- A builder for which something is told to be wrong is not sent: the first execution fails for
that, if it comes to look at the parameters. -/
theorem failsWith_of_deferred {d : Draft σ} {message : String}
    (h : d.builder.deferred = some message) :
    d.FailsWith (if d.builder.executed then alreadyExecuted
      else if (d.builder.method.all fun name => Text.isBlankText name.toList) then noMethod
      else .codec message) := by
  refine failsWith_of_finish ?_
  unfold finish
  cases d.builder.executed with
  | true => rfl
  | false =>
    cases method : d.builder.method with
    | none => simp
    | some name => cases blank : Text.isBlankText name.toList <;> simp [blank, h]

end Draft

/-- A value is put under a key, and nothing else is changed. -/
structure Sets (b b' : RequestBuilder) (key : String) (v : Value) : Prop where
  value : b'.params.get? key = some v
  others : ∀ other, other ≠ key → b'.params.get? other = b.params.get? other
  ascending : b.params.Ascending → b'.params.Ascending
  rest : b' = { b with params := b'.params }

theorem sets_put (b : RequestBuilder) (key : String) (v : Value) :
    b.Sets (b.put key (.ok v)) key v where
  value := by simp [put, Members.get?_insert]
  others other h := by simp [put, Members.get?_insert, h.symm]
  ascending h := h.insert key v
  rest := rfl

/-- **Structured parameters arrive unchanged.** Let a session hold no doubles, and let the factory
make a document writer. If no failure stands in the session, at any depth, it leaves a document; and
unless that nests too deep, the builder has exactly this document under the key, and all else is as
it was. If a failure stands in it, the parameters are as they were, and the first failure is kept,
behind one that was kept before. Whatever is set later, the first execution of the builder fails
with what was kept, once a method is set; it sends nothing. -/
theorem structured_parameters_arrive {σ : Type} [Transport σ] (b : RequestBuilder) (key : String)
    {steps : List Write} {factory : Factory} (exact : ∀ step ∈ steps, step.IsExact)
    (serves : factory.openWriter jsonType = .ok (.ofForm .json)) :
    (Write.allFailures steps = [] → ∃ w, DocumentWriter.empty.writeAll steps = .ok w ∧
      (w.document.depth ≤ 127 → b.Sets (b.paramObject key steps factory) key w.document)) ∧
    ∀ error, (Write.allFailures steps).head? = some error →
      DocumentWriter.empty.writeAll steps = .error error ∧
      b.paramObject key steps factory =
        { b with deferred := b.deferred.or (some (complaint (key, error.message))) } ∧
      ∀ (d : Draft σ) (later : List (Step σ)), d.builder = b.paramObject key steps factory →
        later.any Step.isExecution = false →
        (d.run later).FailsWith (if b.executed then alreadyExecuted
          else if (d.run later).builder.method.all fun name => Text.isBlankText name.toList then
            noMethod
          else .codec (b.deferred.getD (complaint (key, error.message)))) := by
  have leaves := DocumentWriter.HoldsPlain.empty.writeAll exact
  generalize Write.allFailures steps = failures,
    written : DocumentWriter.empty.writeAll steps = found at leaves
  cases leaves with
  | @done w plain =>
    refine ⟨fun _ => ⟨w, rfl, fun nested => ?_⟩, nofun⟩
    have encoded := encodeObject_of_ok serves written (plain.document.parse_render nested)
    rw [paramObject, encoded]
    exact sets_put b key w.document
  | failed error others =>
    refine ⟨nofun, fun error' first => ?_⟩
    obtain rfl : error = error' := Option.some.inj first
    have kept : b.paramObject key steps factory =
        { b with deferred := b.deferred.or (some (complaint (key, error.message))) } := by
      rw [paramObject, encodeObject_of_error serves written]
      rfl
    refine ⟨rfl, kept, fun d later same quiet => ?_⟩
    have deferred : d.builder.deferred =
        some (b.deferred.getD (complaint (key, error.message))) := by
      rw [same, kept]
      cases b.deferred <;> rfl
    have unspent : d.builder.executed = b.executed := by rw [same, kept]
    obtain ⟨still, unspent'⟩ := Draft.run_deferred deferred quiet
    have fails := Draft.failsWith_of_deferred still
    rwa [unspent'.trans unspent] at fails

def workspaceSteps : List Write :=
  [.value (some "root") (.string "/src/\"app\"\n"),
    .value (some "languages") (.strings ["Go", "C#"]),
    .object (some "limits") [.value (some "files") (.int (-9223372036854775808)),
      .object (some "root") [.value none .null]],
    .value (some "root") (.string "/src")]

def documentRegistry : Registry := Registry.empty.add (.ofForm .json)

/-- A workspace arrives, and replaces what was under its key. With a failure in the innermost of its
records it does not; the parameters stay, and an execution fails for it when the method is set. -/
theorem workspace_arrives :
    let b := (ofMethod "Generate").param "workspace" (.document .null)
    let failing := workspaceSteps ++ [.object (some "limits") [.object none [.fail .emptyType]]]
    (∃ w, DocumentWriter.empty.writeAll workspaceSteps = .ok w ∧
      w.document.render = "\x7b\"languages\":[\"Go\",\"C#\"],\"limits\":" ++
        "\x7b\"files\":-9223372036854775808,\"root\":null\x7d,\"root\":\"/src\"\x7d" ∧
      b.Sets (b.paramObject "workspace" workspaceSteps documentRegistry.toFactory) "workspace"
        w.document) ∧
    (b.paramObject "workspace" failing documentRegistry.toFactory).params = b.params ∧
    ∀ client : State ScriptedPeer,
      ((Draft.mk (b.paramObject "workspace" failing documentRegistry.toFactory) Value Decoder.value
        client).run [.method "Search", .param "workspace" (.natural 1)]).FailsWith
          (.codec ("parameter 'workspace' could not be encoded: " ++
            "content type must not be empty")) := by
  intro b failing
  have serves : documentRegistry.toFactory.openWriter jsonType = .ok (.ofForm .json) := rfl
  have exact : ∀ step ∈ workspaceSteps, step.IsExact := by
    simp only [workspaceSteps, List.forall_mem_cons]
    refine ⟨.value trivial, .value trivial, .object ?_, .value trivial, List.forall_mem_nil _⟩
    simp only [List.forall_mem_cons]
    exact ⟨.value rfl, .object (by simpa using .value trivial), List.forall_mem_nil _⟩
  have exact' : ∀ step ∈ failing, step.IsExact := by
    simp only [failing, List.forall_mem_append, List.forall_mem_singleton]
    exact ⟨exact, .object (by simpa using .object (by simpa using .fail _))⟩
  refine ⟨?_, ?_⟩
  · obtain ⟨w, written, sets⟩ :=
      (structured_parameters_arrive (σ := ScriptedPeer) b "workspace" exact serves).1 rfl
    obtain rfl : w = _ := Except.ok.inj (written.symm.trans rfl)
    exact ⟨_, rfl, rfl, sets (by decide)⟩
  · obtain ⟨-, kept, fails⟩ :=
      (structured_parameters_arrive (σ := ScriptedPeer) b "workspace" exact' serves).2 _ rfl
    refine ⟨by rw [kept], fun client => ?_⟩
    exact fails ⟨_, Value, Decoder.value, client⟩ _ rfl rfl

end RequestBuilder

end Switchboard.Client
