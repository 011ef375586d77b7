import Mathlib.Data.List.Induction
import Switchboard.Client.RequestBuilder
import Switchboard.Proofs.Client.Run
import Switchboard.Proofs.Json.Members
import Switchboard.Transport.Scripted

/-!
# Builders are executed once

A builder is told its method, its parameters and the type of its result in any order, and may be
executed anywhere among that. What it holds until its first execution is a function of what it was
told (`gathered`); afterwards only its mark matters that it was executed. So the first execution
alone can open a call, and it is known from the steps before it what it comes to.
-/

namespace Switchboard.Client.RequestBuilder

open Switchboard.Json

variable {σ : Type}

/-! ### Chains of steps -/

/-- What is done to a builder, or meanwhile to its client. -/
inductive Step (σ : Type) : Type 1 where
  | method (name : String)
  | param (key : String) (value : Param)
  | paramObject (key : String) (steps : List Content.Write) (factory : Content.Factory)
  | returnAs {α : Type} (decoder : Decoder α)
  | execute
  | call
  | meanwhile (use : State σ → State σ)

namespace Step

def isExecution : Step σ → Bool
  | .execute | .call => true
  | _ => false

def isForeign : Step σ → Bool
  | .meanwhile _ => true
  | _ => false

def name? : Step σ → Option String
  | .method name => some name
  | _ => none

/-- The key of a parameter, with its document or what is wrong with it. -/
def encoding? : Step σ → Option (String × Except String Value)
  | .param key value => some (key, value.encode)
  | .paramObject key steps factory => some (key, encodeObject steps factory)
  | _ => none

def encoded? (x : Step σ) : Option (String × Value) :=
  match x.encoding? with
  | some (key, .ok v) => some (key, v)
  | _ => none

def failed? (x : Step σ) : Option (String × String) :=
  match x.encoding? with
  | some (key, .error message) => some (key, message)
  | _ => none

end Step

def named (past : List (Step σ)) : List String := past.filterMap Step.name?

def encoded (past : List (Step σ)) : List (String × Value) := past.filterMap Step.encoded?

def failed (past : List (Step σ)) : List (String × String) := past.filterMap Step.failed?

/-- How an execution words that a parameter could not be encoded. -/
def complaint (parameter : String × String) : String :=
  s!"parameter '{parameter.1}' could not be encoded: {parameter.2}"

/-- Where a builder comes from: it is bare, or its method and the type of its result are set. -/
inductive Origin : Type 1 where
  | bare
  | preset {α : Type} (method : String) (decoder : Decoder α)

/-- What setting up a builder amounts to. -/
def Origin.steps : Origin → List (Step σ)
  | .bare => []
  | .preset method decoder => [.method method, .returnAs decoder]

/-- A builder with the type of its result and with the client that it belongs to. -/
structure Draft (σ : Type) where
  builder : RequestBuilder
  Result : Type
  decoder : Decoder Result
  client : State σ

namespace Draft

def start (s : State σ) : Origin → Draft σ
  | .bare => ⟨.empty, Value, Decoder.value, s⟩
  | .preset method decoder => ⟨.ofMethod method, _, decoder, s⟩

variable [Transport σ]

def execute (d : Draft σ) : Draft σ × Option (Except CallFailure (Handle d.Result)) :=
  let (builder, client, result) := d.builder.execute d.decoder d.client
  ({ d with builder, client }, result)

def call (d : Draft σ) : Draft σ × Option (Except CallFailure d.Result) :=
  let (builder, client, result) := d.builder.call d.decoder d.client
  ({ d with builder, client }, result)

def step (d : Draft σ) : Step σ → Draft σ
  | .method name => { d with builder := d.builder.setMethod name }
  | .param key value => { d with builder := d.builder.param key value }
  | .paramObject key steps factory =>
    { d with builder := d.builder.paramObject key steps factory }
  | .returnAs decoder => ⟨d.builder, _, decoder, d.client⟩
  | .execute => d.execute.1
  | .call => d.call.1
  | .meanwhile use => { d with client := use d.client }

def run (d : Draft σ) (steps : List (Step σ)) : Draft σ := steps.foldl step d

theorem run_concat (d : Draft σ) (steps : List (Step σ)) (x : Step σ) :
    d.run (steps ++ [x]) = (d.run steps).step x := by
  simp [run]

theorem start_run (s : State σ) (origin : Origin) (steps : List (Step σ)) :
    (start s origin).run steps = (start s .bare).run (origin.steps ++ steps) := by
  cases origin <;> rfl

end Draft

/-! ### What a builder holds -/

/-- The builder that was told what was told in some steps and was not executed. -/
def gathered (past : List (Step σ)) : RequestBuilder where
  method := (named past).getLast?
  params := Members.ofList (encoded past)
  deferred := (failed past).head?.map complaint
  executed := false

theorem ofList_concat (written : List (String × Value)) (key : String) (v : Value) :
    Members.ofList (written ++ [(key, v)]) = (Members.ofList written).insert key v := by
  simp [Members.ofList_eq_foldl]

theorem put_gathered {past : List (Step σ)} {x : Step σ} {key : String}
    {encoding : Except String Value} (hx : x.encoding? = some (key, encoding))
    (hname : x.name? = none) :
    (gathered past).put key encoding = gathered (past ++ [x]) := by
  cases encoding with
  | ok v =>
    have hencoded : x.encoded? = some (key, v) := by simp [Step.encoded?, hx]
    have hfailed : x.failed? = none := by simp [Step.failed?, hx]
    simp [put, gathered, named, encoded, failed, hname, hencoded, hfailed, ofList_concat]
  | error message =>
    have hencoded : x.encoded? = none := by simp [Step.encoded?, hx]
    have hfailed : x.failed? = some (key, message) := by simp [Step.failed?, hx]
    simp only [put, gathered, named, encoded, failed, List.filterMap_append,
      List.filterMap_cons, List.filterMap_nil, hname, hencoded, hfailed, List.append_nil]
    cases List.filterMap Step.failed? past <;> rfl

theorem setMethod_gathered {past : List (Step σ)} {x : Step σ} {name : String}
    (hname : x.name? = some name) (hx : x.encoding? = none) :
    (gathered past).setMethod name = gathered (past ++ [x]) := by
  have hencoded : x.encoded? = none := by simp [Step.encoded?, hx]
  have hfailed : x.failed? = none := by simp [Step.failed?, hx]
  simp [setMethod, gathered, named, encoded, failed, hname, hencoded, hfailed]

theorem gathered_concat_of_silent {past : List (Step σ)} {x : Step σ} (hname : x.name? = none)
    (hx : x.encoding? = none) : gathered (past ++ [x]) = gathered past := by
  simp [gathered, named, encoded, failed, Step.encoded?, Step.failed?, hname, hx]

/-! ### Executions -/

theorem finish_executed (b : RequestBuilder) : b.finish.1.executed = true := by
  unfold finish
  split
  · assumption
  · dsimp only
    split
    · rfl
    · split
      · rfl
      · split <;> rfl

variable [Transport σ]

theorem execute_of_finish_error {α : Type} {b b' : RequestBuilder} {failure : CallFailure}
    (h : b.finish = (b', .error failure)) (decoder : Decoder α) (s : State σ) :
    b.execute decoder s = (b', s, some (.error failure)) := by
  simp [execute, h]

theorem execute_of_finish_ok {α : Type} {b b' : RequestBuilder} {method : String} {params : Value}
    (h : b.finish = (b', .ok (method, params))) (decoder : Decoder α) (s : State σ) :
    b.execute decoder s =
      (b', (s.call method params decoder).1, (s.call method params decoder).2) := by
  simp [execute, h]

theorem execute_fst {α : Type} (b : RequestBuilder) (decoder : Decoder α) (s : State σ) :
    (b.execute decoder s).1 = b.finish.1 := by
  unfold execute
  split <;> simp [*]

theorem call_fst {α : Type} (b : RequestBuilder) (decoder : Decoder α) (s : State σ) :
    (b.call decoder s).1 = b.finish.1 := by
  rw [← execute_fst b decoder s]
  unfold call
  split <;> simp [*]

namespace Draft

/-- Whether an execution fails with the given failure and does nothing to the client. -/
def FailsWith (d : Draft σ) (failure : CallFailure) : Prop :=
  ∃ builder, d.execute = ({ d with builder }, some (.error failure)) ∧
    d.call = ({ d with builder }, some (.error failure))

/-- What a call comes to whose opening is known: a refusal, or what its handle yields. Nothing comes
of an opening that does not come back. -/
def awaited (d : Draft σ) : State σ × Option (Except CallFailure (Handle d.Result)) →
    State σ × Option (Except CallFailure d.Result)
  | (s, none) => (s, none)
  | (s, some (.error failure)) => (s, some (.error failure))
  | (s, some (.ok handle)) => handle.wait s

/-- Whether an execution does to the client what the given call of it does, once, and has its
result. -/
def Sends (d : Draft σ) (method : String) (params : Members) : Prop :=
  let opened := d.client.call method (.object params) d.decoder
  ∃ builder, d.execute = ({ d with builder, client := opened.1 }, opened.2) ∧
    d.call = ({ d with builder, client := (d.awaited opened).1 }, (d.awaited opened).2)

theorem failsWith_of_finish {d : Draft σ} {failure : CallFailure}
    (h : d.builder.finish.2 = .error failure) : d.FailsWith failure := by
  have hexecute := execute_of_finish_error (Prod.ext rfl h) d.decoder d.client
  exact ⟨d.builder.finish.1, by simp [execute, hexecute],
    by simp [call, RequestBuilder.call, hexecute]⟩

theorem sends_of_finish {d : Draft σ} {method : String} {params : Members}
    (h : d.builder.finish.2 = .ok (method, .object params)) : d.Sends method params := by
  have hexecute := execute_of_finish_ok (Prod.ext rfl h) d.decoder d.client
  refine ⟨d.builder.finish.1, by simp [execute, hexecute], ?_⟩
  simp only [call, RequestBuilder.call, hexecute]
  split <;> simp_all [awaited]

/-! ### Along a chain -/

/-- What holds of the builder after some steps. -/
structure Keeps (d : Draft σ) (past : List (Step σ)) : Prop where
  executed : d.builder.executed = past.any Step.isExecution
  holds : past.any Step.isExecution = false → d.builder = gathered past

omit [Transport σ] in
theorem Keeps.start (s : State σ) : (start s .bare).Keeps [] := ⟨rfl, fun _ => rfl⟩

theorem Keeps.step {d : Draft σ} {past : List (Step σ)} (h : d.Keeps past) (x : Step σ) :
    (d.step x).Keeps (past ++ [x]) := by
  have spent (hx : x.isExecution = true) (hfst : (d.step x).builder = d.builder.finish.1) :
      (d.step x).Keeps (past ++ [x]) :=
    ⟨by simp [hfst, finish_executed, hx], by simp [hx]⟩
  have told (hx : x.isExecution = false)
      (hexecuted : (d.step x).builder.executed = d.builder.executed)
      (holds : d.builder = gathered past → (d.step x).builder = gathered (past ++ [x])) :
      (d.step x).Keeps (past ++ [x]) :=
    ⟨by simp [hexecuted, h.executed, hx], fun hno => holds (h.holds (by simpa [hx] using hno))⟩
  have put_executed (key : String) (encoding : Except String Value) :
      (d.builder.put key encoding).executed = d.builder.executed := by cases encoding <;> rfl
  cases x with
  | method name =>
    exact told rfl rfl fun hb =>
      (congrArg (·.setMethod name) hb).trans (setMethod_gathered rfl rfl)
  | param key value =>
    exact told rfl (put_executed key _) fun hb =>
      (congrArg (·.param key value) hb).trans (put_gathered rfl rfl)
  | paramObject key steps factory =>
    exact told rfl (put_executed key _) fun hb =>
      (congrArg (·.paramObject key steps factory) hb).trans (put_gathered rfl rfl)
  | returnAs decoder =>
    exact told rfl rfl fun hb => hb.trans (gathered_concat_of_silent rfl rfl).symm
  | meanwhile use =>
    exact told rfl rfl fun hb => hb.trans (gathered_concat_of_silent rfl rfl).symm
  | execute => exact spent rfl (execute_fst _ _ _)
  | call => exact spent rfl (call_fst _ _ _)

/-- What holds of the builder of any chain, by induction on its steps. -/
theorem Keeps.run (s : State σ) (past : List (Step σ)) :
    ((Draft.start s .bare).run past).Keeps past := by
  induction past using List.reverseRecOn with
  | nil => exact .start s
  | append_singleton past x ih =>
    rw [run_concat]
    exact ih.step x

/-- What an execution comes to after some steps, the setting up of the builder included, and which
step does anything to the client. -/
structure ExecutesOnce (d : Draft σ) (past : List (Step σ)) : Prop where
  /-- Nothing but the first execution is the builder's own doing. -/
  quiet (x : Step σ) : x.isForeign = false → (d.step x).client ≠ d.client →
    x.isExecution = true ∧ past.any Step.isExecution = false
  /-- Later executions are refused, whatever was set in between and whatever came of the first. -/
  again : past.any Step.isExecution = true → d.FailsWith alreadyExecuted
  unnamed : past.any Step.isExecution = false →
    (∀ method ∈ (named past).getLast?, Text.isBlankText method.toList = true) →
    d.FailsWith noMethod
  spoiled (method : String) (first : String × String) : past.any Step.isExecution = false →
    (named past).getLast? = some method → Text.isBlankText method.toList = false →
    (failed past).head? = some first → d.FailsWith (.codec (complaint first))
  /-- The names of the parameters ascend, so that each stands there once. -/
  complete (method : String) : past.any Step.isExecution = false →
    (named past).getLast? = some method → Text.isBlankText method.toList = false →
    failed past = [] →
    ∃ params : Members, params.Ascending ∧
      (∀ key, params.get? key = Members.get? (encoded past).reverse key) ∧ d.Sends method params

theorem Keeps.executesOnce {d : Draft σ} {past : List (Step σ)} (h : d.Keeps past) :
    d.ExecutesOnce past := by
  have again (hpast : past.any Step.isExecution = true) : d.FailsWith alreadyExecuted :=
    failsWith_of_finish (by rw [finish, if_pos (h.executed.trans hpast)])
  refine ⟨fun x hforeign hclient => ?_, again, fun hpast hblank => ?_, ?_, ?_⟩
  · have hexecution : x.isExecution = true := by
      cases x <;> first | rfl | exact absurd rfl hclient | simp [Step.isForeign] at hforeign
    refine ⟨hexecution, Bool.eq_false_iff.mpr fun hpast => hclient ?_⟩
    obtain ⟨builder, hexecute, hcall⟩ := again hpast
    cases x <;> simp_all [Draft.step, Step.isExecution]
  · have hb := h.holds hpast
    cases hmethod : (named past).getLast? with
    | none => exact failsWith_of_finish (by simp [finish, hb, gathered, hmethod])
    | some method =>
      have := hblank method (by simp [hmethod])
      exact failsWith_of_finish (by simp [finish, hb, gathered, hmethod, this])
  · intro method first hpast hmethod hvisible hfailed
    have hb := h.holds hpast
    exact failsWith_of_finish (by simp [finish, hb, gathered, hmethod, hvisible, hfailed])
  · intro method hpast hmethod hvisible hfailed
    have hb := h.holds hpast
    refine ⟨Members.ofList (encoded past), Members.ofList_ascending _,
      Members.get?_ofList _, sends_of_finish ?_⟩
    simp [finish, hb, gathered, hmethod, hvisible, hfailed]

/-- **A builder opens at most one call, and only when it is complete.** However it was set up and
whatever was done since, to it and to its client: an execution opens the call that the steps before
it describe if it is the first, if the last method is not blank and if all parameters could be
encoded. Any other execution fails and does nothing to the client. -/
theorem builder_executes_once (s : State σ) (origin : Origin) (steps : List (Step σ)) :
    ((start s origin).run steps).ExecutesOnce (origin.steps ++ steps) := by
  rw [start_run]
  exact (Keeps.run s _).executesOnce

def searchSteps : List (Step ScriptedPeer) :=
  [.param "term" (.document (.string "git")), .method " ", .param "limit" (.natural 1),
    .method "Search", .param "limit" (.natural 2)]

/-- A search is opened with the limit that was given last. Once executed, its builder is refused
although another method is set. Without its method, or with a parameter that fails, nothing is
opened; of two failures the first is told, also if its parameter was given once more. -/
theorem searches_open_once :
    let client : State ScriptedPeer := newClient .default (.idle [] none)
    (∃ params : Members, params.get? "limit" = some (.number (.int 2)) ∧
      params.get? "term" = some (.string "git") ∧
      ((start client .bare).run searchSteps).Sends "Search" params) ∧
    ((start client .bare).run (searchSteps ++ [.execute, .method "Other"])).FailsWith
      alreadyExecuted ∧
    ((start client .bare).run (searchSteps ++ [.method "\u3000"])).FailsWith noMethod ∧
    ((start client (.preset "Search" Decoder.value)).run
      [.param "term" (.failing "no term"), .param "limit" (.natural 18446744073709551616),
        .param "term" (.document .null)]).FailsWith
      (.codec "parameter 'term' could not be encoded: no term") := by
  intro client
  refine ⟨?_, ?_, ?_, ?_⟩
  · obtain ⟨params, -, values, sends⟩ :=
      (builder_executes_once client .bare searchSteps).complete "Search" rfl rfl rfl rfl
    exact ⟨params, values "limit", values "term", sends⟩
  · exact (builder_executes_once client .bare _).again rfl
  · refine (builder_executes_once client .bare _).unnamed rfl fun method hmethod => ?_
    obtain rfl : "\u3000" = method := Option.some.inj hmethod
    rfl
  · exact (builder_executes_once client (.preset "Search" Decoder.value) _).spoiled "Search"
      ("term", "no term") rfl rfl rfl rfl

end Draft

end Switchboard.Client.RequestBuilder
