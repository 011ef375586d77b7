import Switchboard.Proofs.Client.Accounts

/-!
# Every line has one effect

A line of the peer answers an open call or is counted as an anomaly of one kind. `State.HasEffect`
says of each of the four what it takes and all that it does, and each line has exactly one of them.
A line that was dropped is counted as well, and nothing else is ever counted, so the lines of a
whole run balance: they are the answers told, those about to be told and the anomalies (`Balanced`).
-/

namespace Switchboard.Client

open Switchboard.Json

variable {σ : Type}

inductive LineEffect where
  | answer
  | unmatched
  | unexpected
  | malformed
  deriving DecidableEq, Repr

def Tally.after (t : Tally) : LineEffect → Tally
  | .answer => t
  | .unmatched => { t with unmatched := t.unmatched + 1 }
  | .unexpected => { t with unexpected := t.unexpected + 1 }
  | .malformed => { t with malformed := t.malformed + 1 }

theorem Tally.after_injective (t : Tally) : Function.Injective t.after := by
  intro effect effect' h
  have hmalformed := congrArg Tally.malformed h
  have hunmatched := congrArg Tally.unmatched h
  have hunexpected := congrArg Tally.unexpected h
  cases effect <;> cases effect' <;>
    simp [after] at hmalformed hunmatched hunexpected ⊢

variable [Transport σ]

/-- Whether a line does nothing but change the counters. -/
def State.OnlyCounts (s : State σ) (line : String) (effect : LineEffect) : Prop :=
  ∃ event, s.arrive (.line line) =
    ({ s with
        tally := s.tally.after effect
        journal := .traced event :: .arrived (.line line) :: s.journal }, [])

/-- The effects of a line. As an answer it takes one call out of the table, whose callback is then
told the payload. -/
def State.HasEffect (s : State σ) (line : String) : LineEffect → Prop
  | .answer => ∃ (e : Entry) (payload : Payload) (entries : List Entry) (event : Event),
      Message.parse line = .ok (.response (some e.id) payload) ∧
      s.table.entries.Perm (e :: entries) ∧
      s.arrive (.line line) =
        ({ s with
            table := { s.table with entries }
            journal := .traced event :: .arrived (.line line) :: s.journal },
          [.complete e.id e.callback (.ofPayload payload)])
  | .unmatched =>
      (∃ id payload, Message.parse line = .ok (.response id payload) ∧
        ∀ i, id = some i → i ∉ s.table.ids) ∧
      s.OnlyCounts line .unmatched
  | .unexpected =>
      ((∃ id method, Message.parse line = .ok (.request id method)) ∨
        ∃ method params, Message.parse line = .ok (.notification method params)) ∧
      s.OnlyCounts line .unexpected
  | .malformed =>
      (∃ fault, Message.parse line = .error fault) ∧
      s.OnlyCounts line .malformed

/-! ### One line -/

namespace State

variable {s : State σ}

theorem hasEffect_of_response {line : String} {id : Option Int} {payload : Payload}
    (once : ∀ i, s.table.ids.count i ≤ 1)
    (h : Message.parse line = .ok (.response id payload)) :
    s.HasEffect line .answer ∨ s.HasEffect line .unmatched := by
  cases htake : id.bind s.table.take with
  | some found =>
    obtain ⟨e, table⟩ := found
    obtain ⟨i, rfl, htake⟩ := Option.bind_eq_some_iff.mp htake
    have hperm := Table.perm_take htake (once i)
    obtain ⟨-, rfl, rfl⟩ := Table.take_eq_some htake
    have harrive : ∃ event, s.arrive (.line line) =
        ({ s with
            table := { s.table with entries := s.table.entries.filter (·.id != e.id) }
            journal := .traced event :: .arrived (.line line) :: s.journal },
          [.complete e.id e.callback (.ofPayload payload)]) := by
      simp only [arrive, receive, h, receiveResponse, note, htake]
      exact ⟨_, rfl⟩
    obtain ⟨event, harrive⟩ := harrive
    exact .inl ⟨e, payload, _, event, h, hperm, harrive⟩
  | none =>
    right
    refine ⟨⟨id, payload, h, fun i hi => ?_⟩, ?_⟩
    · subst hi
      exact Table.take_eq_none_iff.mp htake
    · simp only [OnlyCounts, arrive, receive, h, receiveResponse, note, htake]
      exact ⟨_, rfl⟩

theorem exists_effect (once : ∀ i, s.table.ids.count i ≤ 1) (line : String) :
    ∃ effect, s.HasEffect line effect := by
  cases h : Message.parse line with
  | error fault =>
    refine ⟨.malformed, ⟨fault, h⟩, ?_⟩
    simp only [OnlyCounts, arrive, receive, h]
    exact ⟨_, rfl⟩
  | ok message =>
    cases message with
    | response id payload =>
      rcases hasEffect_of_response once h with heffect | heffect
      · exact ⟨.answer, heffect⟩
      · exact ⟨.unmatched, heffect⟩
    | request id method =>
      refine ⟨.unexpected, .inl ⟨id, method, h⟩, ?_⟩
      simp only [OnlyCounts, arrive, receive, h]
      exact ⟨_, rfl⟩
    | notification method params =>
      refine ⟨.unexpected, .inr ⟨method, params, h⟩, ?_⟩
      simp only [OnlyCounts, arrive, receive, h]
      exact ⟨_, rfl⟩

theorem tally_of_hasEffect {line : String} {effect : LineEffect} (h : s.HasEffect line effect) :
    (s.arrive (.line line)).1.tally = s.tally.after effect := by
  cases effect with
  | answer =>
    obtain ⟨e, payload, entries, event, -, -, heq⟩ := h
    rw [heq]
    rfl
  | unmatched | unexpected | malformed =>
    obtain ⟨-, event, heq⟩ := h
    rw [heq]

theorem HasEffect.unique {line : String} {effect effect' : LineEffect}
    (h : s.HasEffect line effect) (h' : s.HasEffect line effect') : effect = effect' :=
  s.tally.after_injective ((tally_of_hasEffect h).symm.trans (tally_of_hasEffect h'))

end State

/-! ### All lines of a run -/

def Task.isAnswer : Task → Bool
  | .complete _ _ outcome => outcome.isAnswer
  | _ => false

def owedAnswers (tasks : List Task) : Nat := tasks.countP Task.isAnswer

@[simp] theorem owedAnswers_nil : owedAnswers [] = 0 := rfl

@[simp] theorem owedAnswers_cons (t : Task) (tasks : List Task) :
    owedAnswers (t :: tasks) = owedAnswers tasks + if t.isAnswer then 1 else 0 := List.countP_cons

@[simp] theorem owedAnswers_append (tasks tasks' : List Task) :
    owedAnswers (tasks ++ tasks') = owedAnswers tasks + owedAnswers tasks' := List.countP_append

theorem owedAnswers_eq_zero {tasks : List Task} (h : ∀ t ∈ tasks, t.isAnswer = false) :
    owedAnswers tasks = 0 := by
  rw [owedAnswers, List.countP_eq_zero]
  exact fun t ht => by simp [h t ht]

theorem Task.isAnswer_of_isAside {t : Task} (h : t.isAside = true) : t.isAnswer = false := by
  cases t <;> first | rfl | cases h

theorem owedAnswers_of_isAside {tasks : List Task} (h : ∀ t ∈ tasks, t.isAside = true) :
    owedAnswers tasks = 0 := owedAnswers_eq_zero fun t ht => Task.isAnswer_of_isAside (h t ht)

theorem Outcome.isAnswer_ofPayload (payload : Payload) : (ofPayload payload).isAnswer = true := by
  cases payload <;> rfl

def Balanced (m : Machine σ) : Prop :=
  m.state.journal.calls.lines =
    m.state.journal.calls.answers + owedAnswers m.agenda + m.state.tally.total

namespace Balanced

variable {s s' : State σ} {t : Task} {ts rest : List Task}

omit [Transport σ] in
theorem of_moved (h : Balanced ⟨s, t :: rest⟩) (marks : Journal)
    (calls : s'.journal.calls = marks ++ s.journal.calls)
    (move : marks.lines + owedAnswers [t] + s.tally.total =
      marks.answers + owedAnswers ts + s'.tally.total) : Balanced ⟨s', ts ++ rest⟩ := by
  have hlines : Journal.lines (marks ++ s.journal.calls) =
      marks.lines + s.journal.calls.lines := List.countP_append
  have hanswers : Journal.answers (marks ++ s.journal.calls) =
      marks.answers + s.journal.calls.answers := List.countP_append
  simp only [Balanced, calls, hlines, hanswers, owedAnswers_append, owedAnswers_cons,
    owedAnswers_nil] at h move ⊢
  omega

omit [Transport σ] in
/-- **Every step keeps the balance.** -/
theorem of_effect (h : Balanced ⟨s, t :: rest⟩) (effect : Effect s t s' ts) :
    Balanced ⟨s', ts ++ rest⟩ := by
  cases effect with
  | aside books self others =>
    refine h.of_moved [] (congrArg Books.calls books) ?_
    rw [show s'.tally = s.tally from congrArg Books.tally books, owedAnswers_of_isAside others]
    simp [Task.isAnswer_of_isAside self, Journal.lines, Journal.answers]
  | @opened _ method params _ id table _ arrivals failure registered books =>
    refine h.of_moved [_, _] (congrArg Books.calls books) ?_
    rw [show s'.tally = s.tally from congrArg Books.tally books, owedAnswers_append,
      owedAnswers_of_isAside fun _ => isAside_of_mem_arrivals]
    rfl
  | accepted reason books =>
    refine h.of_moved [_] (congrArg Books.calls books) ?_
    rw [show s'.tally = s.tally from congrArg Books.tally books]
    rfl
  | withdrew taken books =>
    refine h.of_moved [_] (congrArg Books.calls books) ?_
    rw [show s'.tally = s.tally from congrArg Books.tally books,
      owedAnswers_of_isAside fun _ => Callback.isAside_of_mem_refusal]
    rfl
  | @took _ e outcome table _ ts ends taken books others =>
    refine h.of_moved _ (congrArg Books.calls books) ?_
    rw [show s'.tally = s.tally from congrArg Books.tally books,
      owedAnswers_cons (.complete e.id e.callback outcome), owedAnswers_of_isAside others]
    cases ends with
    | response hparse =>
      simp [Task.isAnswer, Outcome.isAnswer_ofPayload, Task.arrivalMarks, Journal.lines,
        Journal.answers]
    | cancel | abandon | expire => rfl
  | @counted a tally _ more line books =>
    refine h.of_moved [.arrived a] (congrArg Books.calls books) ?_
    rw [show s'.tally = tally from congrArg Books.tally books, more]
    cases a with
    | ended reason => exact absurd rfl (line reason)
    | line text | discarded length =>
      simp [Journal.lines, Journal.answers, Task.isAnswer]
      omega
  | @swept now _ books =>
    refine h.of_moved [] (congrArg Books.calls books) ?_
    have hoverdue : ∀ u ∈ (s.table.splitOverdue now).1.map Task.timeOut, u.isAnswer = false := by
      intro u hu
      obtain ⟨e, _, rfl⟩ := List.mem_map.mp hu
      rfl
    rw [show s'.tally = s.tally from congrArg Books.tally books, owedAnswers_append,
      owedAnswers_eq_zero hoverdue]
    rfl
  | timedOut books =>
    refine h.of_moved [] (congrArg Books.calls books) ?_
    rw [show s'.tally = s.tally from congrArg Books.tally books]
    rfl
  | @drained t reason _ ts closes books others =>
    refine h.of_moved _ (congrArg Books.calls books) ?_
    have hfailures : ∀ u ∈ s.table.entries.map
        (fun e => Task.complete e.id e.callback (.error (.closed reason))), u.isAnswer = false := by
      intro u hu
      obtain ⟨e, _, rfl⟩ := List.mem_map.mp hu
      rfl
    rw [show s'.tally = s.tally from congrArg Books.tally books, owedAnswers_append,
      owedAnswers_of_isAside others, owedAnswers_eq_zero hfailures]
    cases closes <;> rfl
  | @completed _ _ outcome _ _ books others =>
    refine h.of_moved [_] (congrArg Books.calls books) ?_
    rw [show s'.tally = s.tally from congrArg Books.tally books, owedAnswers_of_isAside others]
    by_cases hanswer : outcome.isAnswer <;>
      simp [Task.isAnswer, Journal.lines, Journal.answers, hanswer]
  | reopened books =>
    refine h.of_moved [] (congrArg Books.calls books) ?_
    rw [show s'.tally = s.tally from congrArg Books.tally books]
    rfl

theorem isInvariant : IsInvariant (Balanced (σ := σ)) where
  opening options transport := by
    have hcalls : (opening options transport).state.journal.calls = [] := by
      simpa [opening, initial] using Journal.calls_report (Transport.start transport 0).2.events []
    rw [Balanced, hcalls, show (opening options transport).agenda = List.map _ _ from rfl,
      owedAnswers_of_isAside fun _ => isAside_of_mem_arrivals]
    simp [opening, initial, Tally.zero, Tally.total, Journal.lines, Journal.answers]
  trace h := by simpa [Balanced] using h
  outer h _ free := by
    have hasides := fun t ht => Task.isAside_of_isFree (free t ht)
    simpa [Balanced, owedAnswers_of_isAside hasides] using h
  step hs h := h.of_effect (effect_of_step hs)
  reorder _ h := h
  part waits h := by
    have hasides := fun t ht => Task.isAside_of_isWait (waits t ht)
    simpa [Balanced, owedAnswers_of_isAside hasides] using h
  resume _ _ h := h

end Balanced

def fourArrivals : List Task :=
  [.dispatch "a" .null .mailbox,
    .arrive (.line "\x7b\"jsonrpc\":\"2.0\",\"id\":1,\"result\":7\x7d"),
    .arrive (.line "\x7b\"jsonrpc\":\"2.0\",\"id\":1,\"result\":7\x7d"), .arrive (.line "?"),
    .arrive (.discarded 9)]

end Switchboard.Client
