import Switchboard.Proofs.Client.Accounts
import Switchboard.Proofs.Client.Handles

/-!
# Every outcome has its cause

`Machine.Causes` says why a machine that has a call open ends it with an outcome: what its next task
is, and what about the call, the options or a mailbox goes with that. There is a cause for each kind
of outcome, so none is told for another reason, and all of them name the call's own id. Between the
cause and the callback the outcome is owed by a task. So the induction over a run keeps that
whatever is owed, and whatever was told, has a cause among the machines so far (`Caused`).
-/

namespace Switchboard.Client

open Switchboard.Json

variable {σ : Type}

/-- Why an open call ends with an outcome. -/
inductive Machine.Causes (m : Machine σ) (e : Entry) : Outcome → Prop where
  | answered {text : String} {payload : Payload}
      (task : m.agenda.head? = some (.arrive (.line text)))
      (response : Message.parse text = .ok (.response (some e.id) payload)) :
      Causes m e (.ofPayload payload)
  | cancelled
      (task : m.agenda.head? = some (.cancel e.id) ∨ m.agenda.head? = some (.abandon e.id)) :
      Causes m e (.error (.cancelled e.id))
  | swept {now : Nat} {timeout : Timespan} (task : m.agenda.head? = some (.sweep now))
      (configured : m.state.options.requestTimeout = some timeout)
      (overdue : e.createdAt + timeout.nanos ≤ now) :
      Causes m e (.error (.timeout e.id timeout.cappedMillis))
  | waited {deadline : Nat} {mailbox : Mailbox} {timeout : Timespan}
      (task : m.agenda.head? = some (.expire e.id deadline))
      (configured : m.state.options.requestTimeout = some timeout)
      (found : m.state.mailbox? e.id = some mailbox) (own : mailbox.deadline = some deadline)
      (passed : deadline ≤ m.state.clock) :
      Causes m e (.error (.timeout e.id timeout.cappedMillis))
  | closed {t : Task} {reason : String} (task : m.agenda.head? = some t)
      (closes : Closes m.state t reason) : Causes m e (.error (.closed reason))

/-- Whether a machine has ended an open call with an outcome. -/
def HasCause (machines : List (Machine σ)) (id : Int) (callback : Callback) (outcome : Outcome) :
    Prop :=
  ∃ m ∈ machines, ∃ e ∈ m.state.table.entries, e.id = id ∧ e.callback = callback ∧
    m.Causes e outcome

theorem HasCause.cons {machines : List (Machine σ)} {id : Int} {callback : Callback}
    {outcome : Outcome} (h : HasCause machines id callback outcome) (m : Machine σ) :
    HasCause (m :: machines) id callback outcome := by
  obtain ⟨m', hm', h⟩ := h
  exact ⟨m', List.mem_cons_of_mem m hm', h⟩

/-! ### Timeouts -/

/-- All open calls have the timeout of the options. -/
def Timed (m : Machine σ) : Prop :=
  ∀ e ∈ m.state.table.entries, e.timeout = m.state.options.requestTimeout

theorem entries_of_effect {s s' : State σ} {t : Task} {ts : List Task} (effect : Effect s t s' ts) :
    ∀ e ∈ s'.table.entries, e ∈ s.table.entries ∨ e.timeout = s.options.requestTimeout := by
  have key : ∀ {table : Table}, s'.table = table → (∀ e ∈ table.entries, e ∈ s.table.entries ∨
      e.timeout = s.options.requestTimeout) → ∀ e ∈ s'.table.entries, e ∈ s.table.entries ∨
      e.timeout = s.options.requestTimeout := by
    rintro _ rfl h
    exact h
  cases effect with
  | opened registered books =>
    obtain ⟨-, -, rfl⟩ := Table.register_eq_ok registered
    refine key (congrArg Books.table books) fun e he => ?_
    rcases List.mem_append.mp he with he | he
    · exact .inl he
    · rw [List.mem_singleton.mp he]
      exact .inr rfl
  | aside books | accepted _ books | counted _ _ books | timedOut books | completed books =>
    exact key (congrArg Books.table books) fun _ he => .inl he
  | reopened books => exact key (congrArg Books.table books) fun _ he => .inl he
  | withdrew taken books | took _ taken books =>
    refine key (congrArg Books.table books) fun e he => .inl ?_
    rw [(Table.take_eq_some taken).2.2] at he
    exact List.mem_of_mem_filter he
  | swept books =>
    exact key (congrArg Books.table books) fun _ he => .inl (List.mem_of_mem_filter he)
  | drained _ books => exact key (congrArg Books.table books) fun _ he => by cases he

theorem Timed.isInvariant [Transport σ] : IsInvariant (Timed (σ := σ)) where
  opening options transport := by
    intro e he
    simp [opening, initial, Table.empty] at he
  trace h := h
  outer h _ _ := h
  step hs h := by
    intro e he
    rw [show _ = _ from (handling_of_step hs).options_eq]
    rcases entries_of_effect (effect_of_step hs) e he with hold | hnew
    · exact h e hold
    · exact hnew
  reorder hperm h := fun e he => h e (hperm.mem_iff.mp he)
  part _ h := h
  resume _ _ h := h

theorem Entry.timeoutFailure_eq {e : Entry} {timeout : Timespan} (h : e.timeout = some timeout) :
    e.timeoutFailure = .timeout e.id timeout.cappedMillis := by
  simp [timeoutFailure, h]

/-! ### Causes along a run -/

/-- Whatever a client owes to callbacks and whatever it has told them has a cause. -/
structure Caused (m : Machine σ) (machines : List (Machine σ)) : Prop where
  owed : ∀ id callback outcome, .complete id callback outcome ∈ m.agenda →
    HasCause machines id callback outcome
  overdue : ∀ e, .timeOut e ∈ m.agenda →
    HasCause machines e.id e.callback (.error e.timeoutFailure)
  told : ∀ id outcome, .completed id outcome ∈ m.state.journal.calls →
    ∃ callback, HasCause machines id callback outcome

variable {s s' : State σ} {t : Task} {ts rest : List Task}

theorem Ends.causes {e : Entry} {outcome : Outcome} (ends : Ends e t outcome)
    (timed : Timed ⟨s, t :: rest⟩) (waiting : Waiting ⟨s, t :: rest⟩) (he : e ∈ s.table.entries) :
    (Machine.mk s (t :: rest)).Causes e outcome := by
  cases ends with
  | response h => exact .answered rfl h
  | cancel => exact .cancelled (.inl rfl)
  | abandon => exact .cancelled (.inr rfl)
  | expire deadline =>
    obtain ⟨⟨mailbox, hfound, -, hown⟩, hpassed⟩ := waiting.due e.id deadline rest rfl
    have hsome := waiting.timed mailbox (List.mem_of_find?_eq_some hfound) (by simp [hown])
    obtain ⟨timeout, hconfigured⟩ := Option.ne_none_iff_exists'.mp hsome
    have htimeout : e.timeout = some timeout := (timed e he).trans hconfigured
    rw [Entry.timeoutFailure_eq htimeout]
    exact .waited rfl hconfigured hfound hown hpassed

theorem causes_of_sweep {e : Entry} {now : Nat} (timed : Timed ⟨s, .sweep now :: rest⟩)
    (he : e ∈ (s.table.splitOverdue now).1) :
    e ∈ s.table.entries ∧
      (Machine.mk s (.sweep now :: rest)).Causes e (.error e.timeoutFailure) := by
  obtain ⟨hmem, hoverdue⟩ := List.mem_filter.mp he
  obtain ⟨timeout, htimeout, hpassed, -⟩ := Entry.isOverdue_iff.mp hoverdue
  rw [Entry.timeoutFailure_eq htimeout]
  exact ⟨hmem, .swept rfl ((timed e hmem).symm.trans htimeout) hpassed⟩

namespace Caused

variable {past : List (Machine σ)}

theorem owed_of_effect (h : Caused ⟨s, t :: rest⟩ past) (timed : Timed ⟨s, t :: rest⟩)
    (waiting : Waiting ⟨s, t :: rest⟩) (effect : Effect s t s' ts) {id : Int} {callback : Callback}
    {outcome : Outcome} (hmem : .complete id callback outcome ∈ ts) :
    HasCause (⟨s, t :: rest⟩ :: past) id callback outcome := by
  have hasides : ∀ {tasks : List Task}, (∀ t ∈ tasks, t.isAside = true) →
      .complete id callback outcome ∉ tasks := fun others hmem => by cases others _ hmem
  cases effect with
  | aside _ _ others | completed _ others => exact absurd hmem (hasides others)
  | opened => simp at hmem
  | accepted | counted | reopened => simp at hmem
  | withdrew => exact absurd hmem (hasides fun _ => Callback.isAside_of_mem_refusal)
  | @took _ e _ _ _ _ ends taken _ others =>
    have he := (Table.take_eq_some taken).1
    rcases List.mem_cons.mp hmem with heq | hmem
    · cases heq
      exact ⟨_, List.mem_cons_self, e, he, rfl, rfl, ends.causes timed waiting he⟩
    · exact absurd hmem (hasides others)
  | swept => simp at hmem
  | timedOut =>
    cases List.mem_singleton.mp hmem
    exact (h.overdue _ List.mem_cons_self).cons _
  | drained closes _ others =>
    rcases List.mem_append.mp hmem with hmem | hmem
    · obtain ⟨e, he, heq⟩ := List.mem_map.mp hmem
      cases heq
      exact ⟨_, List.mem_cons_self, e, he, rfl, rfl, .closed rfl closes⟩
    · exact absurd hmem (hasides others)

theorem overdue_of_effect (timed : Timed ⟨s, t :: rest⟩) (effect : Effect s t s' ts) {e : Entry}
    (hmem : .timeOut e ∈ ts) :
    HasCause (⟨s, t :: rest⟩ :: past) e.id e.callback (.error e.timeoutFailure) := by
  have hasides : ∀ {tasks : List Task}, (∀ t ∈ tasks, t.isAside = true) → .timeOut e ∉ tasks :=
    fun others hmem => by cases others _ hmem
  cases effect with
  | aside _ _ others | completed _ others => exact absurd hmem (hasides others)
  | opened | accepted | counted | reopened | timedOut => simp at hmem
  | withdrew => exact absurd hmem (hasides fun _ => Callback.isAside_of_mem_refusal)
  | took _ _ _ others =>
    simp only [List.mem_cons, reduceCtorEq, false_or] at hmem
    exact absurd hmem (hasides others)
  | swept =>
    simp only [List.mem_append, List.mem_map, List.mem_singleton, reduceCtorEq, or_false,
      Task.timeOut.injEq, exists_eq_right] at hmem
    obtain ⟨he, hcauses⟩ := causes_of_sweep timed hmem
    exact ⟨_, List.mem_cons_self, e, he, rfl, rfl, hcauses⟩
  | drained _ _ others =>
    simp only [List.mem_append, List.mem_map, reduceCtorEq, and_false, exists_false,
      false_or] at hmem
    exact absurd hmem (hasides others)

theorem told_of_effect (h : Caused ⟨s, t :: rest⟩ past) (effect : Effect s t s' ts) {id : Int}
    {outcome : Outcome} (hmem : .completed id outcome ∈ s'.journal.calls) :
    ∃ callback, HasCause past id callback outcome := by
  have key : ∀ {calls : Journal}, s'.journal.calls = calls →
      (.completed id outcome ∈ calls → ∃ callback, HasCause past id callback outcome) →
      ∃ callback, HasCause past id callback outcome := by
    rintro _ rfl hcalls
    exact hcalls hmem
  cases effect with
  | aside books | swept books | timedOut books | reopened books =>
    exact key (congrArg Books.calls books) (h.told id outcome)
  | opened _ books =>
    refine key (congrArg Books.calls books) fun hmem => h.told id outcome ?_
    simpa [State.books] using hmem
  | accepted _ books | withdrew _ books | counted _ _ books =>
    refine key (congrArg Books.calls books) fun hmem => h.told id outcome ?_
    simpa [State.books] using hmem
  | took _ _ books | drained _ books =>
    refine key (congrArg Books.calls books) fun hmem => h.told id outcome ?_
    rcases List.mem_append.mp hmem with hmem | hmem
    · obtain ⟨a, ha⟩ := Task.mem_arrivalMarks hmem
      cases ha
    · exact hmem
  | @completed _ callback _ _ _ books =>
    refine key (congrArg Books.calls books) fun hmem => ?_
    rcases List.mem_cons.mp hmem with heq | hmem
    · cases heq
      exact ⟨callback, h.owed id callback outcome List.mem_cons_self⟩
    · exact h.told id outcome hmem

theorem of_effect (h : Caused ⟨s, t :: rest⟩ past) (timed : Timed ⟨s, t :: rest⟩)
    (waiting : Waiting ⟨s, t :: rest⟩) (effect : Effect s t s' ts) :
    Caused ⟨s', ts ++ rest⟩ (⟨s, t :: rest⟩ :: past) := by
  refine ⟨fun id callback outcome hmem => ?_, fun e hmem => ?_, fun id outcome hmem => ?_⟩
  · rcases List.mem_append.mp hmem with hmem | hmem
    · exact h.owed_of_effect timed waiting effect hmem
    · exact (h.owed id callback outcome (List.mem_cons_of_mem t hmem)).cons _
  · rcases List.mem_append.mp hmem with hmem | hmem
    · exact overdue_of_effect timed effect hmem
    · exact (h.overdue e (List.mem_cons_of_mem t hmem)).cons _
  · obtain ⟨callback, hcause⟩ := h.told_of_effect effect hmem
    exact ⟨callback, hcause.cons _⟩

theorem aside {m : Machine σ} {state : State σ} {tasks : List Task} (h : Caused m past)
    (journal : state.journal = m.state.journal) (asides : ∀ t ∈ tasks, t.isAside = true) :
    Caused ⟨state, tasks⟩ (m :: past) := by
  refine ⟨fun _ _ _ hmem => ?_, fun _ hmem => ?_, fun id outcome hmem => ?_⟩
  · cases asides _ hmem
  · cases asides _ hmem
  · rw [journal] at hmem
    obtain ⟨callback, hcause⟩ := h.told id outcome hmem
    exact ⟨callback, hcause.cons _⟩

variable [Transport σ]

theorem of_connect {options : ClientOptions} {transport : σ}
    (h : connect options transport = .ok s) : Caused ⟨s, []⟩ [] := by
  refine ⟨fun _ _ _ => by simp, fun _ => by simp, fun id outcome hmem => ?_⟩
  have hnone : ∀ id outcome, .completed id outcome ∉ s.journal.calls := by
    refine connect_induction
      (P := fun s => ∀ id outcome, .completed id outcome ∉ s.journal.calls) h ?_ ?_ ?_
    · intro id outcome hmem
      have hcalls : (opening options transport).state.journal.calls = [] := by
        simpa [opening, initial] using
          Journal.calls_report (Transport.start transport 0).2.events []
      rw [hcalls] at hmem
      cases hmem
    · intro s a hentries hs id outcome hmem
      have key : ∀ {calls : Journal}, (s.arrive a).1.journal.calls = calls →
          .completed id outcome ∈ calls := fun heq => heq ▸ hmem
      generalize hts : (s.arrive a).2 = ts
      have heffect := s.effect_arrive a
      rw [hts] at heffect
      cases heffect with
      | aside books => exact hs id outcome (key (congrArg Books.calls books))
      | took _ taken =>
        have he := (Table.take_eq_some taken).1
        rw [hentries] at he
        cases he
      | counted _ _ books =>
        have hmem := key (congrArg Books.calls books)
        simp only [List.mem_cons, reduceCtorEq, false_or] at hmem
        exact hs id outcome hmem
      | drained _ books =>
        have hmem := key (congrArg Books.calls books)
        simp only [Task.arrivalMarks, List.singleton_append, List.mem_cons, reduceCtorEq,
          false_or] at hmem
        exact hs id outcome hmem
    · intro s level message fields hs id outcome hmem
      exact hs id outcome (by simpa using hmem)
  exact absurd hmem (hnone id outcome)

theorem of_run {m : Machine σ} (run : Run (m :: past)) : Caused m past := by
  generalize hall : m :: past = all at run
  induction run generalizing m past with
  | connected h =>
    cases hall
    exact .of_connect h
  | begun run later h ih =>
    cases hall
    refine (ih rfl).aside (by rfl) fun u hu => ?_
    rw [List.mem_singleton.mp hu]
    exact Task.isAside_of_isFree (Task.isFree_of_isOperation h)
  | happened run h ih =>
    cases hall
    obtain ⟨transport, rfl, -, free⟩ := State.upcoming_spec h
    exact (ih rfl).aside (by rfl) fun u hu => Task.isAside_of_isFree (free u hu)
  | @stepped m m' past run h ih =>
    cases hall
    obtain ⟨t, rest, s, ts, hagenda, hs, rfl⟩ := Machine.step_eq_some h
    obtain ⟨state, agenda⟩ := m
    subst hagenda
    exact (ih rfl).of_effect (Timed.isInvariant.holds run) (Waiting.isInvariant.holds run)
      (effect_of_step hs)
  | reordered run h ih =>
    cases hall
    obtain ⟨howed, hoverdue, htold⟩ := ih rfl
    refine ⟨fun id callback outcome hmem => (howed id callback outcome hmem).cons _,
      fun e hmem => (hoverdue e hmem).cons _, fun id outcome hmem => ?_⟩
    obtain ⟨callback, hcause⟩ := htold id outcome hmem
    exact ⟨callback, hcause.cons _⟩
  | parted run waits ih =>
    cases hall
    exact (ih rfl).aside rfl (by simp)
  | resumed run later own due ih =>
    cases hall
    exact (ih rfl).aside (by rfl) (by simp [Task.isAside])

end Caused

end Switchboard.Client
