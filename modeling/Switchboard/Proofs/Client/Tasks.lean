import Switchboard.Client.Machine
import Switchboard.Proofs.Client.Journal
import Switchboard.Proofs.Client.Table

/-!
# What steps put into the agenda

A task is free if it goes on with nothing that was begun before: it may stand anywhere in an agenda.
Operations begin with such tasks, callbacks act by them, and so do the transport and the deadlines.
Some steps have many outcomes: opening a call, an arrival, a sweep and waiting. These outcomes are
told apart here once (`dispatch_cases`, `register_cases`, `arrive_cases`, `sweep_cases`,
`await_cases`), for all that is said of steps later.
-/

namespace Switchboard.Client

open Switchboard.Json

/-- Whether a task goes on with nothing that was begun before. -/
def Task.isFree : Task → Bool
  | .dispatch .. | .cancel _ | .restart | .close | .arrive _ | .release | .answer _ | .countPending
  | .sweep _ | .abandon _ | .forget _ | .await .. | .take _ => true
  | _ => false

theorem isFree_of_mem_arrivals {arrivals : List Arrival} {t : Task}
    (h : t ∈ arrivals.map Task.arrive) : t.isFree = true := by
  obtain ⟨a, _, rfl⟩ := List.mem_map.mp h
  rfl

/-- A call that is refused is answered, and its callback gives back the client if it holds it. -/
theorem Callback.eq_of_mem_refusal {c : Callback} {r : Reply} {t : Task}
    (h : t ∈ c.drop ++ [.answer r]) : t = .release ∨ t = .answer r := by
  unfold drop at h
  split at h
  · simpa using h
  · exact .inr (by simpa using h)

theorem Callback.isFree_of_mem_refusal {c : Callback} {r : Reply} {t : Task}
    (h : t ∈ c.drop ++ [.answer r]) : t.isFree = true := by
  rcases c.eq_of_mem_refusal h with rfl | rfl <;> rfl

theorem Action.isFree_task (a : Action) : a.task.isFree = true := by cases a <;> rfl

variable {σ : Type}

/-! ### What happens by itself -/

/-- The transport after some time in which nothing was done with it. -/
inductive Transport.Drifts [Transport σ] (now : Nat) : σ → σ → Prop where
  | refl (transport : σ) : Drifts now transport transport
  | next {transport : σ} {happening : Happening σ}
      (h : Transport.next transport now = some happening) : Drifts now transport happening.transport

namespace State

theorem upcoming_spec [Transport σ] {s s' : State σ} {instant : Nat} {tasks : List Task}
    (h : s.upcoming? = some (instant, s', tasks)) :
    ∃ transport, s' = { s with transport, clock := instant } ∧
      Transport.Drifts s.clock s.transport transport ∧ ∀ t ∈ tasks, t.isFree = true := by
  have hsweep : ∀ t ∈ [Task.sweep instant], t.isFree = true := by simp [Task.isFree]
  simp only [upcoming?] at h
  split at h
  · cases h
  · cases h
    exact ⟨s.transport, rfl, .refl _, hsweep⟩
  · rename_i happening hnext _
    cases h
    exact ⟨happening.transport, rfl, .next hnext, fun _ => isFree_of_mem_arrivals⟩
  · rename_i happening t hnext _
    split at h
    · cases h
      exact ⟨s.transport, rfl, .refl _, hsweep⟩
    · cases h
      exact ⟨happening.transport, rfl, .next hnext, fun _ => isFree_of_mem_arrivals⟩

/-! ### Outcomes of a step -/

/-- A dispatch registers its call, refuses it, or has the peer replaced before. A callback that owns
the client holds it from then on. -/
theorem dispatch_cases {s s' : State σ} {method : String} {params : Value} {callback : Callback}
    {ts : List Task} (h : s.dispatch method params callback = some (s', ts)) :
    ∃ s₁, (s₁ = s ∨ s₁ = { s with owners := s.owners + 1 }) ∧
      ((s' = s₁ ∧ ts = [.register s.clock method params callback]) ∨
        (s' = s₁ ∧ ∃ reason, ts = callback.drop ++ [.answer (.refused (.closed reason))]) ∨
        (s.restarting = false ∧ ts = [.replace, .unlock, .proceed s.clock method params callback] ∧
          ∃ event,
            s' = { s₁ with restarting := true, journal := .traced event :: s₁.journal })) := by
  simp only [dispatch] at h
  generalize hs₁ : (if callback.isOwner = true then { s with owners := s.owners + 1 } else s) = s₁
    at h
  have hcases : s₁ = s ∨ s₁ = { s with owners := s.owners + 1 } := by
    subst hs₁
    split
    · exact .inr rfl
    · exact .inl rfl
  have hclock : s₁.clock = s.clock := by rcases hcases with rfl | rfl <;> rfl
  have hrestarting : s₁.restarting = s.restarting := by rcases hcases with rfl | rfl <;> rfl
  refine ⟨s₁, hcases, ?_⟩
  rw [← hclock, ← hrestarting]
  split at h
  · cases h
    exact .inl ⟨rfl, rfl⟩
  · rename_i reason _
    split at h
    · cases h
      exact .inr (.inl ⟨rfl, reason, rfl⟩)
    · split at h
      · cases h
        exact .inr (.inl ⟨rfl, reason, rfl⟩)
      · split at h
        · cases h
        · rename_i hfree
          cases h
          exact .inr (.inr ⟨by simpa using hfree, rfl, _, rfl⟩)

theorem register_cases [Transport σ] (s : State σ) (begun : Nat) (method : String) (params : Value)
    (callback : Callback) :
    (∃ reason, s.register begun method params callback =
      (s, callback.drop ++ [.answer (.refused (.closed reason))])) ∨
    ∃ (id : Int) (table : Table) (clock : Nat) (marks : Journal) (arrivals : List Arrival)
      (failure : Option TransportFailure),
      s.table.register method s.clock s.options.requestTimeout callback = .ok (id, table) ∧
      (∀ m ∈ marks, m.isAside = true) ∧
      s.register begun method params callback =
        ({ s with
            table
            mailboxes := (s.openMailbox id begun callback).mailboxes
            transport :=
              (Transport.send s.transport s.clock (Request.line { id, method, params })).1
            clock
            journal := .transmitted (Request.line { id, method, params }) ::
              (marks ++ .registered { id, method, params } :: s.journal) },
          arrivals.map .arrive ++ [.settle id method failure]) := by
  unfold register
  split
  · rename_i reason _
    exact .inl ⟨reason, rfl⟩
  · rename_i id table hregister
    right
    obtain ⟨transport, reaction, hsend⟩ : ∃ transport reaction,
        Transport.send s.transport s.clock (Request.line { id, method, params }) =
          (transport, reaction) := ⟨_, _, rfl⟩
    refine ⟨id, table, s.clock + reaction.duration, (reaction.events.map Mark.traced).reverse ++
      [.traced
        { level := .debug
          target := clientTarget
          message := "sending request"
          fields := [("id", .int id), ("method", .str method)] }],
      reaction.arrivals, reaction.failure, hregister, fun m hm => ?_, ?_⟩
    · rcases List.mem_append.mp hm with hm | hm
      · exact isAside_of_mem_report hm
      · rw [List.mem_singleton.mp hm]
        rfl
    · cases callback <;> simp [openMailbox, hsend]

theorem receive_cases (s : State σ) (line : String) :
    (∃ e table payload event, Message.parse line = .ok (.response (some e.id) payload) ∧
      s.table.take e.id = some (e, table) ∧
      s.receive line = ({ s with table, journal := .traced event :: s.journal },
        [.complete e.id e.callback (.ofPayload payload)])) ∨
    ∃ tally event, tally.total = s.tally.total + 1 ∧
      s.receive line = ({ s with tally, journal := .traced event :: s.journal }, []) := by
  have hmalformed : Tally.total { s.tally with malformed := s.tally.malformed + 1 } =
      s.tally.total + 1 := by
    simp only [Tally.total]
    omega
  have hunmatched : Tally.total { s.tally with unmatched := s.tally.unmatched + 1 } =
      s.tally.total + 1 := by
    simp only [Tally.total]
    omega
  have hunexpected : Tally.total { s.tally with unexpected := s.tally.unexpected + 1 } =
      s.tally.total + 1 := by
    simp only [Tally.total]
    omega
  unfold receive
  split
  · rename_i id payload hparse
    unfold receiveResponse
    split
    · rename_i e table htake
      obtain ⟨i, rfl, htake⟩ := Option.bind_eq_some_iff.mp htake
      obtain rfl := (Table.take_eq_some htake).2.1
      exact .inl ⟨e, table, payload, _, hparse, htake, rfl⟩
    · exact .inr ⟨_, _, hunmatched, rfl⟩
  · exact .inr ⟨_, _, hunexpected, rfl⟩
  · exact .inr ⟨_, _, hunexpected, rfl⟩
  · exact .inr ⟨_, _, hmalformed, rfl⟩

theorem closeTable_spec (s : State σ) (reason : String) :
    ∃ marks : Journal, (∀ m ∈ marks, m.isAside = true) ∧
      s.closeTable reason =
        ({ s with table := (s.table.close reason).2, journal := marks ++ s.journal },
          s.table.entries.map fun e => .complete e.id e.callback (.error (.closed reason))) := by
  by_cases h : s.table.entries.isEmpty = true
  · refine ⟨[.closing reason], by simp [Mark.isAside], ?_⟩
    simp [closeTable, Table.close, h]
  · have hevent : ∃ event, s.closeTable reason =
        ({ s with
            table := (s.table.close reason).2
            journal := .traced event :: .closing reason :: s.journal },
          s.table.entries.map fun e => .complete e.id e.callback (.error (.closed reason))) := by
      simp only [closeTable, Table.close, h]
      exact ⟨_, rfl⟩
    obtain ⟨event, hevent⟩ := hevent
    exact ⟨[.traced event, .closing reason], by simp [Mark.isAside], hevent⟩

theorem tasks_closeTable (s : State σ) (reason : String) : (s.closeTable reason).2 =
    s.table.entries.map fun e => .complete e.id e.callback (.error (.closed reason)) := by
  obtain ⟨marks, -, heq⟩ := s.closeTable_spec reason
  rw [heq]

theorem table_closeTable (s : State σ) (reason : String) :
    (s.closeTable reason).1.table = (s.table.close reason).2 := by
  obtain ⟨marks, -, heq⟩ := s.closeTable_spec reason
  rw [heq]

theorem stopWatching_spec (s : State σ) :
    ∃ events : List Event, s.stopWatching =
      { s with
        watching := false
        journal := (events.map Mark.traced).reverse ++ s.journal } := by
  unfold stopWatching
  simp only
  split
  · exact ⟨[_], rfl⟩
  · split
    · exact ⟨[_], rfl⟩
    · exact ⟨[], rfl⟩

theorem arrive_cases [Transport σ] (s : State σ) (a : Arrival) :
    (∃ text e table payload event, a = .line text ∧
      Message.parse text = .ok (.response (some e.id) payload) ∧
      s.table.take e.id = some (e, table) ∧
      s.arrive a = ({ s with table, journal := .traced event :: .arrived a :: s.journal },
        [.complete e.id e.callback (.ofPayload payload)])) ∨
    (∃ (tally : Tally) (marks : Journal), (∀ reason, a ≠ .ended reason) ∧
      tally.total = s.tally.total + 1 ∧ (∀ m ∈ marks, m.isAside = true) ∧
      s.arrive a = ({ s with tally, journal := marks ++ .arrived a :: s.journal }, [])) ∨
    ∃ (reason : String) (marks : Journal), a = .ended reason ∧ (∀ m ∈ marks, m.isAside = true) ∧
      s.arrive a =
        ({ s with
            transport := Transport.ended s.transport
            table := (s.table.close reason).2
            journal := marks ++ .arrived a :: s.journal },
          s.table.entries.map fun e => .complete e.id e.callback (.error (.closed reason))) := by
  cases a with
  | line text =>
    rcases (s.note (.arrived (.line text))).receive_cases text with
      ⟨e, table, payload, event, hparse, htake, heq⟩ | ⟨tally, event, hmore, heq⟩
    · exact .inl ⟨text, e, table, payload, event, rfl, hparse, htake, heq⟩
    · exact .inr (.inl ⟨tally, [.traced event], by simp, hmore, by simp [Mark.isAside], heq⟩)
  | discarded length =>
    refine .inr (.inl
      ⟨{ s.tally with malformed := s.tally.malformed + 1 }, [], by simp, ?_, by simp, rfl⟩)
    simp only [Tally.total]
    omega
  | ended reason =>
    obtain ⟨marks, hmarks, heq⟩ := closeTable_spec
      { s.note (.arrived (.ended reason)) with transport := Transport.ended s.transport } reason
    exact .inr (.inr ⟨reason, marks, rfl, hmarks, heq⟩)

theorem sweep_cases (s : State σ) (now : Nat) :
    (s.table.isTimely = true ∧ s.sweep now =
      ({ s with
          table := (s.table.splitOverdue now).2
          sweeping := true
          journal := .sweeping now :: s.journal },
        (s.table.splitOverdue now).1.map .timeOut ++
          [.endSweep (s.table.splitOverdue now).1.length])) ∨
    (s.table.isTimely = false ∧
      s.sweep now = ({ s with watching := false, stalled := s.stalled || s.watching }, [])) := by
  cases timely : s.table.isTimely with
  | true => exact .inl ⟨rfl, by simp [sweep, Table.takeExpired, timely]⟩
  | false => exact .inr ⟨rfl, by simp [sweep, Table.takeExpired, timely]⟩

theorem step_sweep [Transport σ] {s : State σ} (timely : s.table.isTimely = true) (now : Nat) :
    s.step (.sweep now) = some
      ({ s with
          table := (s.table.splitOverdue now).2
          sweeping := true
          journal := .sweeping now :: s.journal },
        (s.table.splitOverdue now).1.map .timeOut ++
          [.endSweep (s.table.splitOverdue now).1.length]) := by
  rcases s.sweep_cases now with ⟨-, heq⟩ | ⟨untimely, -⟩
  · exact congrArg some heq
  · rw [timely] at untimely
    cases untimely

theorem eq_of_mem_sweep {s : State σ} {now : Nat} {t : Task} (h : t ∈ (s.sweep now).2) :
    (∃ e, t = .timeOut e) ∨ ∃ count, t = .endSweep count := by
  rcases s.sweep_cases now with ⟨-, heq⟩ | ⟨-, heq⟩ <;> rw [heq] at h
  · rcases List.mem_append.mp h with h | h
    · obtain ⟨e, -, rfl⟩ := List.mem_map.mp h
      exact .inl ⟨e, rfl⟩
    · exact .inr ⟨_, List.mem_singleton.mp h⟩
  · cases h

/-- A handle that has not yielded has a deadline of its own. -/
def HasDeadline (s : State σ) (id : Int) (deadline : Nat) : Prop :=
  ∃ b, s.mailbox? id = some b ∧ b.finished = false ∧ b.deadline = some deadline

theorem await_cases [Transport σ] (s : State σ) (id : Int) (limit : Option Nat) :
    (∃ transport clock tasks, Transport.Drifts s.clock s.transport transport ∧
      (∀ t ∈ tasks, t.isFree = true) ∧
      s.await id limit = ({ s with transport, clock }, tasks)) ∨
    ∃ deadline, s.HasDeadline id deadline ∧ s.await id limit =
      ({ s with clock := max s.clock deadline }, [.expire id deadline, .take id]) := by
  have htake : ∀ t ∈ [Task.take id], t.isFree = true := by simp [Task.isFree]
  have hstop : ∀ mailbox, s.mailbox? id = some mailbox → mailbox.finished = false →
      (∃ transport clock tasks, Transport.Drifts s.clock s.transport transport ∧
        (∀ t ∈ tasks, t.isFree = true) ∧
        s.stopWaiting id mailbox.deadline limit = ({ s with transport, clock }, tasks)) ∨
      ∃ deadline, s.HasDeadline id deadline ∧ s.stopWaiting id mailbox.deadline limit =
        ({ s with clock := max s.clock deadline }, [.expire id deadline, .take id]) := by
    intro mailbox hfound hunfinished
    cases hdeadline : mailbox.deadline with
    | some deadline =>
      cases limit with
      | some l =>
        simp only [stopWaiting]
        split
        · exact .inr ⟨deadline, ⟨mailbox, hfound, hunfinished, hdeadline⟩, rfl⟩
        · exact .inl ⟨s.transport, _, _, .refl _, htake, rfl⟩
      | none => exact .inr ⟨deadline, ⟨mailbox, hfound, hunfinished, hdeadline⟩, rfl⟩
    | none =>
      cases limit with
      | some l => exact .inl ⟨s.transport, _, _, .refl _, htake, rfl⟩
      | none => exact .inl ⟨s.transport, s.clock, _, .refl _, htake, rfl⟩
  unfold await
  split
  · rename_i i deadline hfound
    split
    · rename_i t s' tasks h
      split
      · obtain ⟨transport, rfl, hdrifts, hfree⟩ := upcoming_spec h
        refine .inl ⟨transport, t, _, hdrifts, fun u hu => ?_, rfl⟩
        rcases List.mem_append.mp hu with hu | hu
        · exact hfree u hu
        · rw [List.mem_singleton.mp hu]
          rfl
      · exact hstop _ hfound rfl
    · exact hstop _ hfound rfl
  · exact .inl ⟨s.transport, s.clock, _, .refl _, htake, rfl⟩

end State

end Switchboard.Client
