import Switchboard.Client.Handle
import Switchboard.Proofs.Client.Mailboxes

/-!
# Handles yield once

A handle that was not given up is pending as long as its call is (`HasHandle`), then it has an
outcome that can be taken (`HasOutcome`), and after that it has yielded (`HasYielded`). Taking is one
equation for each of these. Waiting goes on with the tasks of the client until the outcome is there
or the limit has passed (`Awaiting`).

No completion stands behind a task of a handle that waits (`WaitsLast`), so between any two of its
steps others find the client at rest, and whatever they do the handle finds its call open, or the
outcome there. It is so when its deadline has passed (`Machine.Expires`) and when it takes the
outcome (`Machine.Takes`).
-/

namespace Switchboard.Client

open Switchboard.Json

variable {σ : Type}

/-! ### Tasks of handles -/

/-- The tasks of handles. They come from outside, and waiting goes on with them. -/
def Task.isOfHandle : Task → Bool
  | .take _ | .forget _ | .await .. | .abandon _ => true
  | _ => false

theorem isOfHandle_of_mem_arrivals {arrivals : List Arrival} {t : Task}
    (h : t ∈ arrivals.map Task.arrive) : t.isOfHandle = false := by
  obtain ⟨a, _, rfl⟩ := List.mem_map.mp h
  rfl

theorem Callback.isOfHandle_of_mem_refusal {c : Callback} {r : Reply} {t : Task}
    (h : t ∈ c.drop ++ [.answer r]) : t.isOfHandle = false := by
  rcases c.eq_of_mem_refusal h with rfl | rfl <;> rfl

theorem Action.isOfHandle_task (a : Action) : a.task.isOfHandle = false := by cases a <;> rfl

namespace State

variable {s s' : State σ} {t : Task} {ts : List Task}

theorem isOfHandle_of_mem_closeTable {reason : String} (h : t ∈ (s.closeTable reason).2) :
    t.isOfHandle = false := by
  rw [tasks_closeTable] at h
  obtain ⟨e, _, rfl⟩ := List.mem_map.mp h
  rfl

theorem isOfHandle_of_mem_dispatch {method : String} {params : Value} {callback : Callback}
    (h : s.dispatch method params callback = some (s', ts)) : ∀ u ∈ ts, u.isOfHandle = false := by
  obtain ⟨s₁, -, ⟨-, rfl⟩ | ⟨-, reason, rfl⟩ | ⟨-, rfl, -⟩⟩ := dispatch_cases h
  · simp [Task.isOfHandle]
  · exact fun _ => callback.isOfHandle_of_mem_refusal
  · simp [Task.isOfHandle]

theorem isOfHandle_of_step [Transport σ] (h : s.step t = some (s', ts)) (ht : t.isAwait = false) :
    ∀ u ∈ ts, u.isOfHandle = false := by
  have key : ∀ {result : State σ × List Task}, some result = some (s', ts) →
      (∀ u ∈ result.2, u.isOfHandle = false) → ∀ u ∈ ts, u.isOfHandle = false := by
    rintro _ ⟨⟩ hall
    exact hall
  have hlist : ∀ {front : List Task} {last : List Task}, (∀ u ∈ front, u.isOfHandle = false) →
      (∀ u ∈ last, u.isOfHandle = false) → ∀ u ∈ front ++ last, u.isOfHandle = false :=
    fun hfront hlast u hu => (List.mem_append.mp hu).elim (hfront u) (hlast u)
  cases t with
  | await => cases ht
  | dispatch => exact isOfHandle_of_mem_dispatch h
  | proceed begun method params callback =>
    refine key h ?_
    unfold proceed
    split
    · exact fun _ => callback.isOfHandle_of_mem_refusal
    · simp [Task.isOfHandle]
  | register begun method params callback =>
    refine key h ?_
    rcases s.register_cases begun method params callback with
      ⟨reason, heq⟩ | ⟨id, table, clock, marks, arrivals, failure, -, -, heq⟩
    · rw [heq]
      exact fun _ => callback.isOfHandle_of_mem_refusal
    · rw [heq]
      exact hlist (fun _ => isOfHandle_of_mem_arrivals) (by simp [Task.isOfHandle])
  | settle id method failure =>
    refine key h ?_
    unfold settle
    split
    · simp [Task.isOfHandle]
    · simp only
      split
      · exact fun _ => Callback.isOfHandle_of_mem_refusal
      · simp [Task.isOfHandle]
  | cancel id | abandon id =>
    refine key h ?_
    simp only [cancel, abandon]
    split <;> simp [Task.isOfHandle]
  | expire id deadline =>
    refine key h ?_
    simp only [expire]
    split <;> simp [Task.isOfHandle]
  | restart =>
    simp only [step, restart] at h
    split at h
    · cases h
    · exact key h (by simp [Task.isOfHandle])
  | replace =>
    refine key h ?_
    unfold replace
    split
    · simp [Task.isOfHandle]
    · exact hlist (fun _ => isOfHandle_of_mem_closeTable) (by simp [Task.isOfHandle])
  | launch =>
    exact key h (hlist (fun _ => isOfHandle_of_mem_arrivals) (by simp [Task.isOfHandle]))
  | reopen failure => cases failure <;> exact key h (by simp [reopen, Task.isOfHandle])
  | close =>
    refine key h ?_
    unfold close
    split
    · simp [Task.isOfHandle]
    · exact hlist (fun _ => isOfHandle_of_mem_closeTable) (by simp [Task.isOfHandle])
  | closeTransport => exact key h fun _ => isOfHandle_of_mem_arrivals
  | arrive a =>
    refine key h ?_
    rcases s.arrive_cases a with ⟨text, e, table, payload, event, -, -, -, heq⟩ |
      ⟨tally, marks, -, -, -, heq⟩ | ⟨reason, marks, -, -, heq⟩ <;>
    · rw [heq]
      simp [Task.isOfHandle]
  | complete id callback outcome =>
    cases callback <;> exact key h (by simp [complete, Task.isOfHandle])
  | script label outcome actions replies owner =>
    refine key h ?_
    cases actions with
    | nil =>
      simp only [script]
      split <;> simp [Task.isOfHandle]
    | cons a rest =>
      simp only [script]
      split
      · simp
      · have hfirst : ∀ u ∈ [a.task], u.isOfHandle = false := by simp [a.isOfHandle_task]
        exact hlist hfirst (by simp [Task.isOfHandle])
  | release =>
    refine key h ?_
    unfold release
    split <;> simp [Task.isOfHandle]
  | sweep now =>
    refine key h fun u hu => ?_
    rcases State.eq_of_mem_sweep hu with ⟨e, rfl⟩ | ⟨count, rfl⟩ <;> rfl
  | endSweep count => exact key h (by simp [endSweep])
  | collect | timeOut => exact key h (by simp [timeOut, Task.isOfHandle])
  | unlock | answer | countPending | take | forget => exact key h (by simp)

theorem isOfHandle_of_upcoming [Transport σ] {instant : Nat} {tasks : List Task}
    (h : s.upcoming? = some (instant, s', tasks)) : ∀ u ∈ tasks, u.isOfHandle = false := by
  have hsweep : ∀ u ∈ [Task.sweep instant], u.isOfHandle = false := by simp [Task.isOfHandle]
  simp only [upcoming?] at h
  split at h
  · cases h
  · cases h
    exact hsweep
  · cases h
    exact fun _ => isOfHandle_of_mem_arrivals
  · split at h
    · cases h
      exact hsweep
    · cases h
      exact fun _ => isOfHandle_of_mem_arrivals

/-! ### Handles -/

/-- A handle has not yielded, and was not given up. -/
def HasHandle (s : State σ) (id : Int) : Prop := ∃ b, s.mailbox? id = some b ∧ b.finished = false

/-- The mailbox of a handle holds an outcome that was not taken, the one that its call was completed
with. -/
structure HasOutcome (s : State σ) (id : Int) (o : Outcome) : Prop where
  inside : ∃ b, s.mailbox? id = some b ∧ b.finished = false ∧ b.outcome = some o
  told : .completed id o ∈ s.journal
  once : s.journal.completions id = 1

theorem HasOutcome.unique {id : Int} {o o' : Outcome} (h : s.HasOutcome id o)
    (h' : s.HasOutcome id o') : o = o' := by
  obtain ⟨b, hb, -, ho⟩ := h.inside
  obtain ⟨b', hb', -, ho'⟩ := h'.inside
  rw [hb] at hb'
  obtain rfl := Option.some.inj hb'
  exact Option.some.inj (ho.symm.trans ho')

end State

theorem Kept.hasOutcome {m : Machine σ} (h : Kept m) {id : Int} {b : Mailbox} {o : Outcome}
    (hb : m.state.mailbox? id = some b) (hfinished : b.finished = false)
    (ho : b.outcome = some o) : m.state.HasOutcome id o := by
  have htold := (h.fits id b hb).full o ho
  have hone := h.booked_once hb
  have : 0 < m.state.journal.completions id :=
    List.countP_pos_iff.mpr ⟨_, htold, by simp⟩
  exact ⟨⟨b, hb, hfinished, ho⟩, htold, by omega⟩

theorem Kept.take_of_open {m : Machine σ} (h : Kept m) {id : Int}
    (hbox : m.state.mailbox? id ≠ none) (hopen : id ∈ m.state.table.ids) :
    ∃ e, e.id = id ∧ e.callback = .mailbox ∧ m.state.table.take id = some (e,
      { m.state.table with entries := m.state.table.entries.filter (·.id != id) }) := by
  cases htake : m.state.table.take id with
  | none => exact absurd hopen (Table.take_eq_none_iff.mp htake)
  | some result =>
    obtain ⟨e, table⟩ := result
    obtain ⟨he, rfl, rfl⟩ := Table.take_eq_some htake
    exact ⟨e, rfl, h.ours (e.id, e.callback)
      (List.mem_append_left _ (List.mem_map.mpr ⟨e, he, rfl⟩)) hbox, rfl⟩

/-- **The call of a handle is open, or its mailbox holds the outcome,** unless its completion is
owed. -/
theorem Kept.pending_or_outcome {m : Machine σ} (h : Kept m) {id : Int}
    (held : m.state.HasHandle id) (hnone : id ∉ owedIds m.agenda) :
    (id ∈ m.state.table.ids ∧ ∀ o, ¬ m.state.HasOutcome id o) ∨
      (id ∉ m.state.table.ids ∧ ∃ o, m.state.HasOutcome id o) := by
  obtain ⟨b, hb, hfinished⟩ := held
  have hone := h.booked_once hb
  rw [List.count_eq_zero.mpr hnone, Nat.add_zero] at hone
  by_cases hopen : id ∈ m.state.table.ids
  · have := List.count_pos_iff.mpr hopen
    exact .inl ⟨hopen, fun o ho => by have := ho.once; omega⟩
  · rw [List.count_eq_zero.mpr hopen, Nat.zero_add] at hone
    refine .inr ⟨hopen, ?_⟩
    cases ho : b.outcome with
    | none =>
      have := ((h.fits id b hb).empty ho).1
      omega
    | some o => exact ⟨o, h.hasOutcome hb hfinished ho⟩

namespace State

variable {s s' : State σ} {t : Task} {ts rest : List Task}

/-- What may become of a handle in a step: it stays, it yields, it is given up, or its call was not
sent. -/
theorem HasHandle.of_step [Transport σ] {id : Int} (held : s.HasHandle id)
    (kept : Kept ⟨s, t :: rest⟩) (hs : s.step t = some (s', ts)) :
    s'.HasHandle id ∨ (t = .take id ∧ ∃ o, s.HasOutcome id o ∧ s'.reply = .outcome o) ∨
      t = .forget id ∨ ∃ method failure, t = .settle id method (some failure) ∧
        id ∈ s.table.ids := by
  obtain ⟨b, hb, hfinished⟩ := held
  cases kept.posting_of_step hs id with
  | same box => exact .inl ⟨b, box.trans hb, hfinished⟩
  | opened _ next =>
    rw [next, kept.mailbox?_nextId] at hb
    cases hb
  | posted _ box =>
    rw [hb] at box
    exact .inl ⟨_, box, hfinished⟩
  | yielded task _ former unfinished full reply =>
    exact .inr (.inl ⟨task, _, kept.hasOutcome former unfinished full, reply⟩)
  | removed task => exact .inr (.inr task)

/-- The mailbox of a handle from which the outcome of its call was taken. -/
structure HasYielded (s : State σ) (id : Int) (o : Outcome) : Prop where
  inside : ∃ b, s.mailbox? id = some b ∧ b.finished = true ∧ b.outcome = some o
  told : .completed id o ∈ s.journal
  once : s.journal.completions id = 1

/-! ### Taking the outcome -/

theorem take_of_pending {tasks : List Task} (kept : Kept ⟨s, tasks⟩) {id : Int}
    (held : s.HasHandle id) (hopen : id ∈ s.table.ids) : s.take id = s.answer .pending := by
  obtain ⟨b, hb, hfinished⟩ := held
  have hnone : b.outcome = none := by
    cases ho : b.outcome with
    | none => rfl
    | some o =>
      have hone := kept.booked_once hb
      have htold := (kept.hasOutcome hb hfinished ho).once
      have := List.count_pos_iff.mpr hopen
      simp only at hone htold
      omega
  simp [take, hb, hfinished, hnone]

theorem take_of_outcome {id : Int} {o : Outcome} (h : s.HasOutcome id o) :
    s.take id = (s.updateMailbox id fun b => { b with finished := true }).answer (.outcome o) := by
  obtain ⟨b, hb, hfinished, ho⟩ := h.inside
  simp [take, hb, hfinished, ho]

theorem HasOutcome.hasYielded {id : Int} {o : Outcome} (h : s.HasOutcome id o) :
    (s.take id).HasYielded id o := by
  obtain ⟨b, hb, -, ho⟩ := h.inside
  rw [take_of_outcome h]
  refine ⟨⟨{ b with finished := true }, ?_, rfl, ho⟩, h.told, h.once⟩
  have htaken := s.mailbox?_updateMailbox id (f := fun b => { b with finished := true })
    (fun _ => rfl) id
  rw [if_pos rfl, hb] at htaken
  exact htaken

theorem take_of_yielded {id : Int} {o : Outcome} (h : s.HasYielded id o) :
    s.take id = s.answer (.refused (alreadyTaken id)) := by
  obtain ⟨b, hb, hfinished, -⟩ := h.inside
  simp [take, hb, hfinished]

/-! ### Waiting -/

theorem await_goes_on [Transport σ] (s : State σ) (id : Int) (limit : Option Nat) :
    ∃ front last, (s.await id limit).2 = front ++ [last] ∧
      (last = .await id limit ∨ last = .take id) ∧ ∀ u ∈ front, u.isOfHandle = false := by
  have hstop : ∀ deadline : Option Nat, ∃ front last,
      (s.stopWaiting id deadline limit).2 = front ++ [last] ∧
        (last = .await id limit ∨ last = .take id) ∧ ∀ u ∈ front, u.isOfHandle = false := by
    have hexpire : ∀ d, ∀ u ∈ [Task.expire id d], u.isOfHandle = false := by
      simp [Task.isOfHandle]
    intro deadline
    unfold stopWaiting
    cases deadline with
    | none => cases limit <;> exact ⟨[], .take id, rfl, .inr rfl, by simp⟩
    | some d =>
      cases limit with
      | none => exact ⟨_, .take id, rfl, .inr rfl, hexpire d⟩
      | some l =>
        simp only
        split
        · exact ⟨_, .take id, rfl, .inr rfl, hexpire d⟩
        · exact ⟨[], .take id, rfl, .inr rfl, by simp⟩
  unfold await
  split
  · split
    · rename_i instant s' tasks h
      split
      · exact ⟨tasks, .await id limit, rfl, .inl rfl, isOfHandle_of_upcoming h⟩
      · exact hstop _
    · exact hstop _
  · exact ⟨[], .take id, rfl, .inr rfl, by simp⟩

end State

theorem Accounts.settled {m : Machine σ} (h : Accounts m) {id : Int}
    (accepted : .accepted id ∈ m.state.journal) : id ∉ unsettledIds m.agenda := by
  intro hmem
  have hanswered := h.answered id
  have := m.state.table.allotted_le_one id
  have hone := List.count_pos_iff.mpr (Journal.mem_acceptedIds.mpr accepted)
  have := List.count_pos_iff.mpr hmem
  simp only [Books.answered, State.books, Journal.acceptedIds_calls] at hanswered
  omega

/-- A client that waits on a handle whose dispatch has answered. -/
structure Awaiting (id : Int) (limit : Option Nat) (m : Machine σ) : Prop where
  held : m.state.HasHandle id
  accepted : .accepted id ∈ m.state.journal
  agenda : ∃ front last, m.agenda = front ++ [last] ∧
    (last = .await id limit ∨ last = .take id) ∧ ∀ u ∈ front, u.isOfHandle = false

variable [Transport σ] {s s' : State σ} {t : Task} {ts rest : List Task}

theorem accepted_of_step (h : s.step t = some (s', ts)) {id : Int}
    (hmark : .accepted id ∈ s.journal) : .accepted id ∈ s'.journal :=
  List.mem_of_mem_filter
    (mem_calls_of_effect (effect_of_step h) (List.mem_filter.mpr ⟨hmark, rfl⟩))

theorem Awaiting.of_step {id : Int} {limit : Option Nat} {m m' : Machine σ}
    (h : Awaiting id limit m) (kept : Kept m) (hstep : m.step = some m') :
    Awaiting id limit m' ∨ (m.agenda = [.take id] ∧ m' = ⟨m.state.take id, []⟩) := by
  obtain ⟨t, rest, s', ts, hagenda, hs, rfl⟩ := Machine.step_eq_some hstep
  obtain ⟨s, agenda⟩ := m
  obtain rfl : agenda = t :: rest := hagenda
  obtain ⟨held, accepted, front, last, hsplit, hlast, hfront⟩ := h
  have hgo : ∀ front' last', ts ++ rest = front' ++ [last'] →
      (last' = .await id limit ∨ last' = .take id) → (∀ u ∈ front', u.isOfHandle = false) →
      t ≠ .take id → t ≠ .forget id → Awaiting id limit ⟨s', ts ++ rest⟩ := by
    intro front' last' heq hlast' hfront' htake hforget
    refine ⟨?_, accepted_of_step hs accepted, front', last', heq, hlast', hfront'⟩
    rcases held.of_step kept hs with hheld | ⟨rfl, -⟩ | rfl | ⟨method, failure, rfl, -⟩
    · exact hheld
    · exact absurd rfl htake
    · exact absurd rfl hforget
    · exact absurd (List.mem_append_left _ (List.mem_singleton.mpr rfl))
        (kept.accounts.settled accepted)
  cases front with
  | cons u front =>
    obtain ⟨rfl, rfl⟩ := List.cons.inj hsplit
    have hinner := hfront t List.mem_cons_self
    refine .inl (hgo (ts ++ front) last (List.append_assoc ..).symm hlast (fun u hu => ?_)
      (by rintro rfl; cases hinner) (by rintro rfl; cases hinner))
    rcases List.mem_append.mp hu with hu | hu
    · have hbusy : t.isAwait = false := by cases t <;> first | rfl | cases hinner
      exact State.isOfHandle_of_step hs hbusy u hu
    · exact hfront u (List.mem_cons_of_mem t hu)
  | nil =>
    obtain ⟨rfl, rfl⟩ := List.cons.inj hsplit
    rcases hlast with rfl | rfl
    · obtain ⟨front', last', heq, hlast', hfront'⟩ := s.await_goes_on id limit
      have hts : ts = (s.await id limit).2 := (congrArg Prod.snd (Option.some.inj hs)).symm
      exact .inl (hgo front' last' (by rw [List.append_nil, hts, heq]) hlast' hfront' (by simp)
        (by simp))
    · obtain ⟨rfl, rfl⟩ := Prod.mk.inj (Option.some.inj hs)
      exact .inr ⟨rfl, rfl⟩

/-- **Waiting ends by taking the outcome,** if it ends. -/
theorem Awaiting.ends {id : Int} {limit : Option Nat} {m : Machine σ} {past : List (Machine σ)}
    (h : Awaiting id limit m) (run : Run (m :: past)) {n : Nat} (hn : m.run n = ⟨s', []⟩) :
    ∃ s₁ past', Run (⟨s₁, [.take id]⟩ :: past') ∧ s₁.HasHandle id ∧ s' = s₁.take id := by
  have hbusy : m.agenda ≠ [] := by
    obtain ⟨front, last, heq, -⟩ := h.agenda
    simp [heq]
  induction n generalizing m past with
  | zero => exact absurd (congrArg Machine.agenda hn) hbusy
  | succ n ih =>
    cases hs : m.step with
    | none => exact absurd (congrArg Machine.agenda (by simpa only [Machine.run, hs] using hn)) hbusy
    | some m' =>
      rw [Machine.run_succ hs] at hn
      rcases h.of_step (Kept.isInvariant.holds run) hs with hgo | ⟨hagenda, rfl⟩
      · refine ih hgo (.stepped run hs) hn ?_
        obtain ⟨front, last, heq, -⟩ := hgo.agenda
        simp [heq]
      · rw [Machine.run_idle] at hn
        obtain ⟨s, agenda⟩ := m
        obtain rfl : agenda = _ := hagenda
        exact ⟨s, past, run, h.held, (congrArg Machine.state hn).symm⟩

/-! ### While a handle waits -/

/-- Nothing that is left behind a waiting handle is a completion. -/
def WaitsLast (m : Machine σ) : Prop :=
  m.agenda.Pairwise fun t u => t.isWait = true → u.owed = []

theorem isWait_of_step (hs : s.step t = some (s', ts)) :
    (∀ u ∈ ts, u.isWait = false) ∨ (t.isWait = true ∧ owedIds ts = []) := by
  cases hawait : t.isAwait with
  | false =>
    refine .inl fun u hu => ?_
    have hother := State.isOfHandle_of_step hs hawait u hu
    have hexpiry : u.isExpiry = false := by
      cases handling_of_step hs with
      | aside _ others | opened _ others | removed _ _ others => exact others u hu
      | posted | yielded => cases hu
      | waited => cases hawait
    cases u <;> simp_all [Task.isWait, Task.isOfHandle, Task.isExpiry]
  | true =>
    have hwait : t.isWait = true := by cases t <;> first | rfl | cases hawait
    refine .inr ⟨hwait, ?_⟩
    cases effect_of_step hs with
    | aside _ _ others => exact owedIds_eq_nil others
    | took ends => cases ends <;> cases hawait
    | drained closes => cases closes <;> cases hawait
    | _ => cases hawait

theorem WaitsLast.isInvariant : IsInvariant (WaitsLast (σ := σ)) where
  opening options transport :=
    List.pairwise_of_forall_mem_list fun t ht u hu _ =>
      Task.owed_of_isAside (isAside_of_mem_arrivals hu)
  trace h := h
  outer _ _ free :=
    List.pairwise_of_forall_mem_list fun t ht u hu _ =>
      Task.owed_of_isAside (Task.isAside_of_isFree (free u hu))
  step hs h := by
    obtain ⟨hbehind, hrest⟩ := List.pairwise_cons.mp h
    refine List.pairwise_append.mpr ⟨?_, hrest, ?_⟩ <;>
      rcases isWait_of_step hs with hnone | ⟨hwait, howed⟩
    · exact List.pairwise_of_forall_mem_list fun t ht u _ hwait => by simp [hnone t ht] at hwait
    · exact List.pairwise_of_forall_mem_list fun _ _ u hu _ => List.flatMap_eq_nil_iff.mp howed u hu
    · exact fun t ht u _ hwait => by simp [hnone t ht] at hwait
    · exact fun _ _ u hu _ => hbehind u hu hwait
  reorder _ h := h
  part _ _ := .nil
  resume _ _ _ := List.pairwise_singleton _ _

/-- **Whoever waits on a handle finds its call open, or the outcome there,** whatever others have done
meanwhile. -/
theorem pending_or_outcome_of_wait {id : Int} {past : List (Machine σ)}
    (run : Run (⟨s, t :: rest⟩ :: past)) (waits : t.isWait = true) (held : s.HasHandle id) :
    (id ∈ s.table.ids ∧ ∀ o, ¬ s.HasOutcome id o) ∨
      (id ∉ s.table.ids ∧ ∃ o, s.HasOutcome id o) := by
  have hbehind := (List.pairwise_cons.mp (WaitsLast.isInvariant.holds run)).1
  refine (Kept.isInvariant.holds run).pending_or_outcome held fun howed => ?_
  rw [owedIds_cons, Task.owed_of_isAside (Task.isAside_of_isWait waits), List.nil_append] at howed
  obtain ⟨u, hu, howed⟩ := List.mem_flatMap.mp howed
  rw [hbehind u hu waits] at howed
  cases howed

theorem Kept.hasOutcome_of_complete {id : Int} {o : Outcome}
    (hs : s.step (.complete id .mailbox o) = some (s', ts)) (held : s.HasHandle id)
    (kept : Kept ⟨s', rest⟩) : s'.HasOutcome id o := by
  obtain ⟨b, hb, hfinished⟩ := held
  refine kept.hasOutcome (b := { b with outcome := some o }) ?_ hfinished rfl
  have hposted := s.mailbox?_updateMailbox id (f := fun b => { b with outcome := some o })
    (fun _ => rfl) id
  rw [if_pos rfl, hb] at hposted
  rw [← (Prod.mk.inj (Option.some.inj hs)).1]
  exact hposted

theorem run_expire {id : Int} {deadline : Nat} {past : List (Machine σ)}
    (run : Run (⟨s, .expire id deadline :: rest⟩ :: past)) (held : s.HasHandle id)
    (hopen : id ∈ s.table.ids) :
    ∃ n s' e, e ∈ s.table.entries ∧ e.id = id ∧
      (Machine.mk s (.expire id deadline :: rest)).run n = ⟨s', rest⟩ ∧
      s'.HasOutcome id (.error e.timeoutFailure) := by
  obtain ⟨b, hb, hfinished⟩ := held
  obtain ⟨e, hid, hours, htake⟩ := (Kept.isInvariant.holds run).take_of_open (by simp [hb]) hopen
  obtain ⟨s₁, hs₁⟩ : ∃ s₁, s₁ = { s.note (.waited id deadline) with
    table := { s.table with entries := s.table.entries.filter (·.id != id) } } := ⟨_, rfl⟩
  have hexpire : s.step (.expire id deadline) =
      some (s₁, [.complete id .mailbox (.error e.timeoutFailure)]) := by
    simp [State.step, State.expire, htake, hid, hours, hs₁]
  obtain ⟨s', hs'⟩ : ∃ s', s₁.step (.complete id .mailbox (.error e.timeoutFailure)) =
    some (s', []) := ⟨_, rfl⟩
  have hrun : (Machine.mk s (.expire id deadline :: rest)).run 2 = ⟨s', rest⟩ :=
    (Machine.run_succ (Machine.step_cons hexpire) 1).trans
      (Machine.run_succ (Machine.step_cons hs') 0)
  obtain ⟨past', run'⟩ := run.run 2
  rw [hrun] at run'
  exact ⟨2, s', e, (Table.take_eq_some htake).1, hid, hrun, Kept.hasOutcome_of_complete hs'
    ⟨b, by rw [hs₁]; exact hb, hfinished⟩ (Kept.isInvariant.holds run')⟩

theorem step_expire_of_gone {id : Int} (hgone : id ∉ s.table.ids) (deadline : Nat) :
    (Machine.mk s (.expire id deadline :: rest)).step =
      some ⟨s.note (.waited id deadline), rest⟩ := by
  have hexpire : s.step (.expire id deadline) = some (s.note (.waited id deadline), []) := by
    simp [State.step, State.expire, Table.take_eq_none_iff.mpr hgone]
  exact Machine.step_cons hexpire

/-- What a handle finds whose deadline has passed. -/
structure Machine.Expires (m : Machine σ) (id : Int) (deadline : Nat) (rest : List Task) :
    Prop where
  own : m.state.HasDeadline id deadline
  passed : deadline ≤ m.state.clock
  /-- An open call times out, and then its outcome is there. -/
  timesOut : id ∈ m.state.table.ids → ∃ n s' e, e ∈ m.state.table.entries ∧ e.id = id ∧
    m.run n = ⟨s', rest⟩ ∧ s'.HasOutcome id (.error e.timeoutFailure)
  /-- A call that others have completed has its outcome, and keeps it. -/
  finds : id ∉ m.state.table.ids → ∃ o, m.state.HasOutcome id o ∧
    ∃ s', m.step = some ⟨s', rest⟩ ∧ s'.HasOutcome id o

/-- **A handle whose deadline has passed never waits for nothing,** whatever others have done since
it has passed. -/
theorem expires_of_run {id : Int} {deadline : Nat} {past : List (Machine σ)}
    (run : Run (⟨s, .expire id deadline :: rest⟩ :: past)) :
    (Machine.mk s (.expire id deadline :: rest)).Expires id deadline rest := by
  obtain ⟨own, passed⟩ := (Waiting.isInvariant.holds run).due id deadline rest rfl
  have held : s.HasHandle id := by
    obtain ⟨b, hb, hfinished, -⟩ := own
    exact ⟨b, hb, hfinished⟩
  refine ⟨own, passed, run_expire run held, fun hgone => ?_⟩
  obtain ⟨-, o, ho⟩ :=
    (pending_or_outcome_of_wait run rfl held).resolve_left fun h => hgone h.1
  exact ⟨o, ho, _, step_expire_of_gone hgone deadline, ho.inside,
    List.mem_cons_of_mem _ ho.told, ho.once⟩

/-- What comes of an attempt to take the outcome of a handle. -/
structure Machine.Takes (m : Machine σ) (id : Int) (rest : List Task) : Prop where
  pending : id ∈ m.state.table.ids → m.step = some ⟨m.state.answer .pending, rest⟩
  yields : id ∉ m.state.table.ids → ∃ o s', m.state.HasOutcome id o ∧ m.step = some ⟨s', rest⟩ ∧
    s'.reply = .outcome o ∧ s'.HasYielded id o

/-- **Every wait ends like this,** whatever others have done while the handle waited. -/
theorem takes_of_run {id : Int} {past : List (Machine σ)}
    (run : Run (⟨s, .take id :: rest⟩ :: past)) (held : s.HasHandle id) :
    (Machine.mk s (.take id :: rest)).Takes id rest := by
  have hstep : (Machine.mk s (.take id :: rest)).step = some ⟨s.take id, rest⟩ := rfl
  constructor
  · intro hopen
    rw [hstep, State.take_of_pending (Kept.isInvariant.holds run) held hopen]
  · intro hgone
    obtain ⟨-, o, ho⟩ :=
      (pending_or_outcome_of_wait run rfl held).resolve_left fun h => hgone h.1
    exact ⟨o, s.take id, ho, hstep, by rw [State.take_of_outcome ho]; rfl, ho.hasYielded⟩

end Switchboard.Client
