import Mathlib.Algebra.GroupWithZero.Nat
import Mathlib.Algebra.Order.BigOperators.Group.List
import Mathlib.Algebra.Order.Group.Nat
import Switchboard.Proofs.Client.Run

/-!
# Work comes to its end

`Task.rank` bounds what a task leads to, and an open call has a rank for what its completion leads
to. A step lowers what there is to do in all (`State.Advances`), but for an arrival that finds no
call, which leaves an arrival less. So a list of tasks is done after finitely many steps
(`comes_to_end`), whatever callbacks and peers do, unless the client is blocked: its first task
waits for the restart lock, which only a later task gives back. Waiting on a handle is no such
work, since it lasts as long as something goes on to arrive.
-/

namespace Switchboard.Client

open Switchboard.Json

variable {σ : Type}

/-! ### Ranks -/

/-- What a task leads to at most, open calls and arrivals apart. -/
def Task.rank : Task → Nat
  | .arrive _ | .await .. => 0
  | .answer _ | .countPending | .unlock | .closeTransport | .endSweep _ | .forget _ | .expire ..
  | .take _ => 1
  | .reopen _ | .cancel _ | .abandon _ | .sweep _ => 2
  | .launch | .close => 3
  | .replace | .release => 4
  | .settle .. | .restart => 6
  | .complete _ callback _ => 2 + callback.weight
  | .timeOut e => 3 + e.callback.weight
  | .register _ _ _ callback => 11 + callback.weight
  | .proceed _ _ _ callback => 12 + callback.weight
  | .dispatch _ _ callback => 18 + callback.weight
  | .script _ _ actions _ owner => 1 + Action.weights actions + if owner then 5 else 0
  | .collect _ _ actions _ owner => 6 + Action.weights actions + if owner then 5 else 0

def Entry.rank (e : Entry) : Nat := 4 + e.callback.weight

def rankOf (tasks : List Task) : Nat := (tasks.map Task.rank).sum

/-- What there is to do: the tasks, and the open calls. -/
def State.toDo (s : State σ) (tasks : List Task) : Nat :=
  (s.table.entries.map Entry.rank).sum + rankOf tasks

def Task.isAwait : Task → Bool
  | .await .. => true
  | _ => false

@[simp] theorem rankOf_nil : rankOf [] = 0 := rfl

@[simp] theorem rankOf_cons (t : Task) (tasks : List Task) :
    rankOf (t :: tasks) = t.rank + rankOf tasks := rfl

@[simp] theorem rankOf_append (tasks tasks' : List Task) :
    rankOf (tasks ++ tasks') = rankOf tasks + rankOf tasks' := by
  rw [rankOf, List.map_append, List.sum_append]
  rfl

@[simp] theorem rankOf_arrivals (arrivals : List Arrival) : rankOf (arrivals.map .arrive) = 0 := by
  induction arrivals with
  | nil => rfl
  | cons a arrivals ih => rw [List.map_cons, rankOf_cons, ih, Task.rank]

theorem rankOf_closed_le (entries : List Entry) (reason : String) :
    rankOf (entries.map fun e => .complete e.id e.callback (.error (.closed reason))) ≤
      (entries.map Entry.rank).sum := by
  rw [rankOf, List.map_map]
  refine List.sum_le_sum fun e _ => ?_
  simp only [Function.comp, Task.rank, Entry.rank]
  omega

theorem rankOf_timeOuts_le (entries : List Entry) :
    rankOf (entries.map .timeOut) ≤ (entries.map Entry.rank).sum := by
  rw [rankOf, List.map_map]
  refine List.sum_le_sum fun e _ => ?_
  simp only [Function.comp, Task.rank, Entry.rank]
  omega

theorem isAwait_of_mem_arrivals {arrivals : List Arrival} {t : Task}
    (h : t ∈ arrivals.map Task.arrive) : t.isAwait = false := by
  obtain ⟨a, _, rfl⟩ := List.mem_map.mp h
  rfl

theorem Callback.isAwait_of_mem_refusal {c : Callback} {r : Reply} {t : Task}
    (h : t ∈ c.drop ++ [.answer r]) : t.isAwait = false := by
  rcases c.eq_of_mem_refusal h with rfl | rfl <;> rfl

theorem Action.isAwait_task (a : Action) : a.task.isAwait = false := by cases a <;> rfl

theorem Callback.rankOf_drop_le (c : Callback) : rankOf c.drop ≤ 4 := by
  unfold drop
  split <;> simp [Task.rank]

theorem Action.rank_task_lt (a : Action) : a.task.rank < 5 + a.weight := by
  cases a <;> simp only [task, Task.rank, weight] <;> omega

/-! ### The steps -/

namespace State

variable {s s' : State σ} {t : Task} {ts : List Task}

/-- What a step has to lead to, if work is to come to its end: no waiting, and less to do or nothing
more. -/
structure Advances (s : State σ) (t : Task) (s' : State σ) (ts : List Task) : Prop where
  busy : ∀ u ∈ ts, u.isAwait = false
  less : s'.toDo ts < s.toDo [t] ∨ (ts = [] ∧ s'.toDo [] = s.toDo [t])

theorem Advances.of_lt (table : s'.table = s.table) (busy : ∀ u ∈ ts, u.isAwait = false)
    (less : rankOf ts < t.rank) : Advances s t s' ts := by
  refine ⟨busy, .inl ?_⟩
  simp only [toDo, table, rankOf_cons, rankOf_nil]
  omega

theorem Advances.of_nil (table : s'.table = s.table) (pos : 0 < t.rank) : Advances s t s' [] :=
  .of_lt table (by simp [Task.isAwait]) pos

theorem sum_rank_take {id : Int} {e : Entry} {table : Table}
    (h : s.table.take id = some (e, table)) :
    (table.entries.map Entry.rank).sum + e.rank ≤ (s.table.entries.map Entry.rank).sum := by
  obtain ⟨he, rfl, rfl⟩ := Table.take_eq_some h
  have hsplit := ((List.filter_append_perm (·.id != e.id) s.table.entries).map Entry.rank).sum_nat
  have hmem : e ∈ s.table.entries.filter fun e' => !(e'.id != e.id) :=
    List.mem_filter.mpr ⟨he, by simp⟩
  have hle := List.le_sum_of_mem (List.mem_map_of_mem (f := Entry.rank) hmem)
  rw [List.map_append, List.sum_append] at hsplit
  simp only
  omega

theorem advances_of_take {id : Int} {e : Entry} {table : Table}
    (h : s.table.take id = some (e, table)) (htable : s'.table = table)
    (busy : ∀ u ∈ ts, u.isAwait = false) (less : rankOf ts < e.rank + t.rank) :
    Advances s t s' ts := by
  refine ⟨busy, .inl ?_⟩
  have htake := sum_rank_take h
  simp only [toDo, htable, rankOf_cons, rankOf_nil]
  omega

theorem advances_of_close {reason : String} (htable : s'.table = (s.table.close reason).2)
    (busy : ∀ u ∈ ts, u.isAwait = false) (less : rankOf ts < t.rank) :
    Advances s t s'
      (s.table.entries.map (fun e => .complete e.id e.callback (.error (.closed reason))) ++
        ts) := by
  refine ⟨fun u hu => ?_, .inl ?_⟩
  · rcases List.mem_append.mp hu with hu | hu
    · obtain ⟨e, _, rfl⟩ := List.mem_map.mp hu
      rfl
    · exact busy u hu
  have hclosed := rankOf_closed_le s.table.entries reason
  simp only [toDo, htable, Table.close, rankOf_append, rankOf_cons, rankOf_nil, List.map_nil,
    List.sum_nil]
  omega

theorem advances_dispatch {method : String} {params : Value} {callback : Callback}
    (h : s.dispatch method params callback = some (s', ts)) :
    Advances s (.dispatch method params callback) s' ts := by
  obtain ⟨s₁, hs₁, hcases⟩ := dispatch_cases h
  have htable : s₁.table = s.table := by rcases hs₁ with rfl | rfl <;> rfl
  have hdrop := callback.rankOf_drop_le
  rcases hcases with ⟨rfl, rfl⟩ | ⟨rfl, reason, rfl⟩ | ⟨-, rfl, event, rfl⟩
  · refine .of_lt htable (by simp [Task.isAwait]) ?_
    simp only [rankOf_cons, rankOf_nil, Task.rank]
    omega
  · refine .of_lt htable (fun _ => callback.isAwait_of_mem_refusal) ?_
    simp only [rankOf_append, rankOf_cons, rankOf_nil, Task.rank]
    omega
  · refine .of_lt htable (by simp [Task.isAwait]) ?_
    simp only [rankOf_cons, rankOf_nil, Task.rank]
    omega

theorem advances_proceed (s : State σ) (begun : Nat) (method : String) (params : Value)
    (callback : Callback) :
    Advances s (.proceed begun method params callback) (s.proceed begun method params callback).1
      (s.proceed begun method params callback).2 := by
  have hdrop := callback.rankOf_drop_le
  unfold proceed
  split
  · refine .of_lt rfl (fun _ => callback.isAwait_of_mem_refusal) ?_
    simp only [refuse, rankOf_append, rankOf_cons, rankOf_nil, Task.rank]
    omega
  · refine .of_lt rfl (by simp [Task.isAwait]) ?_
    simp only [rankOf_cons, rankOf_nil, Task.rank]
    omega

theorem advances_register [Transport σ] (s : State σ) (begun : Nat) (method : String)
    (params : Value) (callback : Callback) :
    Advances s (.register begun method params callback) (s.register begun method params callback).1
      (s.register begun method params callback).2 := by
  have hdrop := callback.rankOf_drop_le
  rcases s.register_cases begun method params callback with
    ⟨reason, heq⟩ | ⟨id, table, clock, marks, arrivals, failure, hregister, -, heq⟩
  · rw [heq]
    refine .of_lt rfl (fun _ => callback.isAwait_of_mem_refusal) ?_
    simp only [rankOf_append, rankOf_cons, rankOf_nil, Task.rank]
    omega
  · -- The call is in the table now; what arrives while it is sent has no rank of its own.
    rw [heq]
    obtain ⟨-, -, rfl⟩ := Table.register_eq_ok hregister
    refine ⟨fun u hu => ?_, .inl ?_⟩
    · rcases List.mem_append.mp hu with hu | hu
      · exact isAwait_of_mem_arrivals hu
      · rw [List.mem_singleton.mp hu]
        rfl
    simp only [toDo, List.map_append, List.sum_append, List.map_cons, List.sum_cons, List.map_nil,
      List.sum_nil, rankOf_append, rankOf_arrivals, rankOf_cons, rankOf_nil, Task.rank, Entry.rank]
    omega

theorem advances_settle (s : State σ) (id : Int) (method : String)
    (failure : Option TransportFailure) :
    Advances s (.settle id method failure) (s.settle id method failure).1
      (s.settle id method failure).2 := by
  unfold settle
  split
  · exact .of_lt rfl (by simp [Task.isAwait]) (by simp [Task.rank])
  · simp only
    split
    · rename_i e table h
      have hdrop := e.callback.rankOf_drop_le
      refine advances_of_take h rfl (fun _ => Callback.isAwait_of_mem_refusal) ?_
      simp only [refuse, rankOf_append, rankOf_cons, rankOf_nil, Task.rank, Entry.rank]
      omega
    · exact .of_lt rfl (by simp [Task.isAwait]) (by simp [Task.rank])

theorem advances_cancel (s : State σ) (id : Int) :
    Advances s (.cancel id) (s.cancel id).1 (s.cancel id).2 := by
  unfold cancel
  simp only
  split
  · rename_i e table h
    refine advances_of_take h rfl (by simp [Task.isAwait]) ?_
    simp only [rankOf_cons, rankOf_nil, Task.rank, Entry.rank]
    omega
  · exact .of_lt rfl (by simp [Task.isAwait]) (by simp [Task.rank])

theorem advances_abandon (s : State σ) (id : Int) :
    Advances s (.abandon id) (s.abandon id).1 (s.abandon id).2 := by
  unfold abandon
  simp only
  split
  · rename_i e table h
    refine advances_of_take h rfl (by simp [Task.isAwait]) ?_
    simp only [rankOf_cons, rankOf_nil, Task.rank, Entry.rank]
    omega
  · exact .of_lt rfl (by simp [Task.isAwait]) (by simp [Task.rank])

theorem advances_expire (s : State σ) (id : Int) (deadline : Nat) :
    Advances s (.expire id deadline) (s.expire id deadline).1 (s.expire id deadline).2 := by
  unfold expire
  simp only
  split
  · rename_i e table h
    refine advances_of_take h rfl (by simp [Task.isAwait]) ?_
    simp only [rankOf_cons, rankOf_nil, Task.rank, Entry.rank]
    omega
  · exact .of_lt rfl (by simp [Task.isAwait]) (by simp [Task.rank])

theorem advances_arrive [Transport σ] (s : State σ) (a : Arrival) :
    Advances s (.arrive a) (s.arrive a).1 (s.arrive a).2 := by
  rcases s.arrive_cases a with ⟨text, e, table, payload, event, rfl, -, htake, heq⟩ |
    ⟨tally, marks, -, -, -, heq⟩ | ⟨reason, marks, rfl, -, heq⟩
  · rw [heq]
    refine advances_of_take htake rfl (by simp [Task.isAwait]) ?_
    simp only [rankOf_cons, rankOf_nil, Task.rank, Entry.rank]
    omega
  · rw [heq]
    exact ⟨by simp, .inr ⟨rfl, rfl⟩⟩
  · rw [heq]
    cases hentries : s.table.entries with
    | nil =>
      refine ⟨by simp, .inr ⟨rfl, ?_⟩⟩
      simp [toDo, Table.close, hentries, Task.rank]
    | cons e entries =>
      refine ⟨fun u hu => ?_, .inl ?_⟩
      · obtain ⟨e', _, rfl⟩ := List.mem_map.mp hu
        rfl
      have hclosed := rankOf_closed_le entries reason
      simp only [toDo, Table.close, hentries, List.map_cons, List.sum_cons, List.map_nil,
        List.sum_nil, rankOf_cons, rankOf_nil, Task.rank, Entry.rank] at hclosed ⊢
      omega

theorem advances_complete (s : State σ) (id : Int) (callback : Callback) (outcome : Outcome) :
    Advances s (.complete id callback outcome) (s.complete id callback outcome).1
      (s.complete id callback outcome).2 := by
  cases callback with
  | mailbox => exact .of_nil rfl (by simp only [Task.rank]; omega)
  | script label actions owner =>
    refine .of_lt rfl (by simp [complete, Task.isAwait]) ?_
    simp only [complete, rankOf_cons, rankOf_nil, Task.rank, Callback.weight]
    split <;> omega

theorem advances_script (s : State σ) (label : String) (outcome : Outcome) (actions : List Action)
    (replies : List Reply) (owner : Bool) :
    Advances s (.script label outcome actions replies owner)
      (s.script label outcome actions replies owner).1
      (s.script label outcome actions replies owner).2 := by
  unfold script
  split
  · rename_i a rest
    split
    · exact .of_nil rfl (by simp only [Task.rank]; omega)
    · have ha := a.rank_task_lt
      have hcollect : (Task.collect label outcome rest replies owner).rank =
          6 + Action.weights rest + if owner then 5 else 0 := rfl
      have hscript : (Task.script label outcome (a :: rest) replies owner).rank =
          1 + (10 + a.weight + Action.weights rest) + if owner then 5 else 0 := rfl
      have hbusy : ∀ u ∈ [a.task, .collect label outcome rest replies owner],
          u.isAwait = false := by
        intro u hu
        rcases List.mem_cons.mp hu with rfl | hu
        · exact a.isAwait_task
        · rw [List.mem_singleton.mp hu]
          rfl
      refine .of_lt rfl hbusy ?_
      rw [rankOf_cons, rankOf_cons, rankOf_nil, hcollect, hscript]
      omega
  · split
    · rename_i howner
      refine .of_lt rfl (by simp [Task.isAwait]) ?_
      simp only [rankOf_cons, rankOf_nil, Task.rank, Action.weights, howner, if_true]
      simp
    · exact .of_nil rfl (by simp only [Task.rank]; omega)

theorem advances_replace (s : State σ) : Advances s .replace s.replace.1 s.replace.2 := by
  unfold replace
  split
  · exact .of_lt rfl (by simp [Task.isAwait]) (by simp [Task.rank])
  · obtain ⟨marks, -, heq⟩ :=
      (s.trace .info "restarting generator" []).closeTable_spec "generator restarting"
    simp only [heq]
    exact advances_of_close rfl (by simp [Task.isAwait]) (by simp [Task.rank])

theorem advances_close (s : State σ) : Advances s .close s.close.1 s.close.2 := by
  have key : ∀ s₁ : State σ, s₁.table = s.table →
      Advances s .close (s₁.closeTable clientClosed).1
        ((s₁.closeTable clientClosed).2 ++ [.closeTransport, .answer .done]) := by
    intro s₁ htable
    obtain ⟨marks, -, heq⟩ := s₁.closeTable_spec clientClosed
    rw [heq]
    simp only [htable]
    exact advances_of_close rfl (by simp [Task.isAwait]) (by simp [Task.rank])
  unfold close
  split
  · exact .of_lt rfl (by simp [Task.isAwait]) (by simp [Task.rank])
  · obtain ⟨events, heq⟩ := stopWatching_spec ({ s with shut := true }.note .shut)
    exact key _ (by rw [heq]; rfl)

theorem advances_sweep (s : State σ) (now : Nat) :
    Advances s (.sweep now) (s.sweep now).1 (s.sweep now).2 := by
  refine ⟨fun u hu => ?_, .inl ?_⟩
  · rcases State.eq_of_mem_sweep hu with ⟨e, rfl⟩ | ⟨count, rfl⟩ <;> rfl
  rcases s.sweep_cases now with ⟨-, heq⟩ | ⟨-, heq⟩ <;> rw [heq]
  swap
  · simp [toDo, Task.rank]
  have hsplit :=
    ((List.filter_append_perm (·.isOverdue now) s.table.entries).map Entry.rank).sum_nat
  have hexpired := rankOf_timeOuts_le (s.table.entries.filter (·.isOverdue now))
  rw [List.map_append, List.sum_append] at hsplit
  simp only [toDo, Table.splitOverdue, rankOf_append, rankOf_cons, rankOf_nil,
    Task.rank]
  omega

/-- **Every step advances,** but for waiting on a handle. -/
theorem advances_of_step [Transport σ] (h : s.step t = some (s', ts)) (ht : t.isAwait = false) :
    Advances s t s' ts := by
  have key : ∀ {result : State σ × List Task}, some result = some (s', ts) →
      Advances s t result.1 result.2 → Advances s t s' ts := by
    rintro _ ⟨⟩ hadvances
    exact hadvances
  cases t with
  | await => cases ht
  | dispatch method params callback => exact advances_dispatch h
  | proceed begun method params callback =>
    exact key h (s.advances_proceed begun method params callback)
  | register begun method params callback =>
    exact key h (s.advances_register begun method params callback)
  | settle id method failure => exact key h (s.advances_settle id method failure)
  | cancel id => exact key h (s.advances_cancel id)
  | restart =>
    simp only [step, restart] at h
    split at h
    · cases h
    · exact key h (.of_lt rfl (by simp [Task.isAwait]) (by simp [Task.rank]))
  | replace => exact key h s.advances_replace
  | launch =>
    refine key h (.of_lt (by simp [launch]) (fun u hu => ?_) ?_)
    · rcases List.mem_append.mp hu with hu | hu
      · exact isAwait_of_mem_arrivals hu
      · rw [List.mem_singleton.mp hu]
        rfl
    simp only [launch, rankOf_append, rankOf_arrivals, rankOf_cons, rankOf_nil, Task.rank]
    omega
  | reopen failure =>
    cases failure with
    | some failure =>
      exact key h (.of_lt rfl (by simp [reopen, Task.isAwait]) (by simp [reopen, Task.rank]))
    | none =>
      refine key h ⟨by simp [reopen, Task.isAwait], .inl ?_⟩
      simp [reopen, toDo, Table.reopen, Task.rank]
  | close => exact key h s.advances_close
  | closeTransport =>
    refine key h (.of_lt (by simp [closeTransport]) (fun _ => isAwait_of_mem_arrivals) ?_)
    simp only [closeTransport, rankOf_arrivals, Task.rank]
    omega
  | arrive a => exact key h (s.advances_arrive a)
  | complete id callback outcome => exact key h (s.advances_complete id callback outcome)
  | script label outcome actions replies owner =>
    exact key h (s.advances_script label outcome actions replies owner)
  | collect label outcome actions replies owner =>
    refine key h (.of_lt rfl (by simp [Task.isAwait]) ?_)
    simp only [rankOf_cons, rankOf_nil, Task.rank]
    omega
  | release =>
    refine key h ?_
    unfold release
    split
    · exact .of_lt rfl (by simp [Task.isAwait]) (by simp [Task.rank])
    · exact .of_nil rfl (by simp [Task.rank])
  | sweep now => exact key h (s.advances_sweep now)
  | timeOut e =>
    refine key h (.of_lt rfl (by simp [timeOut, Task.isAwait]) ?_)
    simp only [timeOut, rankOf_cons, rankOf_nil, Task.rank]
    omega
  | endSweep count =>
    refine key h (.of_nil ?_ (by simp [Task.rank]))
    simp only [endSweep]
    split <;> rfl
  | abandon id => exact key h (s.advances_abandon id)
  | expire id deadline => exact key h (s.advances_expire id deadline)
  | take id =>
    refine key h (.of_nil ?_ (by simp [Task.rank]))
    exact congrArg Books.table (s.books_take id)
  | unlock | answer | countPending | forget => exact key h (.of_nil rfl (by simp [Task.rank]))

end State

/-! ### Running on -/

/-- A client whose next task waits for the restart lock, while the lock is held. -/
def Machine.IsBlocked [Transport σ] (m : Machine σ) : Prop := m.agenda ≠ [] ∧ m.step = none

/-- **Tasks are done after finitely many steps,** with all that they lead to, or the client is
blocked. -/
theorem comes_to_end [Transport σ] (s : State σ) (front rest : List Task)
    (busy : ∀ t ∈ front, t.isAwait = false) :
    ∃ n, (∃ s', (Machine.mk s (front ++ rest)).run n = ⟨s', rest⟩) ∨
      ((Machine.mk s (front ++ rest)).run n).IsBlocked := by
  -- The outer induction is on what there is to do, the inner one on the tasks: a step that leaves
  -- as much to do leaves a task less.
  induction hk : s.toDo front using Nat.strong_induction_on generalizing s front with
  | _ k ih =>
    induction front generalizing s with
    | nil => exact ⟨0, .inl ⟨s, rfl⟩⟩
    | cons t front ihfront =>
      have hrest : ∀ u ∈ front, u.isAwait = false := fun u hu => busy u (List.mem_cons_of_mem t hu)
      cases hs : s.step t with
      | none =>
        exact ⟨0, .inr ⟨List.cons_ne_nil _ _, by simp [Machine.run, Machine.step, hs]⟩⟩
      | some result =>
        obtain ⟨s', ts⟩ := result
        have hadvances := State.advances_of_step hs (busy t List.mem_cons_self)
        have hnext : ∃ n, (∃ s'', (Machine.mk s' (ts ++ front ++ rest)).run n = ⟨s'', rest⟩) ∨
            ((Machine.mk s' (ts ++ front ++ rest)).run n).IsBlocked := by
          simp only [State.toDo, rankOf_cons] at hk
          rcases hadvances.less with hless | ⟨rfl, heq⟩
          · refine ih _ ?_ s' (ts ++ front) (fun u hu => ?_) rfl
            · simp only [State.toDo, rankOf_append, rankOf_cons, rankOf_nil] at hless ⊢
              omega
            · rcases List.mem_append.mp hu with hu | hu
              · exact hadvances.busy u hu
              · exact hrest u hu
          · refine ihfront s' hrest ?_
            simp only [State.toDo, rankOf_cons, rankOf_nil] at heq ⊢
            omega
        obtain ⟨n, hn⟩ := hnext
        refine ⟨n + 1, ?_⟩
        rw [List.cons_append, Machine.run_succ (Machine.step_cons hs), ← List.append_assoc]
        exact hn

end Switchboard.Client
