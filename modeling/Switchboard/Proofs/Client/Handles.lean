import Switchboard.Proofs.Client.Run

/-!
# What a step does about handles

The mailbox of a handle is opened with its call, gets the outcome, yields it once and is removed
with the handle, or with a call that could not be sent. `Handling` lists this, and how waiting on a
handle comes to the handle's own deadline. Only then does an expiry come into the agenda, and it is
the next task: `Waiting` says so, and that a mailbox has a deadline only if calls have a timeout.
-/

namespace Switchboard.Client

open Switchboard.Json

variable {σ : Type}

structure Handles where
  options : ClientOptions
  mailboxes : List Mailbox

def State.handles (s : State σ) : Handles := { options := s.options, mailboxes := s.mailboxes }

def Task.isExpiry : Task → Bool
  | .expire .. => true
  | _ => false

theorem Task.isExpiry_of_isFree {t : Task} (h : t.isFree = true) : t.isExpiry = false := by
  cases t <;> first | rfl | cases h

/-- What a task does about handles, with the tasks that it puts in front. -/
inductive Handling (s : State σ) : Task → State σ → List Task → Prop where
  | aside {t : Task} {s' : State σ} {ts : List Task} (handles : s'.handles = s.handles)
      (others : ∀ t' ∈ ts, t'.isExpiry = false) : Handling s t s' ts
  | opened {begun : Nat} {method : String} {params : Value} {s' : State σ} {ts : List Task}
      (handles : s'.handles = { s.handles with
        mailboxes := s.mailboxes ++ [
          { id := s.table.nextId
            deadline := s.options.requestTimeout.bind (·.after? begun)
            outcome := none
            finished := false }] })
      (others : ∀ t' ∈ ts, t'.isExpiry = false) :
      Handling s (.register begun method params .mailbox) s' ts
  | posted {id : Int} {outcome : Outcome} {s' : State σ}
      (handles : s'.handles = { s.handles with
        mailboxes := s.mailboxes.map fun m =>
          if m.id == id then { m with outcome := some outcome } else m }) :
      Handling s (.complete id .mailbox outcome) s' []
  | yielded {id : Int} {s' : State σ}
      (handles : s'.handles = { s.handles with
        mailboxes :=
          s.mailboxes.map fun m => if m.id == id then { m with finished := true } else m }) :
      Handling s (.take id) s' []
  | removed {t : Task} {id : Int} {s' : State σ} {ts : List Task}
      (self : t = .forget id ∨ ∃ method failure, t = .settle id method (some failure))
      (handles : s'.handles = { s.handles with mailboxes := s.mailboxes.filter (·.id != id) })
      (others : ∀ t' ∈ ts, t'.isExpiry = false) : Handling s t s' ts
  | waited {id : Int} {limit : Option Nat} {deadline : Nat} (own : s.HasDeadline id deadline) :
      Handling s (.await id limit) { s with clock := max s.clock deadline }
        [.expire id deadline, .take id]

namespace State

/-! ### The steps, one by one -/

theorem handling_dispatch {s s' : State σ} {method : String} {params : Value} {callback : Callback}
    {ts : List Task} (h : s.dispatch method params callback = some (s', ts)) :
    Handling s (.dispatch method params callback) s' ts := by
  obtain ⟨s₁, hs₁, hcases⟩ := dispatch_cases h
  have hhandles : s₁.handles = s.handles := by rcases hs₁ with rfl | rfl <;> rfl
  rcases hcases with ⟨rfl, rfl⟩ | ⟨rfl, reason, rfl⟩ | ⟨-, rfl, event, rfl⟩
  · exact .aside hhandles (by simp [Task.isExpiry])
  · exact .aside hhandles fun _ hu => Task.isExpiry_of_isFree (callback.isFree_of_mem_refusal hu)
  · exact .aside hhandles (by simp [Task.isExpiry])

theorem handling_register [Transport σ] (s : State σ) (begun : Nat) (method : String)
    (params : Value) (callback : Callback) :
    Handling s (.register begun method params callback)
      (s.register begun method params callback).1 (s.register begun method params callback).2 := by
  rcases s.register_cases begun method params callback with
    ⟨reason, heq⟩ | ⟨id, table, clock, marks, arrivals, failure, hregister, -, heq⟩
  · rw [heq]
    exact .aside rfl fun _ hu => Task.isExpiry_of_isFree (callback.isFree_of_mem_refusal hu)
  · obtain ⟨-, rfl, -⟩ := Table.register_eq_ok hregister
    have hothers : ∀ t ∈ arrivals.map Task.arrive ++ [.settle s.table.nextId method failure],
        t.isExpiry = false := by
      intro u hu
      rcases List.mem_append.mp hu with hu | hu
      · exact Task.isExpiry_of_isFree (isFree_of_mem_arrivals hu)
      · rw [List.mem_singleton.mp hu]
        rfl
    rw [heq]
    cases callback with
    | mailbox => exact .opened rfl hothers
    | script label actions owner => exact .aside rfl hothers

theorem handling_settle (s : State σ) (id : Int) (method : String)
    (failure : Option TransportFailure) :
    Handling s (.settle id method failure) (s.settle id method failure).1
      (s.settle id method failure).2 := by
  unfold settle
  split
  · exact .aside rfl (by simp [Task.isExpiry])
  · simp only
    split
    · exact .removed (.inr ⟨_, _, rfl⟩) rfl
        fun _ hu => Task.isExpiry_of_isFree (Callback.isFree_of_mem_refusal hu)
    · exact .aside rfl (by simp [Task.isExpiry])

theorem handles_closeTable (s : State σ) (reason : String) :
    (s.closeTable reason).1.handles = s.handles := by
  obtain ⟨marks, -, heq⟩ := s.closeTable_spec reason
  rw [heq]
  rfl

theorem isExpiry_of_mem_closeTable {s : State σ} {reason : String} {t : Task}
    (h : t ∈ (s.closeTable reason).2) : t.isExpiry = false := by
  obtain ⟨e, _, rfl⟩ := List.mem_map.mp h
  rfl

theorem handling_replace (s : State σ) : Handling s .replace s.replace.1 s.replace.2 := by
  unfold replace
  split
  · exact .aside rfl (by simp [Task.isExpiry])
  · refine .aside ((handles_closeTable _ _).trans rfl) fun u hu => ?_
    rcases List.mem_append.mp hu with hu | hu
    · exact isExpiry_of_mem_closeTable hu
    · rw [List.mem_singleton.mp hu]
      rfl

theorem handling_close (s : State σ) : Handling s .close s.close.1 s.close.2 := by
  unfold close
  split
  · exact .aside rfl (by simp [Task.isExpiry])
  · refine .aside ?_ fun u hu => ?_
    · obtain ⟨events, heq⟩ := stopWatching_spec ({ s with shut := true }.note .shut)
      rw [handles_closeTable, heq]
      rfl
    · rcases List.mem_append.mp hu with hu | hu
      · exact isExpiry_of_mem_closeTable hu
      · simp only [List.mem_cons, List.not_mem_nil, or_false] at hu
        rcases hu with rfl | rfl <;> rfl

theorem handling_arrive [Transport σ] (s : State σ) (a : Arrival) :
    Handling s (.arrive a) (s.arrive a).1 (s.arrive a).2 := by
  rcases s.arrive_cases a with ⟨text, e, table, payload, event, rfl, -, -, heq⟩ |
    ⟨tally, marks, -, -, -, heq⟩ | ⟨reason, marks, rfl, -, heq⟩
  · rw [heq]
    exact .aside rfl (by simp [Task.isExpiry])
  · rw [heq]
    exact .aside rfl (by simp)
  · rw [heq]
    exact .aside rfl (by simp [Task.isExpiry])

theorem handling_complete (s : State σ) (id : Int) (callback : Callback) (outcome : Outcome) :
    Handling s (.complete id callback outcome) (s.complete id callback outcome).1
      (s.complete id callback outcome).2 := by
  cases callback with
  | mailbox => exact .posted rfl
  | script label actions owner => exact .aside rfl (by simp [complete, Task.isExpiry])

theorem handling_script (s : State σ) (label : String) (outcome : Outcome) (actions : List Action)
    (replies : List Reply) (owner : Bool) :
    Handling s (.script label outcome actions replies owner)
      (s.script label outcome actions replies owner).1
      (s.script label outcome actions replies owner).2 := by
  cases actions with
  | nil =>
    simp only [script]
    split
    · exact .aside rfl (by simp [Task.isExpiry])
    · exact .aside rfl (by simp)
  | cons a rest =>
    simp only [script]
    split
    · exact .aside rfl (by simp)
    · refine .aside rfl fun u hu => ?_
      rcases List.mem_cons.mp hu with rfl | hu
      · exact Task.isExpiry_of_isFree a.isFree_task
      · rw [List.mem_singleton.mp hu]
        rfl

theorem handling_await [Transport σ] (s : State σ) (id : Int) (limit : Option Nat) :
    Handling s (.await id limit) (s.await id limit).1 (s.await id limit).2 := by
  rcases s.await_cases id limit with
    ⟨transport, clock, tasks, -, hfree, heq⟩ | ⟨deadline, hown, heq⟩
  · rw [heq]
    exact .aside rfl fun u hu => Task.isExpiry_of_isFree (hfree u hu)
  · rw [heq]
    exact .waited hown

end State

/-! ### All steps -/

theorem Handling.of_some {s s' : State σ} {t : Task} {ts : List Task}
    {result : State σ × List Task} (h : some result = some (s', ts))
    (handling : Handling s t result.1 result.2) : Handling s t s' ts := by
  obtain rfl := Option.some.inj h
  exact handling

/-- **Every step does one of these things about handles.** -/
theorem handling_of_step [Transport σ] {s s' : State σ} {t : Task} {ts : List Task}
    (h : s.step t = some (s', ts)) : Handling s t s' ts := by
  cases t with
  | dispatch method params callback => exact State.handling_dispatch h
  | restart =>
    simp only [State.step, State.restart] at h
    split at h
    · cases h
    · exact .of_some h (.aside rfl (by simp [Task.isExpiry]))
  | proceed begun method params callback =>
    refine .of_some h ?_
    unfold State.proceed
    split
    · exact .aside rfl fun _ hu => Task.isExpiry_of_isFree (callback.isFree_of_mem_refusal hu)
    · exact .aside rfl (by simp [Task.isExpiry])
  | register begun method params callback =>
    exact .of_some h (s.handling_register begun method params callback)
  | settle id method failure => exact .of_some h (s.handling_settle id method failure)
  | cancel id | abandon id =>
    refine .of_some h ?_
    simp only [State.cancel, State.abandon]
    split <;> exact .aside rfl (by simp [Task.isExpiry])
  | expire id deadline =>
    refine .of_some h ?_
    simp only [State.expire]
    split
    · exact .aside rfl (by simp [Task.isExpiry])
    · exact .aside rfl (by simp)
  | replace => exact .of_some h s.handling_replace
  | launch =>
    refine .of_some h (.aside (by simp [State.launch, State.handles]) fun u hu => ?_)
    rcases List.mem_append.mp hu with hu | hu
    · exact Task.isExpiry_of_isFree (isFree_of_mem_arrivals hu)
    · rw [List.mem_singleton.mp hu]
      rfl
  | reopen failure =>
    refine .of_some h ?_
    cases failure <;> exact .aside rfl (by simp [State.reopen, Task.isExpiry])
  | close => exact .of_some h s.handling_close
  | closeTransport =>
    exact .of_some h (.aside (by simp [State.closeTransport, State.handles])
      fun _ hu => Task.isExpiry_of_isFree (isFree_of_mem_arrivals hu))
  | arrive a => exact .of_some h (s.handling_arrive a)
  | complete id callback outcome => exact .of_some h (s.handling_complete id callback outcome)
  | script label outcome actions replies owner =>
    exact .of_some h (s.handling_script label outcome actions replies owner)
  | release =>
    refine .of_some h (.aside rfl fun u hu => ?_)
    simp only [State.release] at hu
    split at hu
    · rw [List.mem_singleton.mp hu]
      rfl
    · cases hu
  | sweep now =>
    refine .of_some h (.aside ?_ fun u hu => ?_)
    · rcases s.sweep_cases now with ⟨-, heq⟩ | ⟨-, heq⟩ <;>
      · rw [heq]
        rfl
    · rcases State.eq_of_mem_sweep hu with ⟨e, rfl⟩ | ⟨count, rfl⟩ <;> rfl
  | endSweep count =>
    refine .of_some h (.aside ?_ (by simp [State.endSweep]))
    simp only [State.endSweep]
    split <;> rfl
  | await id limit => exact .of_some h (s.handling_await id limit)
  | take id =>
    refine .of_some h ?_
    unfold State.take
    split
    · exact .aside rfl (by simp)
    · split
      · exact .aside rfl (by simp)
      · split
        · exact .aside rfl (by simp)
        · exact .yielded rfl
  | forget id => exact .of_some h (.removed (.inl rfl) rfl (by simp))
  | unlock | collect | answer | countPending | timeOut =>
    exact .of_some h (.aside rfl (by simp [Task.isExpiry, State.timeOut]))

/-! ### Waiting -/

structure Waiting (m : Machine σ) : Prop where
  timed : ∀ mailbox ∈ m.state.mailboxes, mailbox.deadline ≠ none →
    m.state.options.requestTimeout ≠ none
  next : ∀ t ∈ m.agenda.tail, t.isExpiry = false
  due : ∀ id deadline rest, m.agenda = .expire id deadline :: rest →
    m.state.HasDeadline id deadline ∧ deadline ≤ m.state.clock

theorem Handling.options_eq {s s' : State σ} {t : Task} {ts : List Task}
    (handling : Handling s t s' ts) : s'.options = s.options := by
  cases handling with
  | aside handles | opened handles | posted handles | yielded handles | removed _ handles =>
    exact congrArg Handles.options handles
  | waited => rfl

namespace Waiting

variable {s s' : State σ} {t : Task} {ts rest tasks : List Task}

theorem of_none_isExpiry (timed : ∀ mailbox ∈ s.mailboxes, mailbox.deadline ≠ none →
      s.options.requestTimeout ≠ none) (h : ∀ t ∈ tasks, t.isExpiry = false) :
    Waiting ⟨s, tasks⟩ := by
  refine ⟨timed, fun t ht => h t (List.mem_of_mem_tail ht), ?_⟩
  rintro id deadline rest rfl
  cases h _ List.mem_cons_self

theorem timed_of_handling (h : Waiting ⟨s, t :: rest⟩) (handling : Handling s t s' ts) :
    ∀ mailbox ∈ s'.mailboxes, mailbox.deadline ≠ none → s'.options.requestTimeout ≠ none := by
  rw [handling.options_eq]
  have key : ∀ {handles : Handles}, s'.handles = handles → s'.mailboxes = handles.mailboxes :=
    fun heq => congrArg Handles.mailboxes heq
  have hmap : ∀ (p : Mailbox → Bool) (f : Mailbox → Mailbox), (∀ m, (f m).deadline = m.deadline) →
      ∀ mailbox ∈ s.mailboxes.map (fun m => if p m then f m else m), mailbox.deadline ≠ none →
        s.options.requestTimeout ≠ none := by
    intro p f hf mailbox hmem hdeadline
    obtain ⟨m, hm, rfl⟩ := List.mem_map.mp hmem
    refine h.timed m hm ?_
    split at hdeadline
    · rwa [hf] at hdeadline
    · exact hdeadline
  cases handling with
  | aside handles =>
    rw [key handles]
    exact h.timed
  | opened handles =>
    rw [key handles]
    intro mailbox hmem hdeadline
    rcases List.mem_append.mp hmem with hmem | hmem
    · exact h.timed mailbox hmem hdeadline
    · rw [List.mem_singleton.mp hmem] at hdeadline
      exact fun hnone => hdeadline (by simp [hnone])
  | posted handles =>
    rw [key handles]
    exact hmap _ (fun m => { m with outcome := _ }) fun _ => rfl
  | yielded handles =>
    rw [key handles]
    exact hmap _ (fun m => { m with finished := true }) fun _ => rfl
  | removed _ handles =>
    rw [key handles]
    exact fun mailbox hmem => h.timed mailbox (List.mem_of_mem_filter hmem)
  | waited => exact h.timed

theorem of_handling (h : Waiting ⟨s, t :: rest⟩) (handling : Handling s t s' ts) :
    Waiting ⟨s', ts ++ rest⟩ := by
  have htimed := h.timed_of_handling handling
  have key : (∀ t ∈ ts, t.isExpiry = false) → Waiting ⟨s', ts ++ rest⟩ := by
    intro others
    refine .of_none_isExpiry htimed fun u hu => ?_
    rcases List.mem_append.mp hu with hu | hu
    · exact others u hu
    · exact h.next u hu
  cases handling with
  | aside _ others | opened _ others | removed _ _ others => exact key others
  | posted | yielded => exact key (by simp)
  | @waited id limit deadline own =>
    refine ⟨htimed, fun u hu => ?_, ?_⟩
    · rcases List.mem_cons.mp hu with rfl | hu
      · rfl
      · exact h.next u hu
    · rintro id' deadline' rest' heq
      obtain ⟨⟨rfl, rfl⟩, -⟩ : (id = id' ∧ deadline = deadline') ∧ _ := by simpa using heq
      exact ⟨own, Nat.le_max_right _ _⟩

theorem isInvariant [Transport σ] : IsInvariant (Waiting (σ := σ)) where
  opening options transport :=
    .of_none_isExpiry (by simp [initial])
      fun _ hu => Task.isExpiry_of_isFree (isFree_of_mem_arrivals hu)
  trace h := .of_none_isExpiry h.timed (by simp)
  outer h _ free := .of_none_isExpiry h.timed fun t ht => Task.isExpiry_of_isFree (free t ht)
  step hs h := h.of_handling (handling_of_step hs)
  reorder _ h := ⟨h.timed, h.next, h.due⟩
  part _ h := .of_none_isExpiry h.timed (by simp)
  resume own due h := by
    refine ⟨h.timed, by simp, fun id deadline rest heq => ?_⟩
    simp only [List.cons.injEq, Task.expire.injEq] at heq
    obtain ⟨⟨rfl, rfl⟩, -⟩ := heq
    exact ⟨own, due⟩

end Waiting

end Switchboard.Client
