import Switchboard.Proofs.Client.Run

/-!
# Replacing the peer

The peer is replaced under a lock: the table is closed and its calls are told so (`replace`),
another peer is started (`launch`), the table is reopened (`reopen`) and the lock is given back
(`unlock`). `Turn` says how a step takes part in this, and `Replacement` what is always true of it:
the agenda holds what is left of at most one replacement, in order, the table is closed until it is
reopened, and from the start of the other peer to the reopening only arrivals are dealt with, none
of which finds a call.
-/

namespace Switchboard.Client

open Switchboard.Json

variable {σ : Type}

/-! ### Turns -/

def Task.isPeer : Task → Bool
  | .replace | .launch | .reopen _ | .unlock => true
  | _ => false

theorem Task.isPeer_of_isFree {t : Task} (h : t.isFree = true) : t.isPeer = false := by
  cases t <;> first | rfl | cases h

def peerTasks (tasks : List Task) : List Task := tasks.filter Task.isPeer

@[simp] theorem peerTasks_append (tasks tasks' : List Task) :
    peerTasks (tasks ++ tasks') = peerTasks tasks ++ peerTasks tasks' := List.filter_append ..

theorem peerTasks_eq_nil {tasks : List Task} (h : ∀ t ∈ tasks, t.isPeer = false) :
    peerTasks tasks = [] := by
  rw [peerTasks, List.filter_eq_nil_iff]
  exact fun t ht => by simp [h t ht]

theorem peerTasks_cons_of_isPeer {t : Task} (h : t.isPeer = true) (tasks : List Task) :
    peerTasks (t :: tasks) = t :: peerTasks tasks := List.filter_cons_of_pos h

theorem peerTasks_cons_of_not_isPeer {t : Task} (h : t.isPeer = false) (tasks : List Task) :
    peerTasks (t :: tasks) = peerTasks tasks := List.filter_cons_of_neg (by simp [h])

/-- How a client stands to its peer: whether it was closed for good, whether the lock is held, and
what its journal says last of either. -/
structure Standing where
  shut : Bool
  restarting : Bool
  turn : Option Mark

def State.standing (s : State σ) : Standing :=
  { shut := s.shut, restarting := s.restarting, turn := s.journal.lastTurn? }

/-- How a task takes part in a replacement, with the tasks that it puts in front. -/
inductive Turn (s : State σ) : Task → State σ → List Task → Prop where
  | aside {t : Task} {s' : State σ} {ts : List Task} (standing : s'.standing = s.standing)
      (self : t.isPeer = false) (others : ∀ t' ∈ ts, t'.isPeer = false) : Turn s t s' ts
  | locked {t : Task} {s' : State σ} {ts : List Task} (free : s.restarting = false)
      (standing : s'.standing = { s.standing with restarting := true }) (self : t.isPeer = false)
      (others : ∀ t' ∈ ts, t'.isPeer = false) : Turn s t s' (.replace :: .unlock :: ts)
  | refused (shut : s.shut = true) :
      Turn s .replace s [.answer (.refused (.closed clientClosed))]
  | drained {s' : State σ} {ts : List Task} (shut : s.shut = false)
      (standing : s'.standing = s.standing) (closed : s'.table.closed ≠ none)
      (others : ∀ t' ∈ ts, t'.isPeer = false) : Turn s .replace s' (ts ++ [.launch])
  | launched {s' : State σ} {arrivals : List Arrival} {failure : Option TransportFailure}
      (standing : s'.standing = { s.standing with turn := some .relaunched })
      (table : s'.table = s.table) :
      Turn s .launch s' (arrivals.map .arrive ++ [.reopen failure])
  | reopened {failure : Option TransportFailure} {s' : State σ} {r : Reply}
      (standing : s'.standing = s.standing) : Turn s (.reopen failure) s' [.answer r]
  | unlocked {s' : State σ} (standing : s'.standing = { s.standing with restarting := false }) :
      Turn s .unlock s' []
  | shut {s' : State σ} {ts : List Task} (shut : s.shut = false)
      (standing : s'.standing = { s.standing with shut := true, turn := some .shut })
      (others : ∀ t' ∈ ts, t'.isPeer = false) : Turn s .close s' ts

namespace State

theorem turn_dispatch {s s' : State σ} {method : String} {params : Value} {callback : Callback}
    {ts : List Task} (h : s.dispatch method params callback = some (s', ts)) :
    Turn s (.dispatch method params callback) s' ts := by
  obtain ⟨s₁, hs₁, hcases⟩ := dispatch_cases h
  have hstanding : s₁.standing = s.standing := by rcases hs₁ with rfl | rfl <;> rfl
  rcases hcases with ⟨rfl, rfl⟩ | ⟨rfl, reason, rfl⟩ | ⟨hfree, rfl, event, rfl⟩
  · exact .aside hstanding rfl (by simp [Task.isPeer])
  · exact .aside hstanding rfl fun _ hu => Task.isPeer_of_isFree (callback.isFree_of_mem_refusal hu)
  · exact .locked hfree (hstanding ▸ by simp [standing]) rfl (by simp [Task.isPeer])

theorem turn_register [Transport σ] (s : State σ) (begun : Nat) (method : String) (params : Value)
    (callback : Callback) :
    Turn s (.register begun method params callback) (s.register begun method params callback).1
      (s.register begun method params callback).2 := by
  rcases s.register_cases begun method params callback with
    ⟨reason, heq⟩ | ⟨id, table, clock, marks, arrivals, failure, -, hmarks, heq⟩
  · rw [heq]
    exact .aside rfl rfl fun _ hu => Task.isPeer_of_isFree (callback.isFree_of_mem_refusal hu)
  · rw [heq]
    refine .aside (by simp [standing, Journal.lastTurn?_append hmarks]) rfl fun u hu => ?_
    rcases List.mem_append.mp hu with hu | hu
    · exact Task.isPeer_of_isFree (isFree_of_mem_arrivals hu)
    · rw [List.mem_singleton.mp hu]
      rfl

theorem turn_settle (s : State σ) (id : Int) (method : String) (failure : Option TransportFailure) :
    Turn s (.settle id method failure) (s.settle id method failure).1
      (s.settle id method failure).2 := by
  unfold settle
  split
  · exact .aside (by simp [standing]) rfl (by simp [Task.isPeer])
  · simp only
    split
    · exact .aside (by simp [standing, refuse]) rfl
        fun _ hu => Task.isPeer_of_isFree (Callback.isFree_of_mem_refusal hu)
    · exact .aside (by simp [standing]) rfl (by simp [Task.isPeer])

theorem standing_closeTable (s : State σ) (reason : String) :
    (s.closeTable reason).1.standing = s.standing := by
  obtain ⟨marks, hmarks, heq⟩ := s.closeTable_spec reason
  rw [heq]
  simp [standing, Journal.lastTurn?_append hmarks]

theorem standing_stopWatching (s : State σ) : s.stopWatching.standing = s.standing := by
  obtain ⟨events, heq⟩ := s.stopWatching_spec
  rw [heq]
  simp [standing]

theorem closed_closeTable (s : State σ) (reason : String) :
    (s.closeTable reason).1.table.closed ≠ none := by
  obtain ⟨marks, -, heq⟩ := s.closeTable_spec reason
  rw [heq]
  simp [Table.close]

theorem isPeer_of_mem_closeTable {s : State σ} {reason : String} {t : Task}
    (h : t ∈ (s.closeTable reason).2) : t.isPeer = false := by
  obtain ⟨e, _, rfl⟩ := List.mem_map.mp h
  rfl

theorem turn_replace (s : State σ) : Turn s .replace s.replace.1 s.replace.2 := by
  unfold replace
  split
  · rename_i h
    exact .refused h
  · rename_i h
    refine .drained (by simpa using h) ?_ (closed_closeTable _ _) fun _ => isPeer_of_mem_closeTable
    rw [standing_closeTable]
    simp [standing]

theorem turn_close (s : State σ) : Turn s .close s.close.1 s.close.2 := by
  unfold close
  split
  · exact .aside rfl rfl (by simp [Task.isPeer])
  · rename_i h
    refine .shut (by simpa using h) ?_ fun u hu => ?_
    · rw [standing_closeTable, standing_stopWatching]
      simp [standing]
    · rcases List.mem_append.mp hu with hu | hu
      · exact isPeer_of_mem_closeTable hu
      · simp only [List.mem_cons, List.not_mem_nil, or_false] at hu
        rcases hu with rfl | rfl <;> rfl

theorem turn_arrive [Transport σ] (s : State σ) (a : Arrival) :
    Turn s (.arrive a) (s.arrive a).1 (s.arrive a).2 := by
  rcases s.arrive_cases a with ⟨text, e, table, payload, event, rfl, -, -, heq⟩ |
    ⟨tally, marks, -, -, hmarks, heq⟩ | ⟨reason, marks, rfl, hmarks, heq⟩
  · rw [heq]
    exact .aside (by simp [standing]) rfl (by simp [Task.isPeer])
  · rw [heq]
    exact .aside (by simp [standing, Journal.lastTurn?_append hmarks]) rfl (by simp)
  · rw [heq]
    exact .aside (by simp [standing, Journal.lastTurn?_append hmarks]) rfl (by simp [Task.isPeer])

theorem turn_cancel (s : State σ) (id : Int) :
    Turn s (.cancel id) (s.cancel id).1 (s.cancel id).2 := by
  unfold cancel
  simp only
  split <;> exact .aside (by simp [standing]) rfl (by simp [Task.isPeer])

theorem turn_abandon (s : State σ) (id : Int) :
    Turn s (.abandon id) (s.abandon id).1 (s.abandon id).2 := by
  unfold abandon
  simp only
  split <;> exact .aside (by simp [standing]) rfl (by simp [Task.isPeer])

theorem turn_expire (s : State σ) (id : Int) (deadline : Nat) :
    Turn s (.expire id deadline) (s.expire id deadline).1 (s.expire id deadline).2 := by
  unfold expire
  simp only
  split <;> exact .aside (by simp [standing]) rfl (by simp [Task.isPeer])

theorem turn_script (s : State σ) (label : String) (outcome : Outcome) (actions : List Action)
    (replies : List Reply) (owner : Bool) :
    Turn s (.script label outcome actions replies owner)
      (s.script label outcome actions replies owner).1
      (s.script label outcome actions replies owner).2 := by
  unfold script
  split
  · rename_i a rest
    split
    · exact .aside (by simp [standing]) rfl (by simp)
    · refine .aside rfl rfl fun u hu => ?_
      rcases List.mem_cons.mp hu with rfl | hu
      · exact Task.isPeer_of_isFree a.isFree_task
      · rw [List.mem_singleton.mp hu]
        rfl
  · split
    · exact .aside rfl rfl (by simp [Task.isPeer])
    · exact .aside (by simp [standing]) rfl (by simp)

theorem turn_await [Transport σ] (s : State σ) (id : Int) (limit : Option Nat) :
    Turn s (.await id limit) (s.await id limit).1 (s.await id limit).2 := by
  rcases s.await_cases id limit with
    ⟨transport, clock, tasks, -, hfree, heq⟩ | ⟨deadline, -, heq⟩
  · rw [heq]
    exact .aside rfl rfl fun u hu => Task.isPeer_of_isFree (hfree u hu)
  · rw [heq]
    exact .aside rfl rfl (by simp [Task.isPeer])

end State

theorem Turn.of_some {s s' : State σ} {t : Task} {ts : List Task} {result : State σ × List Task}
    (h : some result = some (s', ts)) (turn : Turn s t result.1 result.2) : Turn s t s' ts := by
  obtain rfl := Option.some.inj h
  exact turn

/-- **Every step is one of these turns.** -/
theorem turn_of_step [Transport σ] {s s' : State σ} {t : Task} {ts : List Task}
    (h : s.step t = some (s', ts)) : Turn s t s' ts := by
  cases t with
  | dispatch method params callback => exact State.turn_dispatch h
  | restart =>
    simp only [State.step, State.restart] at h
    split at h
    · cases h
    · rename_i hfree
      exact .of_some h (.locked (by simpa using hfree) rfl rfl (by simp))
  | proceed begun method params callback =>
    refine .of_some h ?_
    unfold State.proceed
    split
    · exact .aside rfl rfl fun _ hu => Task.isPeer_of_isFree (callback.isFree_of_mem_refusal hu)
    · exact .aside rfl rfl (by simp [Task.isPeer])
  | register begun method params callback =>
    exact .of_some h (s.turn_register begun method params callback)
  | settle id method failure => exact .of_some h (s.turn_settle id method failure)
  | cancel id => exact .of_some h (s.turn_cancel id)
  | replace => exact .of_some h s.turn_replace
  | launch => exact .of_some h (.launched (by simp [State.launch, State.standing])
      (by simp [State.launch]))
  | reopen failure =>
    refine .of_some h ?_
    cases failure with
    | some failure => exact .reopened rfl
    | none => exact .reopened (by simp [State.standing, State.reopen])
  | unlock => exact .of_some h (.unlocked rfl)
  | close => exact .of_some h s.turn_close
  | closeTransport =>
    exact .of_some h (.aside (by simp [State.closeTransport, State.standing]) rfl
      fun _ hu => Task.isPeer_of_isFree (isFree_of_mem_arrivals hu))
  | arrive a => exact .of_some h (s.turn_arrive a)
  | complete id callback outcome =>
    refine .of_some h ?_
    cases callback with
    | mailbox =>
      exact .aside (by simp [State.complete, State.standing]) rfl (by simp [State.complete])
    | script label actions owner =>
      exact .aside (by simp [State.complete, State.standing]) rfl
        (by simp [State.complete, Task.isPeer])
  | script label outcome actions replies owner =>
    exact .of_some h (s.turn_script label outcome actions replies owner)
  | release =>
    refine .of_some h (.aside rfl rfl fun u hu => ?_)
    simp only [State.release] at hu
    split at hu
    · rw [List.mem_singleton.mp hu]
      rfl
    · cases hu
  | sweep now =>
    refine .of_some h (.aside ?_ rfl fun u hu => ?_)
    · rcases s.sweep_cases now with ⟨-, heq⟩ | ⟨-, heq⟩ <;>
      · rw [heq]
        simp [State.standing]
    · rcases State.eq_of_mem_sweep hu with ⟨e, rfl⟩ | ⟨count, rfl⟩ <;> rfl
  | timeOut e =>
    exact .of_some h (.aside (by simp [State.timeOut, State.standing]) rfl
      (by simp [State.timeOut, Task.isPeer]))
  | endSweep count =>
    refine .of_some h (.aside ?_ rfl (by simp [State.endSweep]))
    simp only [State.endSweep]
    split
    · rfl
    · simp [State.standing]
  | abandon id => exact .of_some h (s.turn_abandon id)
  | await id limit => exact .of_some h (s.turn_await id limit)
  | expire id deadline => exact .of_some h (s.turn_expire id deadline)
  | take id =>
    refine .of_some h (.aside ?_ rfl (by simp))
    simp only [State.take]
    split
    · rfl
    · split
      · rfl
      · split <;> rfl
  | collect | answer | countPending | forget =>
    exact .of_some h (.aside rfl rfl (by simp [Task.isPeer]))

/-! ### One replacement at a time -/

inductive Phase : List Task → Bool → Prop where
  | free : Phase [] false
  | replacing : Phase [.replace, .unlock] true
  | launching : Phase [.launch, .unlock] true
  | reopening (failure : Option TransportFailure) : Phase [.reopen failure, .unlock] true
  | unlocking : Phase [.unlock] true

structure Replacement (m : Machine σ) : Prop where
  phase : Phase (peerTasks m.agenda) m.state.restarting
  empty : m.state.table.closed ≠ none → m.state.table.entries = []
  closed : ∀ t ∈ m.agenda, t = .launch ∨ (∃ failure, t = .reopen failure) →
    m.state.table.closed ≠ none
  front : ∀ failure, .reopen failure ∈ m.agenda → ∃ (arrivals : List Arrival) (rest : List Task),
    m.agenda = arrivals.map .arrive ++ .reopen failure :: rest

theorem closed_of_effect {s s' : State σ} {t : Task} {ts : List Task} (effect : Effect s t s' ts)
    (h : s.table.closed ≠ none) (ht : t ≠ .reopen none) : s'.table.closed ≠ none := by
  have key : ∀ {table : Table},
      s'.table = table → table.closed ≠ none → s'.table.closed ≠ none := by
    rintro _ rfl hc
    exact hc
  cases effect with
  | opened registered books => exact absurd (Table.register_eq_ok registered).1 h
  | aside books | accepted _ books | counted _ _ books | timedOut books | completed books =>
    exact key (congrArg Books.table books) h
  | withdrew taken books | took _ taken books =>
    refine key (congrArg Books.table books) ?_
    rw [(Table.take_eq_some taken).2.2]
    exact h
  | swept books => exact key (congrArg Books.table books) h
  | drained _ books =>
    refine key (congrArg Books.table books) ?_
    simp [Table.close]
  | reopened => exact absurd rfl ht

theorem empty_of_effect {s s' : State σ} {t : Task} {ts : List Task} (effect : Effect s t s' ts)
    (h : s.table.closed ≠ none → s.table.entries = []) :
    s'.table.closed ≠ none → s'.table.entries = [] := by
  have key : ∀ {table : Table}, s'.table = table → (table.closed ≠ none → table.entries = []) →
      s'.table.closed ≠ none → s'.table.entries = [] := by
    rintro _ rfl hc
    exact hc
  cases effect with
  | opened registered books =>
    obtain ⟨hnone, -, rfl⟩ := Table.register_eq_ok registered
    exact key (congrArg Books.table books) fun hc => absurd hnone hc
  | aside books | accepted _ books | counted _ _ books | timedOut books | completed books =>
    exact key (congrArg Books.table books) h
  | withdrew taken books | took _ taken books =>
    refine key (congrArg Books.table books) ?_
    rw [(Table.take_eq_some taken).2.2]
    intro hc
    simp [h hc]
  | swept books =>
    refine key (congrArg Books.table books) fun hc => ?_
    simp only [Table.splitOverdue] at hc ⊢
    simp [h hc]
  | drained _ books => exact key (congrArg Books.table books) fun _ => rfl
  | reopened books => exact key (congrArg Books.table books) fun hc => absurd rfl hc

theorem mem_peerTasks {t : Task} {tasks : List Task} (h : t.isPeer = true) :
    t ∈ peerTasks tasks ↔ t ∈ tasks := by simp [peerTasks, h]

theorem Phase.held {t : Task} {tasks : List Task} {restarting : Bool}
    (h : Phase (t :: tasks) restarting) : restarting = true := by
  cases h <;> rfl

theorem Phase.tail {t : Task} {tasks : List Task} {restarting : Bool}
    (h : Phase (t :: tasks) restarting) (ht : t ≠ .unlock) : tasks = [.unlock] := by
  cases h with
  | unlocking => exact absurd rfl ht
  | _ => rfl

theorem Phase.tail_unlock {tasks : List Task} {restarting : Bool}
    (h : Phase (.unlock :: tasks) restarting) : tasks = [] := by
  cases h
  rfl

theorem Phase.of_turn {s s' : State σ} {t : Task} {ts rest : List Task}
    (h : Phase (peerTasks (t :: rest)) s.restarting) (turn : Turn s t s' ts) :
    Phase (peerTasks (ts ++ rest)) s'.restarting := by
  have key : ∀ {standing : Standing},
      s'.standing = standing → s'.restarting = standing.restarting :=
    fun h => congrArg Standing.restarting h
  rw [peerTasks_append]
  cases turn with
  | aside standing self others =>
    rw [peerTasks_cons_of_not_isPeer self] at h
    rw [peerTasks_eq_nil others, key standing]
    exact h
  | locked free standing self others =>
    rw [peerTasks_cons_of_not_isPeer self, free] at h
    rw [key standing, peerTasks_cons_of_isPeer rfl, peerTasks_cons_of_isPeer rfl,
      peerTasks_eq_nil others]
    generalize peerTasks rest = tasks at h ⊢
    cases h
    exact .replacing
  | refused =>
    rw [peerTasks_cons_of_isPeer rfl] at h
    rw [h.tail (by simp), h.held]
    exact .unlocking
  | drained _ standing _ others =>
    rw [peerTasks_cons_of_isPeer rfl] at h
    rw [h.tail (by simp), key standing, peerTasks_append, peerTasks_eq_nil others]
    simp only [State.standing, h.held]
    exact .launching
  | launched standing =>
    rw [peerTasks_cons_of_isPeer rfl] at h
    rw [h.tail (by simp), key standing, peerTasks_append,
      peerTasks_eq_nil fun _ hu => Task.isPeer_of_isFree (isFree_of_mem_arrivals hu)]
    simp only [State.standing, h.held]
    exact .reopening _
  | reopened standing =>
    rw [peerTasks_cons_of_isPeer rfl] at h
    rw [h.tail (by simp), key standing]
    simp only [State.standing, h.held]
    exact .unlocking
  | unlocked standing =>
    rw [peerTasks_cons_of_isPeer rfl] at h
    rw [h.tail_unlock, key standing]
    exact .free
  | shut _ standing others =>
    rw [peerTasks_cons_of_not_isPeer rfl] at h
    rw [peerTasks_eq_nil others, key standing]
    exact h

namespace Replacement

variable {s s' : State σ} {t : Task} {ts rest : List Task}

/-- Reopening is what the replacement under way does last, so no other reopening waits behind it. -/
theorem not_mem_of_reopen {failure : Option TransportFailure}
    (h : Replacement ⟨s, .reopen failure :: rest⟩) :
    (∀ failure', .reopen failure' ∉ rest) ∧ .launch ∉ rest := by
  have hphase := h.phase
  rw [peerTasks_cons_of_isPeer rfl] at hphase
  have htail := hphase.tail (by simp)
  constructor
  · intro failure' hmem
    rw [← mem_peerTasks rfl, htail] at hmem
    simp at hmem
  · intro hmem
    rw [← mem_peerTasks rfl, htail] at hmem
    simp at hmem

theorem closed_of_step (h : Replacement ⟨s, t :: rest⟩) (effect : Effect s t s' ts)
    (turn : Turn s t s' ts) (u : Task) (hu : u ∈ ts ++ rest)
    (hpeer : u = .launch ∨ ∃ failure, u = .reopen failure) : s'.table.closed ≠ none := by
  have hself : u.isPeer = true := by rcases hpeer with rfl | ⟨_, rfl⟩ <;> rfl
  rcases List.mem_append.mp hu with hu | hu
  · cases turn with
    | aside _ _ others | shut _ _ others => exact absurd hself (by simp [others u hu])
    | locked _ _ _ others =>
      rcases List.mem_cons.mp hu with rfl | hu
      · rcases hpeer with h | ⟨_, h⟩ <;> cases h
      · rcases List.mem_cons.mp hu with rfl | hu
        · rcases hpeer with h | ⟨_, h⟩ <;> cases h
        · exact absurd hself (by simp [others u hu])
    | refused | reopened =>
      obtain rfl := List.mem_singleton.mp hu
      cases hself
    | drained _ _ closed => exact closed
    | launched _ table =>
      rw [table]
      exact h.closed .launch List.mem_cons_self (.inl rfl)
    | unlocked => cases hu
  · refine closed_of_effect effect (h.closed u (List.mem_cons_of_mem t hu) hpeer) ?_
    rintro rfl
    rcases hpeer with rfl | ⟨failure, rfl⟩
    · exact h.not_mem_of_reopen.2 hu
    · exact h.not_mem_of_reopen.1 failure hu

theorem front_of_step [Transport σ] (h : Replacement ⟨s, t :: rest⟩) (hs : s.step t = some (s', ts))
    (turn : Turn s t s' ts) {failure : Option TransportFailure}
    (hmem : .reopen failure ∈ ts ++ rest) :
    ∃ (arrivals : List Arrival) (rest' : List Task),
      ts ++ rest = arrivals.map .arrive ++ .reopen failure :: rest' := by
  rcases List.mem_append.mp hmem with hu | hu
  · cases turn with
    | aside _ _ others | shut _ _ others => cases others _ hu
    | locked _ _ _ others =>
      simp only [List.mem_cons, reduceCtorEq, false_or] at hu
      cases others _ hu
    | refused | reopened => simp at hu
    | drained _ _ _ others =>
      simp only [List.mem_append, List.mem_singleton, reduceCtorEq, or_false] at hu
      cases others _ hu
    | @launched _ arrivals failure' =>
      obtain rfl : failure = failure' := by simpa using hu
      exact ⟨arrivals, rest, by simp⟩
    | unlocked => cases hu
  · obtain ⟨arrivals, rest', hagenda⟩ := h.front failure (List.mem_cons_of_mem t hu)
    cases arrivals with
    | nil =>
      obtain ⟨rfl, rfl⟩ := List.cons.inj hagenda
      exact absurd hu (h.not_mem_of_reopen.1 failure)
    | cons a arrivals =>
      obtain ⟨rfl, rfl⟩ := List.cons.inj hagenda
      -- The table is closed, so the arrival leads to nothing.
      have hclosed := h.closed (.reopen failure) (by simp) (.inr ⟨failure, rfl⟩)
      have htasks := (s.arrive_of_entries_eq_nil (h.empty hclosed) a).1
      have hts : (s.arrive a).2 = ts := congrArg Prod.snd (Option.some.inj hs)
      rw [htasks] at hts
      exact ⟨arrivals, rest', by rw [← hts]; rfl⟩

theorem isInvariant [Transport σ] : IsInvariant (Replacement (σ := σ)) where
  opening options transport := by
    have hpeer : ∀ t ∈ (opening options transport).agenda, t.isPeer = false :=
      fun _ hu => Task.isPeer_of_isFree (isFree_of_mem_arrivals hu)
    refine ⟨?_, by simp [opening, initial, Table.empty], fun t ht hor => ?_, fun failure hmem => ?_⟩
    · rw [peerTasks_eq_nil hpeer]
      simp only [opening, initial, State.report_eq]
      exact .free
    · rcases hor with rfl | ⟨failure, rfl⟩ <;> cases hpeer _ ht
    · cases hpeer _ hmem
  trace h := ⟨h.phase, h.empty, h.closed, h.front⟩
  outer {s _ _ tasks} h _ free := by
    have hpeer : ∀ t ∈ tasks, t.isPeer = false := fun t ht => Task.isPeer_of_isFree (free t ht)
    refine ⟨?_, h.empty, fun t ht hor => ?_, fun failure hmem => ?_⟩
    · rw [peerTasks_eq_nil hpeer]
      exact h.phase
    · rcases hor with rfl | ⟨failure, rfl⟩ <;> cases hpeer _ ht
    · cases hpeer _ hmem
  step hs h := by
    have turn := turn_of_step hs
    exact ⟨h.phase.of_turn turn, empty_of_effect (effect_of_step hs) h.empty,
      h.closed_of_step (effect_of_step hs) turn, fun _ => h.front_of_step hs turn⟩
  reorder hperm h := by
    refine ⟨h.phase, fun hc => ?_, h.closed, h.front⟩
    have hnil := h.empty hc
    rw [hnil] at hperm
    exact hperm.eq_nil
  part {s tasks} waits h := by
    have hpeer : ∀ t ∈ tasks, t.isPeer = false := fun t ht => by
      have := waits t ht
      cases t <;> first | rfl | cases this
    refine ⟨?_, h.empty, by simp, by simp⟩
    have hphase := h.phase
    rwa [peerTasks_eq_nil hpeer] at hphase
  resume _ _ h := ⟨h.phase, h.empty, by simp, by simp⟩

end Replacement

end Switchboard.Client
