import Switchboard.Proofs.Client.Closing
import Switchboard.Proofs.Client.Progress

/-!
# Clients that wait for themselves

A task that needs the restart lock while it is held cannot be done. Nobody else gives the lock back:
that is a later task of the same agenda, so the client waits for itself, for good.

`Held` says what stands in front of that task while the lock is held. When the table was drained for
a replacement there are the callbacks that are being told, with what they do to the client
(`Telling`). Of that only a restart needs the lock, or a dispatch that would have the peer replaced
on demand; before the drain and after it nothing does. So a client waits for itself exactly if one
of its callbacks, told that the peer is being replaced, has it replaced once more
(`Machine.CallbackNeedsLock`). All other work comes to its end.
-/

namespace Switchboard.Client

open Switchboard.Json

variable {σ : Type}

/-! ### What needs the lock -/

/-- Whether a task takes the restart lock. -/
def State.NeedsLock (s : State σ) : Task → Prop
  | .restart => True
  | .dispatch .. => s.table.closed ≠ none ∧ s.shut = false ∧ s.options.restart = .onDemand
  | _ => False

/-- All tasks can be done but those that need the lock while it is held. -/
theorem State.step_eq_none_iff [Transport σ] {s : State σ} {t : Task} :
    s.step t = none ↔ s.restarting = true ∧ s.NeedsLock t := by
  cases t with
  | restart => simp [step, restart, NeedsLock]
  | dispatch method params callback =>
    simp only [step, dispatch, NeedsLock]
    generalize hs₁ : (if callback.isOwner = true then { s with owners := s.owners + 1 } else s) = s₁
    have hsame : s₁.table = s.table ∧ s₁.shut = s.shut ∧ s₁.options = s.options ∧
        s₁.restarting = s.restarting := by
      subst hs₁
      split <;> exact ⟨rfl, rfl, rfl, rfl⟩
    obtain ⟨htable, hshut, hoptions, hrestarting⟩ := hsame
    rw [← htable, ← hshut, ← hoptions, ← hrestarting]
    cases s₁.table.closed <;> cases s₁.shut <;> cases s₁.options.restart <;>
      cases s₁.restarting <;> simp
  | _ => simp [step, NeedsLock]

/-! ### While the lock is held -/

def replaced : Outcome := .error (.closed "generator restarting")

/-- Whether a task is one of those that actions leave behind while the table is closed. -/
def Task.isMinor : Task → Bool
  | .close | .release | .answer _ | .closeTransport | .arrive _ => true
  | _ => false

/-- Callbacks that are being told of a replacement. What a callback does next to the client stands
before the task that goes on with this callback. -/
inductive Telling : List Task → Prop where
  | nil : Telling []
  | complete (id : Int) (callback : Callback) {rest : List Task} (h : Telling rest) :
      Telling (.complete id callback replaced :: rest)
  | script (label : String) (actions : List Action) (replies : List Reply) (owner : Bool)
      {rest : List Task} (h : Telling rest) :
      Telling (.script label replaced actions replies owner :: rest)
  | collect (label : String) (actions : List Action) (replies : List Reply) (owner : Bool)
      {rest : List Task} (h : Telling rest) :
      Telling (.collect label replaced actions replies owner :: rest)
  | act (a : Action) (label : String) (actions : List Action) (replies : List Reply) (owner : Bool)
      {rest : List Task} (h : Telling rest) :
      Telling (a.task :: .collect label replaced actions replies owner :: rest)
  | minor {t : Task} (ht : t.isMinor = true) {rest : List Task} (h : Telling rest) :
      Telling (t :: rest)

/-- What stands before the task that gives the lock back. -/
inductive Front : List Task → Prop where
  | replace : Front [.replace]
  | telling {tasks : List Task} (h : Telling tasks) : Front (tasks ++ [.launch])
  | opening (arrivals : List Arrival) (failure : Option TransportFailure) :
      Front (arrivals.map .arrive ++ [.reopen failure])
  | answer (r : Reply) : Front [.answer r]
  | nil : Front []

theorem Telling.of_minor {tasks rest : List Task} (h : Telling rest)
    (minor : ∀ t ∈ tasks, t.isMinor = true) : Telling (tasks ++ rest) := by
  induction tasks with
  | nil => exact h
  | cons t tasks ih =>
    exact .minor (minor t List.mem_cons_self) (ih fun u hu => minor u (List.mem_cons_of_mem t hu))

theorem Telling.of_entries (entries : List Entry) :
    Telling (entries.map fun e => .complete e.id e.callback replaced) := by
  induction entries with
  | nil => exact .nil
  | cons e entries ih => exact .complete e.id e.callback ih

theorem isMinor_of_mem_arrivals {arrivals : List Arrival} {t : Task}
    (h : t ∈ arrivals.map Task.arrive) : t.isMinor = true := by
  obtain ⟨a, _, rfl⟩ := List.mem_map.mp h
  rfl

theorem Callback.isMinor_of_mem_refusal {c : Callback} {r : Reply} {t : Task}
    (h : t ∈ c.drop ++ [.answer r]) : t.isMinor = true := by
  rcases c.eq_of_mem_refusal h with rfl | rfl <;> rfl

section

variable [Transport σ] {s s' : State σ} {t : Task} {ts : List Task}

theorem minor_of_step (hs : s.step t = some (s', ts)) (held : s.restarting = true)
    (closed : s.table.closed ≠ none) (empty : s.table.entries = [])
    (ht : t.isMinor = true ∨ ∃ a : Action, t = a.task) : ∀ u ∈ ts, u.isMinor = true := by
  have key : ∀ {result : State σ × List Task}, some result = some (s', ts) →
      (∀ u ∈ result.2, u.isMinor = true) → ∀ u ∈ ts, u.isMinor = true := by
    rintro _ ⟨⟩ hminor
    exact hminor
  have hclose : ∀ u ∈ s.close.2, u.isMinor = true := by
    unfold State.close
    split
    · simp [Task.isMinor]
    · obtain ⟨events, heq⟩ := State.stopWatching_spec ({ s with shut := true }.note .shut)
      simp only [heq]
      rw [State.tasks_closeTable]
      simp [empty, Task.isMinor]
  cases t with
  | close => exact key hs hclose
  | release =>
    refine key hs ?_
    simp only [State.release]
    split <;> simp [Task.isMinor]
  | answer r => exact key hs (by simp)
  | closeTransport => exact key hs fun _ => isMinor_of_mem_arrivals
  | arrive a => exact key hs (by simp [(s.arrive_of_entries_eq_nil empty a).1])
  | cancel id =>
    refine key hs ?_
    have hnone : s.table.take id = none := Table.take_eq_none_iff.mpr (by simp [Table.ids, empty])
    simp only [State.cancel, State.note, hnone]
    simp [Task.isMinor]
  | countPending => exact key hs (by simp)
  | restart =>
    have hneeds : s.NeedsLock .restart := trivial
    rw [State.step_eq_none_iff.mpr ⟨held, hneeds⟩] at hs
    cases hs
  | dispatch method params callback =>
    obtain ⟨reason, hreason⟩ := Option.ne_none_iff_exists'.mp closed
    have hfree : ¬ s.NeedsLock (.dispatch method params callback) := by
      intro hneeds
      rw [State.step_eq_none_iff.mpr ⟨held, hneeds⟩] at hs
      cases hs
    have hpolicy : s.shut = true ∨ s.options.restart = .manual := by
      cases hshut : s.shut with
      | true => exact .inl rfl
      | false =>
        cases hrestart : s.options.restart with
        | manual => exact .inr rfl
        | onDemand => exact absurd ⟨closed, hshut, hrestart⟩ hfree
    rw [s.step_dispatch_of_closed hreason hpolicy] at hs
    exact key hs fun _ => callback.isMinor_of_mem_refusal
  | _ =>
    rcases ht with h | ⟨a, h⟩
    · cases h
    · cases a <;> cases h

theorem Telling.of_step {rest : List Task} (h : Telling (t :: rest))
    (hs : s.step t = some (s', ts)) (held : s.restarting = true) (closed : s.table.closed ≠ none)
    (empty : s.table.entries = []) : Telling (ts ++ rest) := by
  have key : ∀ {result : State σ × List Task}, some result = some (s', ts) →
      Telling (result.2 ++ rest) → Telling (ts ++ rest) := by
    rintro _ ⟨⟩ htelling
    exact htelling
  cases h with
  | complete id callback h =>
    cases callback with
    | mailbox => exact key hs h
    | script label actions owner => exact key hs (.script label actions [] owner h)
  | script label actions replies owner h =>
    refine key hs ?_
    cases actions with
    | cons a actions =>
      simp only [State.script]
      split
      · exact h
      · exact .act a label actions replies owner h
    | nil =>
      simp only [State.script]
      split
      · exact .minor rfl (.script label [] replies false h)
      · exact h
  | collect label actions replies owner h =>
    exact key hs (.minor rfl (.script label actions (replies ++ [s.reply]) owner h))
  | act a label actions replies owner h =>
    exact .of_minor (.collect label actions replies owner h)
      (minor_of_step hs held closed empty (.inr ⟨a, rfl⟩))
  | minor ht h => exact h.of_minor (minor_of_step hs held closed empty (.inl ht))

/-- What stands before the task that gives the lock back, as long as it is held. -/
structure Held (m : Machine σ) : Prop where
  replacement : Replacement m
  front : m.state.restarting = true →
    ∃ front rest, m.agenda = front ++ .unlock :: rest ∧ Front front

omit [Transport σ] in
theorem front_of_locked (turn : Turn s t s' ts) (free : s.restarting = false)
    (held : s'.restarting = true) : ∃ rest, ts = .replace :: .unlock :: rest := by
  have key : ∀ {standing : Standing},
      s'.standing = standing → standing.restarting = s.restarting → False := by
    rintro _ rfl h
    simp [State.standing, held, free] at h
  cases turn with
  | locked => exact ⟨_, rfl⟩
  | refused => simp [held] at free
  | aside standing | drained _ standing | launched standing | reopened standing
  | shut _ standing => exact (key standing rfl).elim
  | unlocked standing => exact (key standing free.symm).elim

theorem front_of_step {rest : List Task} (h : Held ⟨s, t :: rest⟩)
    (hs : s.step t = some (s', ts)) (held : s'.restarting = true) :
    ∃ front rest', ts ++ rest = front ++ .unlock :: rest' ∧ Front front := by
  cases hrestarting : s.restarting with
  | false =>
    obtain ⟨others, rfl⟩ := front_of_locked (turn_of_step hs) hrestarting held
    exact ⟨[.replace], others ++ rest, rfl, .replace⟩
  | true =>
    obtain ⟨front, rest', hagenda, hfront⟩ := h.front hrestarting
    have key : ∀ {result : State σ × List Task}, some result = some (s', ts) →
        (∃ front rest₁, result.2 ++ rest = front ++ .unlock :: rest₁ ∧ Front front) →
        ∃ front rest₁, ts ++ rest = front ++ .unlock :: rest₁ ∧ Front front := by
      rintro _ ⟨⟩ hnext
      exact hnext
    simp only at hagenda
    cases hfront with
    | replace =>
      obtain ⟨rfl, rfl⟩ := List.cons.inj hagenda
      refine key hs ?_
      simp only [State.replace]
      split
      · exact ⟨[.answer _], rest', rfl, .answer _⟩
      · refine ⟨_, rest', rfl, .telling ?_⟩
        rw [State.tasks_closeTable]
        exact .of_entries _
    | @telling tasks htelling =>
      cases tasks with
      | nil =>
        obtain ⟨rfl, rfl⟩ := List.cons.inj hagenda
        exact key hs ⟨_, rest', rfl, .opening _ _⟩
      | cons u tasks =>
        obtain ⟨rfl, rfl⟩ := List.cons.inj hagenda
        have hclosed := h.replacement.closed .launch (by simp) (.inl rfl)
        have hnext := htelling.of_step hs hrestarting hclosed (h.replacement.empty hclosed)
        exact ⟨ts ++ tasks ++ [.launch], rest', by simp, .telling hnext⟩
    | opening arrivals failure =>
      cases arrivals with
      | nil =>
        obtain ⟨rfl, rfl⟩ := List.cons.inj hagenda
        refine key hs ?_
        cases failure with
        | some failure => exact ⟨[.answer _], rest', rfl, .answer _⟩
        | none => exact ⟨[.answer _], rest', rfl, .answer _⟩
      | cons a arrivals =>
        obtain ⟨rfl, rfl⟩ := List.cons.inj hagenda
        -- The table is closed, so the arrival leads to nothing.
        have hclosed := h.replacement.closed (.reopen failure) (by simp) (.inr ⟨failure, rfl⟩)
        have hnothing := (s.arrive_of_entries_eq_nil (h.replacement.empty hclosed) a).1
        refine key hs ⟨arrivals.map .arrive ++ [.reopen failure], rest', ?_, .opening _ _⟩
        rw [hnothing]
        rfl
    | answer r =>
      obtain ⟨rfl, rfl⟩ := List.cons.inj hagenda
      exact key hs ⟨[], rest', rfl, .nil⟩
    | nil =>
      obtain ⟨rfl, rfl⟩ := List.cons.inj hagenda
      obtain ⟨rfl, -⟩ := Prod.mk.inj (Option.some.inj hs)
      cases held

theorem Held.isInvariant : IsInvariant (Held (σ := σ)) where
  opening options transport :=
    ⟨Replacement.isInvariant.opening options transport, fun held => by
      simp [opening, initial] at held⟩
  trace h := ⟨Replacement.isInvariant.trace h.replacement, h.front⟩
  outer h drifts free := by
    refine ⟨Replacement.isInvariant.outer h.replacement drifts free, fun held => ?_⟩
    -- While nothing is in progress the lock is free.
    obtain ⟨front, rest, hagenda, -⟩ := h.front held
    simp at hagenda
  step hs h := ⟨Replacement.isInvariant.step hs h.replacement, front_of_step h hs⟩
  reorder hperm h := ⟨Replacement.isInvariant.reorder hperm h.replacement, h.front⟩
  part waits h := by
    refine ⟨Replacement.isInvariant.part waits h.replacement, fun held => ?_⟩
    obtain ⟨front, rest, hagenda, -⟩ := h.front held
    cases waits .unlock (by simp_all)
  resume own due h := by
    refine ⟨Replacement.isInvariant.resume own due h.replacement, fun held => ?_⟩
    obtain ⟨front, rest, hagenda, -⟩ := h.front held
    simp at hagenda

/-! ### Waiting for oneself -/

theorem Machine.isBlocked_cons {rest : List Task} :
    (Machine.mk s (t :: rest)).IsBlocked ↔ s.restarting = true ∧ s.NeedsLock t := by
  rw [← State.step_eq_none_iff, Machine.IsBlocked, Machine.step]
  cases hs : s.step t with
  | none => simp [hs]
  | some result => simp [hs]

omit [Transport σ] in
theorem Telling.act_of_needsLock {rest : List Task} (h : Telling (t :: rest))
    (needs : s.NeedsLock t) :
    ∃ label actions replies owner rest',
      rest = .collect label replaced actions replies owner :: rest' := by
  cases h with
  | complete | script | collect => exact needs.elim
  | act a label actions replies owner => exact ⟨label, actions, replies, owner, _, rfl⟩
  | minor ht => cases t <;> first | exact needs.elim | cases ht

/-- A client in the middle of replacing its peer, a callback of which, told of this, does something
that takes the lock. -/
def Machine.CallbackNeedsLock (m : Machine σ) : Prop :=
  ∃ t label actions replies owner rest,
    m.agenda = t :: .collect label replaced actions replies owner :: rest ∧ .launch ∈ rest ∧
      m.state.NeedsLock t

theorem Held.callbackNeedsLock {m : Machine σ} (h : Held m) (blocked : m.IsBlocked) :
    m.CallbackNeedsLock := by
  obtain ⟨s, agenda⟩ := m
  cases agenda with
  | nil => exact absurd rfl blocked.1
  | cons t rest =>
    obtain ⟨held, needs⟩ := Machine.isBlocked_cons.mp blocked
    obtain ⟨front, rest', hagenda, hfront⟩ := h.front held
    simp only at hagenda
    cases hfront with
    | replace | answer | nil =>
      obtain ⟨rfl, -⟩ := List.cons.inj hagenda
      exact needs.elim
    | opening arrivals =>
      cases arrivals <;> obtain ⟨rfl, -⟩ := List.cons.inj hagenda <;> exact needs.elim
    | @telling tasks htelling =>
      cases tasks with
      | nil =>
        obtain ⟨rfl, -⟩ := List.cons.inj hagenda
        exact needs.elim
      | cons u tasks =>
        obtain ⟨rfl, rfl⟩ := List.cons.inj hagenda
        obtain ⟨label, actions, replies, owner, rest, rfl⟩ := htelling.act_of_needsLock needs
        exact ⟨t, label, actions, replies, owner, _, rfl, by simp, needs⟩

theorem Replacement.isBlocked {m : Machine σ} (h : Replacement m) (needs : m.CallbackNeedsLock) :
    m.IsBlocked := by
  obtain ⟨s, agenda⟩ := m
  obtain ⟨t, label, actions, replies, owner, rest, rfl, hlaunch, needs⟩ := needs
  refine Machine.isBlocked_cons.mpr ⟨?_, needs⟩
  have hpeer : .launch ∈ peerTasks (t :: .collect label replaced actions replies owner :: rest) :=
    (mem_peerTasks rfl).mpr (List.mem_cons_of_mem _ (List.mem_cons_of_mem _ hlaunch))
  -- Whoever is to start another peer holds the lock.
  have hphase := h.phase
  cases hpeers : peerTasks (t :: .collect label replaced actions replies owner :: rest) with
  | nil =>
    rw [hpeers] at hpeer
    cases hpeer
  | cons u peers =>
    rw [hpeers] at hphase
    exact hphase.held

theorem Machine.IsBlocked.of_follows {m m' : Machine σ} (h : m.IsBlocked) (follows : m.Follows m') :
    m'.IsBlocked := by
  cases follows with
  | outer => exact absurd rfl h.1
  | step hs =>
    have hnone := h.2
    rw [Machine.step_cons hs] at hnone
    cases hnone
  | @reorder s tasks entries =>
    cases tasks with
    | nil => exact absurd rfl h.1
    | cons t rest =>
      obtain ⟨held, needs⟩ := Machine.isBlocked_cons.mp h
      refine Machine.isBlocked_cons.mpr ⟨held, ?_⟩
      cases t <;> exact needs
  | @part s tasks waits =>
    cases tasks with
    | nil => exact absurd rfl h.1
    | cons t rest =>
      have hneeds := (Machine.isBlocked_cons.mp h).2
      have hwaits := waits t List.mem_cons_self
      cases t <;> first | exact False.elim hneeds | cases hwaits
  | resume => exact absurd rfl h.1

/-- **When a client waits for itself.** A client is blocked exactly if it is in the middle of
replacing its peer and a callback that was told so restarts the client, or dispatches a call for
which the peer would be replaced on demand. It then stays blocked. All other work comes to its end,
but for waiting on a handle. -/
theorem waits_for_itself_iff {m : Machine σ} {past : List (Machine σ)} (run : Run (m :: past)) :
    (m.IsBlocked ↔ m.CallbackNeedsLock) ∧
    (m.IsBlocked → ∀ later m', Run (m' :: (later ++ m :: past)) → m'.IsBlocked) ∧
    ((∀ t ∈ m.agenda, t.isAwait = false) →
      ∃ n, (m.run n).agenda = [] ∨ (m.run n).CallbackNeedsLock) := by
  have hheld := Held.isInvariant.holds run
  refine ⟨⟨hheld.callbackNeedsLock, hheld.replacement.isBlocked⟩,
    fun hblocked later m' hlater => ?_, fun hbusy => ?_⟩
  · exact hlater.onward hblocked fun _ _ _ _ _ hfollows h => h.of_follows hfollows
  · obtain ⟨n, hn⟩ := comes_to_end m.state m.agenda [] hbusy
    rw [List.append_nil] at hn
    obtain ⟨past', hrun⟩ := run.run n
    refine ⟨n, hn.imp (fun ⟨s', hs'⟩ => congrArg Machine.agenda hs') fun hblocked => ?_⟩
    exact (Held.isInvariant.holds hrun).callbackNeedsLock hblocked

end

def clientWithNestedCall (policy : RestartPolicy) : State ScriptedPeer :=
  (newClient { requestTimeout := none, restart := policy } (ScriptedPeer.idle [] none)).performEach
    [slowCall [.dispatch "next" .null .mailbox]]

def dispatchedAmidReplacement (policy : RestartPolicy) : Machine ScriptedPeer :=
  (Machine.mk (clientWithNestedCall policy) [.restart]).run 4

theorem run_dispatchedAmidReplacement (policy : RestartPolicy) :
    ∃ past, Run (dispatchedAmidReplacement policy :: past) := by
  let options : ClientOptions := { requestTimeout := none, restart := policy }
  have connected : Run [⟨newClient options (ScriptedPeer.idle [] none), []⟩] :=
    .connected (show connect options (ScriptedPeer.idle [] none) = .ok _ from rfl)
  obtain ⟨past, run⟩ := connected.performEach [slowCall [.dispatch "next" .null .mailbox]]
    ⟨rfl, by cases policy <;> rfl, trivial⟩
  have hrun : Run (⟨clientWithNestedCall policy, []⟩ :: past) := run
  have hop : Task.restart.isOperation (clientWithNestedCall policy) = true := by
    cases policy <;> rfl
  exact (hrun.begun_now hop).run 4

/-- The call of the callback would have the peer replaced on demand, and is refused at once under
the manual policy. -/
theorem blocked_only_on_demand :
    (∃ past, Run (dispatchedAmidReplacement .onDemand :: past) ∧
      ∀ later m, Run (m :: (later ++ dispatchedAmidReplacement .onDemand :: past)) → m.IsBlocked) ∧
    ∃ past, Run (dispatchedAmidReplacement .manual :: past) ∧
      ¬ (dispatchedAmidReplacement .manual).IsBlocked ∧
      ∃ n, ((dispatchedAmidReplacement .manual).run n).agenda = [] := by
  constructor
  · obtain ⟨past, run⟩ := run_dispatchedAmidReplacement .onDemand
    have hneeds : (dispatchedAmidReplacement .onDemand).CallbackNeedsLock :=
      ⟨.dispatch "next" .null .mailbox, "slow", [], [], false, [.launch, .unlock], rfl, by simp,
        Option.some_ne_none _, rfl, rfl⟩
    exact ⟨past, run, (waits_for_itself_iff run).2.1 ((waits_for_itself_iff run).1.mpr hneeds)⟩
  · obtain ⟨past, run⟩ := run_dispatchedAmidReplacement .manual
    refine ⟨past, run, fun hblocked => ?_, 9, rfl⟩
    obtain ⟨t, label, actions, replies, owner, rest, hagenda, -, hneeds⟩ :=
      (waits_for_itself_iff run).1.mp hblocked
    obtain ⟨rfl, -⟩ := List.cons.inj hagenda
    cases hneeds.2.2

end Switchboard.Client
