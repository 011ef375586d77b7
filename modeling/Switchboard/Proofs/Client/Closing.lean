import Switchboard.Proofs.Client.Accounts
import Switchboard.Proofs.Client.Contact
import Switchboard.Proofs.Client.Replacement
import Switchboard.Proofs.Transport.Stopped

/-!
# Closing for good

After `close` a client is sealed (`Sealed`): its table stays closed, no other peer will be started
and its transport is stopped, or is about to be. What `close` finds in the agenda decides about
this. A callback can close the client while the calls of the former peer are told that it is
replaced; the start of the other peer is still to come then, and it comes, and the table is reopened
after it. `ClosedAmidReplacement` says that this has happened. The induction over a run goes through
both cases: a closed client is sealed, or a peer was started, or is about to be, after the client
was closed.
-/

namespace Switchboard.Client

open Switchboard.Json

variable {σ : Type}

def Machine.isClosing (m : Machine σ) : Prop := m.agenda.head? = some .close

def WasClosed (machines : List (Machine σ)) : Prop := ∃ m ∈ machines, m.isClosing

/-- Whether a client was closed between the closing of its table for a replacement and the start of
the other peer. -/
def ClosedAmidReplacement (machines : List (Machine σ)) : Prop :=
  ∃ m ∈ machines, m.isClosing ∧ .launch ∈ m.agenda

/-! ### Turns of a closed client -/

variable {s s' : State σ} {t : Task} {ts rest : List Task}

theorem Turn.shut_of_ne_close (turn : Turn s t s' ts) (ht : t ≠ .close) : s'.shut = s.shut := by
  have key : ∀ {standing : Standing}, s'.standing = standing → s'.shut = standing.shut :=
    fun heq => congrArg Standing.shut heq
  cases turn with
  | aside standing | locked _ standing | drained _ standing | launched standing
  | reopened standing | unlocked standing => exact key standing
  | refused => rfl
  | shut => exact absurd rfl ht

theorem Turn.shut_of_shut (turn : Turn s t s' ts) (h : s.shut = true) : s'.shut = true := by
  by_cases ht : t = .close
  · subst ht
    cases turn with
    | aside standing | locked _ standing => exact (congrArg Standing.shut standing).trans h
    | shut _ standing => exact congrArg Standing.shut standing
  · exact (turn.shut_of_ne_close ht).trans h

theorem Turn.lastTurn_of_ne_launch (turn : Turn s t s' ts) (h : s.shut = true) (ht : t ≠ .launch) :
    s'.journal.lastTurn? = s.journal.lastTurn? := by
  have key : ∀ {standing : Standing}, s'.standing = standing →
      s'.journal.lastTurn? = standing.turn := fun heq => congrArg Standing.turn heq
  cases turn with
  | aside standing | locked _ standing | reopened standing | unlocked standing => exact key standing
  | refused => rfl
  | drained hopen | shut hopen =>
    rw [hopen] at h
    cases h
  | launched => exact absurd rfl ht

/-- A closed client begins no replacement, so another peer is started only if that was under way. -/
theorem Turn.peerless_of_ne_launch (turn : Turn s t s' ts) (h : s.shut = true) (ht : t ≠ .launch) :
    .launch ∉ ts ∧ ∀ failure, .reopen failure ∉ ts := by
  have key : ∀ {tasks : List Task}, (∀ t' ∈ tasks, t'.isPeer = false) →
      .launch ∉ tasks ∧ ∀ failure, .reopen failure ∉ tasks := by
    intro tasks others
    refine ⟨fun hmem => ?_, fun failure hmem => ?_⟩
    · cases others _ hmem
    · cases others _ hmem
  cases turn with
  | aside _ _ others => exact key others
  | locked _ _ _ others => simpa using key others
  | refused | reopened | unlocked => simp
  | drained hopen | shut hopen =>
    rw [hopen] at h
    cases h
  | launched => exact absurd rfl ht

/-! ### Sealed clients -/

variable [Transport σ]

/-- What is expected of a client that was closed, while nothing is in progress. -/
structure ClosedForGood (s : State σ) : Prop where
  pending : s.table.size = 0
  stopped : ∀ now, Transport.isRunning s.transport now = false
  turn : s.journal.lastTurn? = some .shut
  /-- A call is refused and nothing else changes, so no line is sent. -/
  dispatch : 0 < s.owners → ∀ method params callback, ∃ reason,
    s.perform [.dispatch method params callback] = s.answer (.refused (.closed reason))
  restart : 0 < s.owners → s.perform [.restart] = s.answer (.refused (.closed clientClosed))
  /-- Every call whose dispatch has answered with its id was told one outcome. -/
  told : ∀ id, Mark.accepted id ∈ s.journal → s.journal.completions id = 1

/-- A client that was closed, as long as no other peer is about to be started. -/
structure Sealed (m : Machine σ) : Prop where
  closed : m.state.table.closed ≠ none
  turn : m.state.journal.lastTurn? = some .shut
  peerless : .launch ∉ m.agenda ∧ ∀ failure, .reopen failure ∉ m.agenda
  stopping : .closeTransport ∈ m.agenda ∨ Transport.Stopped m.state.transport

theorem Sealed.stopping_of_step (h : Sealed ⟨s, t :: rest⟩) (hs : s.step t = some (s', ts)) :
    .closeTransport ∈ ts ++ rest ∨ Transport.Stopped s'.transport := by
  have key : ∀ {outside : Outside σ}, s'.outside = outside → s'.transport = outside.transport :=
    fun heq => congrArg Outside.transport heq
  rcases h.stopping with hmem | hstopped
  · rcases List.mem_cons.mp hmem with rfl | hmem
    · obtain ⟨rfl, -⟩ := Prod.mk.inj (Option.some.inj hs)
      right
      simp only [State.report_eq]
      exact .close _ _
    · exact .inl (List.mem_append_right ts hmem)
  · right
    cases contact_of_step hs with
    | none outside | held outside | released outside =>
      rw [key outside]
      exact hstopped
    | sent opened => exact absurd opened h.closed
    | restarted => exact absurd List.mem_cons_self h.peerless.1
    | closed outside =>
      rw [key outside]
      exact .close _ _
    | ended outside =>
      rw [key outside]
      exact .ended hstopped
    | drifted drifts outside =>
      rw [key outside]
      cases drifts with
      | refl => exact hstopped
      | next hnext => exact .next hstopped hnext

theorem Sealed.of_step (h : Sealed ⟨s, t :: rest⟩) (shut : s.shut = true)
    (hs : s.step t = some (s', ts)) : Sealed ⟨s', ts ++ rest⟩ := by
  have turn := turn_of_step hs
  have hlaunch : t ≠ .launch := by
    rintro rfl
    exact h.peerless.1 List.mem_cons_self
  have hreopen : t ≠ .reopen none := by
    rintro rfl
    exact h.peerless.2 none List.mem_cons_self
  have hnew := turn.peerless_of_ne_launch shut hlaunch
  refine ⟨closed_of_effect (effect_of_step hs) h.closed hreopen, ?_, ⟨?_, fun failure => ?_⟩,
    h.stopping_of_step hs⟩
  · rw [turn.lastTurn_of_ne_launch shut hlaunch]
    exact h.turn
  · rw [List.mem_append, not_or]
    exact ⟨hnew.1, fun hmem => h.peerless.1 (List.mem_cons_of_mem t hmem)⟩
  · rw [List.mem_append, not_or]
    exact ⟨hnew.2 failure, fun hmem => h.peerless.2 failure (List.mem_cons_of_mem t hmem)⟩

omit [Transport σ] in
theorem State.close_spec (hopen : s.shut = false) :
    s.close.1.shut = true ∧ s.close.1.journal.lastTurn? = some .shut ∧
      s.close.1.table.closed ≠ none ∧ .closeTransport ∈ s.close.2 ∧
      ∀ t ∈ s.close.2, t.isPeer = false := by
  unfold close
  rw [if_neg (by simp [hopen])]
  refine ⟨?_, ?_, closed_closeTable _ _, by simp, fun u hu => ?_⟩
  · exact congrArg Standing.shut ((standing_closeTable _ _).trans (standing_stopWatching _))
  · exact congrArg Standing.turn ((standing_closeTable _ _).trans (standing_stopWatching _))
  · rcases List.mem_append.mp hu with hu | hu
    · exact isPeer_of_mem_closeTable hu
    · simp only [List.mem_cons, List.not_mem_nil, or_false] at hu
      rcases hu with rfl | rfl <;> rfl

theorem Sealed.of_close (h : Replacement ⟨s, .close :: rest⟩) (hopen : s.shut = false)
    (hs : s.step .close = some (s', ts)) (hrest : .launch ∉ rest) : Sealed ⟨s', ts ++ rest⟩ := by
  obtain ⟨rfl, rfl⟩ := Prod.mk.inj (Option.some.inj hs)
  obtain ⟨-, hturn, hclosed, hstop, hpeer⟩ := State.close_spec hopen
  refine ⟨hclosed, hturn, ⟨fun hmem => ?_, fun failure hmem => ?_⟩,
    .inl (List.mem_append_left rest hstop)⟩
  · rcases List.mem_append.mp hmem with hmem | hmem
    · cases hpeer _ hmem
    · exact hrest hmem
  · rcases List.mem_append.mp hmem with hmem | hmem
    · cases hpeer _ hmem
    · obtain ⟨arrivals, rest', hagenda⟩ := h.front failure (List.mem_cons_of_mem _ hmem)
      cases arrivals <;> cases hagenda

/-! ### Closed clients along a run -/

structure Closing (m : Machine σ) (machines : List (Machine σ)) : Prop where
  opened : m.state.shut = false → WasClosed machines → m.isClosing
  amid : m.state.shut = false → ClosedAmidReplacement machines → .launch ∈ m.agenda
  closed : m.state.shut = true → WasClosed machines
  broken : m.state.shut = true → ClosedAmidReplacement machines →
    .launch ∈ m.agenda ∨ m.state.journal.lastTurn? = some .relaunched
  sealed : m.state.shut = true → ¬ ClosedAmidReplacement machines → Sealed m

section

variable {σ : Type}

theorem wasClosed_cons {m : Machine σ} {machines : List (Machine σ)} :
    WasClosed (m :: machines) ↔ m.isClosing ∨ WasClosed machines := by simp [WasClosed]

theorem closedAmidReplacement_cons {m : Machine σ} {machines : List (Machine σ)} :
    ClosedAmidReplacement (m :: machines) ↔
      (m.isClosing ∧ .launch ∈ m.agenda) ∨ ClosedAmidReplacement machines := by
  simp [ClosedAmidReplacement]

theorem ClosedAmidReplacement.wasClosed {machines : List (Machine σ)}
    (h : ClosedAmidReplacement machines) : WasClosed machines := by
  obtain ⟨m, hm, hclosing, -⟩ := h
  exact ⟨m, hm, hclosing⟩

theorem not_isClosing_of_idle (s : State σ) : ¬ (Machine.mk s []).isClosing := by
  simp [Machine.isClosing]

end

namespace Closing

variable {past : List (Machine σ)}

theorem of_connect {options : ClientOptions} {transport : σ}
    (h : connect options transport = .ok s) : Closing ⟨s, []⟩ [⟨s, []⟩] := by
  have hshut : s.shut = false := by
    refine connect_induction (P := fun s => s.shut = false) h (by simp [opening, initial])
      (fun s a _ hs => ?_) fun _ _ _ _ hs => hs
    exact ((s.turn_arrive a).shut_of_ne_close (by simp)).trans hs
  have hclosing : ¬ WasClosed [Machine.mk s []] := by
    rw [wasClosed_cons, not_or]
    exact ⟨not_isClosing_of_idle s, by simp [WasClosed]⟩
  constructor
  · exact fun _ hwas => absurd hwas hclosing
  · exact fun _ hamid => absurd hamid.wasClosed hclosing
  · exact fun h => absurd h (by simp [hshut])
  · exact fun h => absurd h (by simp [hshut])
  · exact fun h => absurd h (by simp [hshut])

theorem outer {m : Machine σ} {now : Nat} {transport : σ} {tasks : List Task}
    (h : Closing m (m :: past)) (waits : ∀ t ∈ m.agenda, t.isWait = true)
    (drifts : Transport.Drifts m.state.clock m.state.transport transport)
    (others : ∀ t ∈ tasks, t.isPeer = false) :
    Closing ⟨{ m.state with transport, clock := now }, tasks⟩
      (⟨{ m.state with transport, clock := now }, tasks⟩ :: m :: past) := by
  have hlaunch : .launch ∉ tasks := fun hmem => by cases others _ hmem
  have hold :
      ClosedAmidReplacement (⟨{ m.state with transport, clock := now }, tasks⟩ :: m :: past) →
      ClosedAmidReplacement (m :: past) := by
    rw [closedAmidReplacement_cons]
    rintro (⟨-, hmem⟩ | hamid)
    · exact absurd hmem hlaunch
    · exact hamid
  constructor
  · intro hopen hwas
    rcases wasClosed_cons.mp hwas with hclosing | hwas
    · exact hclosing
    · cases waits _ (List.mem_of_mem_head? (h.opened hopen hwas))
  · intro hopen hamid
    cases waits _ (h.amid hopen (hold hamid))
  · exact fun hshut => wasClosed_cons.mpr (.inr (h.closed hshut))
  · intro hshut hamid
    rcases h.broken hshut (hold hamid) with hmem | hturn
    · cases waits _ hmem
    · exact .inr hturn
  · intro hshut hamid
    obtain ⟨hclosed, hturn, -, hstop⟩ :=
      h.sealed hshut fun h' => hamid (closedAmidReplacement_cons.mpr (.inr h'))
    refine ⟨hclosed, hturn, ⟨hlaunch, fun failure hmem => by cases others _ hmem⟩, .inr ?_⟩
    rcases hstop with hmem | hstopped
    · cases waits _ hmem
    · cases drifts with
      | refl => exact hstopped
      | next hnext => exact .next hstopped hnext

theorem of_shut (h : Closing ⟨s, t :: rest⟩ (⟨s, t :: rest⟩ :: past)) (shut : s.shut = true)
    (hs : s.step t = some (s', ts)) :
    Closing ⟨s', ts ++ rest⟩ (⟨s', ts ++ rest⟩ :: ⟨s, t :: rest⟩ :: past) := by
  have turn := turn_of_step hs
  have hshut : s'.shut = true := turn.shut_of_shut shut
  constructor
  · exact fun hopen => absurd hopen (by simp [hshut])
  · exact fun hopen => absurd hopen (by simp [hshut])
  · exact fun _ => wasClosed_cons.mpr (.inr (h.closed shut))
  · intro _ hamid
    by_cases ht : t = .launch
    · subst ht
      obtain ⟨rfl, -⟩ := Prod.mk.inj (Option.some.inj hs)
      right
      simp
    · rcases closedAmidReplacement_cons.mp hamid with ⟨-, hmem⟩ | hamid
      · exact .inl hmem
      · rcases h.broken shut hamid with hmem | hturn
        · rcases List.mem_cons.mp hmem with heq | hmem
          · exact absurd heq.symm ht
          · exact .inl (List.mem_append_right ts hmem)
        · exact .inr ((turn.lastTurn_of_ne_launch shut ht).trans hturn)
  · intro _ hamid
    exact (h.sealed shut fun h' => hamid (closedAmidReplacement_cons.mpr (.inr h'))).of_step shut hs

theorem of_close (h : Closing ⟨s, .close :: rest⟩ (⟨s, .close :: rest⟩ :: past))
    (replacement : Replacement ⟨s, .close :: rest⟩) (hopen : s.shut = false)
    (hs : s.step .close = some (s', ts)) :
    Closing ⟨s', ts ++ rest⟩ (⟨s', ts ++ rest⟩ :: ⟨s, .close :: rest⟩ :: past) := by
  have hshut : s'.shut = true := by
    obtain ⟨rfl, -⟩ := Prod.mk.inj (Option.some.inj hs)
    exact (State.close_spec hopen).1
  constructor
  · exact fun hopen => absurd hopen (by simp [hshut])
  · exact fun hopen => absurd hopen (by simp [hshut])
  · exact fun _ => ⟨⟨s, .close :: rest⟩, by simp, rfl⟩
  · intro _ hamid
    rcases closedAmidReplacement_cons.mp hamid with ⟨-, hmem⟩ | hamid
    · exact .inl hmem
    · have hmem := h.amid hopen hamid
      simp only [List.mem_cons, reduceCtorEq, false_or] at hmem
      exact .inl (List.mem_append_right ts hmem)
  · intro _ hamid
    refine Sealed.of_close replacement hopen hs fun hmem => hamid ?_
    exact ⟨⟨s, .close :: rest⟩, by simp, rfl, List.mem_cons_of_mem _ hmem⟩

theorem of_open (h : Closing ⟨s, t :: rest⟩ (⟨s, t :: rest⟩ :: past)) (hopen : s.shut = false)
    (ht : t ≠ .close) (hs : s.step t = some (s', ts)) :
    Closing ⟨s', ts ++ rest⟩ (⟨s', ts ++ rest⟩ :: ⟨s, t :: rest⟩ :: past) := by
  have hopen' : s'.shut = false := ((turn_of_step hs).shut_of_ne_close ht).trans hopen
  have hwas : ¬ WasClosed (⟨s, t :: rest⟩ :: past) := by
    intro hwas
    exact ht (Option.some.inj (h.opened hopen hwas))
  constructor
  · intro _ hwas'
    exact (wasClosed_cons.mp hwas').resolve_right hwas
  · intro _ hamid
    rcases closedAmidReplacement_cons.mp hamid with ⟨-, hmem⟩ | hamid
    · exact hmem
    · exact absurd hamid.wasClosed hwas
  · exact fun hshut => absurd hshut (by simp [hopen'])
  · exact fun hshut => absurd hshut (by simp [hopen'])
  · exact fun hshut => absurd hshut (by simp [hopen'])

theorem of_step (h : Closing ⟨s, t :: rest⟩ (⟨s, t :: rest⟩ :: past))
    (replacement : Replacement ⟨s, t :: rest⟩) (hs : s.step t = some (s', ts)) :
    Closing ⟨s', ts ++ rest⟩ (⟨s', ts ++ rest⟩ :: ⟨s, t :: rest⟩ :: past) := by
  cases hshut : s.shut with
  | true => exact h.of_shut hshut hs
  | false =>
    by_cases ht : t = .close
    · subst ht
      exact h.of_close replacement hshut hs
    · exact h.of_open hshut ht hs

theorem reorder {tasks : List Task} {entries : List Entry}
    (h : Closing ⟨s, tasks⟩ (⟨s, tasks⟩ :: past)) :
    Closing ⟨{ s with table := { s.table with entries } }, tasks⟩
      (⟨{ s with table := { s.table with entries } }, tasks⟩ :: ⟨s, tasks⟩ :: past) := by
  have hwas :
      WasClosed (⟨{ s with table := { s.table with entries } }, tasks⟩ :: ⟨s, tasks⟩ :: past) ↔
      WasClosed (⟨s, tasks⟩ :: past) := by
    simp only [wasClosed_cons, ← or_assoc, Machine.isClosing, or_self]
  have hamid : ClosedAmidReplacement
      (⟨{ s with table := { s.table with entries } }, tasks⟩ :: ⟨s, tasks⟩ :: past) ↔
      ClosedAmidReplacement (⟨s, tasks⟩ :: past) := by
    simp only [closedAmidReplacement_cons, ← or_assoc, Machine.isClosing, or_self]
  constructor
  · exact fun hopen h' => h.opened hopen (hwas.mp h')
  · exact fun hopen h' => h.amid hopen (hamid.mp h')
  · exact fun hshut => hwas.mpr (h.closed hshut)
  · exact fun hshut h' => h.broken hshut (hamid.mp h')
  · intro hshut h'
    obtain ⟨hclosed, hturn, hpeerless, hstop⟩ := h.sealed hshut fun h'' => h' (hamid.mpr h'')
    exact ⟨hclosed, hturn, hpeerless, hstop⟩

end Closing

theorem closing_of_run {m : Machine σ} {past : List (Machine σ)} (run : Run (m :: past)) :
    Closing m (m :: past) := by
  generalize hall : m :: past = all at run
  induction run generalizing m past with
  | connected h =>
    cases hall
    exact .of_connect h
  | begun run later h ih =>
    cases hall
    refine (ih rfl).outer (by simp) (.refl _) fun u hu => ?_
    rw [List.mem_singleton.mp hu]
    exact Task.isPeer_of_isFree (Task.isFree_of_isOperation h)
  | happened run h ih =>
    cases hall
    obtain ⟨transport, rfl, drifts, free⟩ := State.upcoming_spec h
    exact (ih rfl).outer (by simp) drifts fun u hu => Task.isPeer_of_isFree (free u hu)
  | @stepped m m' past run h ih =>
    cases hall
    obtain ⟨t, rest, s, ts, hagenda, hs, rfl⟩ := Machine.step_eq_some h
    obtain ⟨state, agenda⟩ := m
    subst hagenda
    exact (ih rfl).of_step (Replacement.isInvariant.holds run) hs
  | reordered run h ih =>
    cases hall
    exact (ih rfl).reorder
  | parted run waits ih =>
    cases hall
    exact (ih rfl).outer waits (.refl _) (by simp)
  | resumed run later own due ih =>
    cases hall
    exact (ih rfl).outer (by simp) (.refl _) (by simp [Task.isPeer])

/-! ### The owners -/

/-- A client that nobody holds was closed, or is about to be. -/
def Owned (m : Machine σ) : Prop := m.state.owners = 0 → m.state.shut = true ∨ .close ∈ m.agenda

theorem Owned.of_step (h : Owned ⟨s, t :: rest⟩) (hs : s.step t = some (s', ts)) :
    Owned ⟨s', ts ++ rest⟩ := by
  intro howners
  have turn := turn_of_step hs
  have hold : s.shut = true ∨ .close ∈ t :: rest → s'.shut = true ∨ .close ∈ ts ++ rest := by
    rintro (hshut | hmem)
    · exact .inl (turn.shut_of_shut hshut)
    · rcases List.mem_cons.mp hmem with rfl | hmem
      · cases hshut : s.shut with
        | true => exact .inl (turn.shut_of_shut hshut)
        | false =>
          obtain ⟨rfl, -⟩ := Prod.mk.inj (Option.some.inj hs)
          exact .inl (State.close_spec hshut).1
      · exact .inr (List.mem_append_right ts hmem)
  by_cases ht : t = .release
  · subst ht
    obtain ⟨rfl, rfl⟩ := Prod.mk.inj (Option.some.inj hs)
    by_cases hlast : s.owners = 1
    · exact .inr (by simp [hlast])
    · refine hold (h ?_)
      have hpred : s.owners - 1 = 0 := howners
      show s.owners = 0
      omega
  · have hle := (contact_of_step hs).owners_le ht
    simp only at howners
    exact hold (h (show s.owners = 0 by omega))

theorem Owned.isInvariant : IsInvariant (Owned (σ := σ)) where
  opening options transport := by
    intro howners
    simp [opening, initial] at howners
  trace h := h
  outer h _ _ := by
    intro howners
    rcases h howners with hshut | hmem
    · exact .inl hshut
    · cases hmem
  step hs h := h.of_step hs
  reorder _ h := h
  part waits h := fun howners => (h howners).imp_right fun hmem => by cases waits _ hmem
  resume _ _ h := fun howners => (h howners).imp_right fun hmem => by cases hmem

/-! ### Closed clients while nothing is in progress -/

theorem State.step_dispatch_of_closed {reason : String} (hclosed : s.table.closed = some reason)
    (hpolicy : s.shut = true ∨ s.options.restart = .manual) (method : String) (params : Value)
    (callback : Callback) :
    s.step (.dispatch method params callback) =
      some (if callback.isOwner then { s with owners := s.owners + 1 } else s,
        callback.drop ++ [.answer (.refused (.closed reason))]) := by
  cases howner : callback.isOwner with
  | false =>
    rcases hpolicy with h | h
    · simp [step, dispatch, howner, hclosed, h, refuse]
    · simp [step, dispatch, howner, hclosed, h, refuse]
  | true =>
    rcases hpolicy with h | h
    · simp [step, dispatch, howner, hclosed, h, refuse]
    · simp [step, dispatch, howner, hclosed, h, refuse]

theorem State.perform_dispatch {reason : String} (hclosed : s.table.closed = some reason)
    (hpolicy : s.shut = true ∨ s.options.restart = .manual) (howners : 0 < s.owners)
    (method : String) (params : Value) (callback : Callback) :
    s.perform [.dispatch method params callback] = s.answer (.refused (.closed reason)) := by
  obtain ⟨k, hk⟩ : ∃ k, (Machine.mk s [.dispatch method params callback]).weight = k + 3 := by
    refine ⟨(Machine.mk s [.dispatch method params callback]).weight - 3, ?_⟩
    simp only [Machine.weight, totalOf, Task.weight]
    omega
  have hanswer : ∀ s₁ : State σ, s₁.step (.answer (.refused (.closed reason))) =
      some (s₁.answer (.refused (.closed reason)), []) := fun _ => rfl
  have hdispatch := s.step_dispatch_of_closed hclosed hpolicy method params callback
  cases howner : callback.isOwner with
  | false =>
    simp only [howner, Callback.drop, Bool.false_eq_true, if_false, List.nil_append] at hdispatch
    simp only [perform, hk]
    rw [Machine.run_succ (Machine.step_cons hdispatch), List.append_nil,
      Machine.run_succ (Machine.step_cons (hanswer s)), List.append_nil, Machine.run_idle]
  | true =>
    -- The callback holds the client until the call is refused.
    simp only [howner, Callback.drop, if_true, List.singleton_append] at hdispatch
    have hrelease : State.step { s with owners := s.owners + 1 } .release = some (s, []) := by
      simp only [step, release, Nat.add_sub_cancel]
      rw [if_neg (by omega)]
    simp only [perform, hk]
    rw [Machine.run_succ (Machine.step_cons hdispatch), List.append_nil,
      Machine.run_succ (Machine.step_cons hrelease), List.nil_append,
      Machine.run_succ (Machine.step_cons (hanswer s)), List.append_nil, Machine.run_idle]

theorem State.perform_restart (hshut : s.shut = true) (hfree : s.restarting = false) :
    s.perform [.restart] = s.answer (.refused (.closed clientClosed)) := by
  obtain ⟨k, hk⟩ : ∃ k, (Machine.mk s [.restart]).weight = k + 4 := by
    refine ⟨(Machine.mk s [.restart]).weight - 4, ?_⟩
    simp only [Machine.weight, totalOf, Task.weight]
    omega
  have hrestart : s.step .restart = some ({ s with restarting := true }, [.replace, .unlock]) := by
    simp [step, restart, hfree]
  have hreplace : State.step { s with restarting := true } .replace =
      some ({ s with restarting := true }, [.answer (.refused (.closed clientClosed))]) := by
    simp [step, replace, hshut]
  have hunlock : (State.answer { s with restarting := true } (.refused (.closed clientClosed))).step
      .unlock = some (s.answer (.refused (.closed clientClosed)), []) := by
    simp [step, hfree]
  simp only [perform, hk]
  rw [Machine.run_succ (Machine.step_cons hrestart), List.append_nil,
    Machine.run_succ (Machine.step_cons hreplace), List.singleton_append,
    Machine.run_succ (Machine.step_cons rfl), List.nil_append,
    Machine.run_succ (Machine.step_cons hunlock), List.append_nil, Machine.run_idle]

theorem Sealed.closedForGood [LawfulTransport σ] {past : List (Machine σ)} (h : Sealed ⟨s, []⟩)
    (run : Run (⟨s, []⟩ :: past)) (hshut : s.shut = true) : ClosedForGood s := by
  have replacement := Replacement.isInvariant.holds run
  have hempty : s.table.entries = [] := replacement.empty h.closed
  have hfree : s.restarting = false := by
    have hphase := replacement.phase
    simp only [peerTasks, List.filter_nil] at hphase
    generalize s.restarting = r at hphase ⊢
    cases hphase
    rfl
  obtain ⟨reason, hreason⟩ := Option.ne_none_iff_exists'.mp h.closed
  refine ⟨by simp [Table.size, hempty], fun now => ?_, h.turn,
    fun howners method params callback => ?_, fun _ => s.perform_restart hshut hfree,
    fun id haccepted => ?_⟩
  · rcases h.stopping with hmem | hstopped
    · cases hmem
    · exact LawfulTransport.isRunning_of_stopped hstopped now
  · exact ⟨reason, s.perform_dispatch hreason (.inl hshut) howners method params callback⟩
  · rcases ((accepted_iff run id).mp haccepted).2 with ⟨hmem, -⟩ | ⟨-, hone, -⟩
    · simp [Table.ids, hempty] at hmem
    · exact hone

section

variable {past : List (Machine σ)}

theorem wasClosed_iff (run : Run (⟨s, []⟩ :: past)) : WasClosed past ↔ s.shut = true := by
  have h := closing_of_run run
  have hwas : WasClosed (⟨s, []⟩ :: past) ↔ WasClosed past := by
    rw [wasClosed_cons, or_iff_right (not_isClosing_of_idle s)]
  refine ⟨fun hclosed => ?_, fun hshut => hwas.mp (h.closed hshut)⟩
  cases hopen : s.shut with
  | true => rfl
  | false => exact absurd (h.opened hopen (hwas.mpr hclosed)) (not_isClosing_of_idle s)

/-- The journal of a closed client tells whether it was closed amid a replacement. -/
theorem closedAmidReplacement_iff (run : Run (⟨s, []⟩ :: past)) (hshut : s.shut = true) :
    ClosedAmidReplacement past ↔ s.journal.lastTurn? = some .relaunched := by
  have h := closing_of_run run
  have hamid : ClosedAmidReplacement (⟨s, []⟩ :: past) ↔ ClosedAmidReplacement past := by
    rw [closedAmidReplacement_cons, or_iff_right (fun h => not_isClosing_of_idle s h.1)]
  constructor
  · intro hbad
    rcases h.broken hshut (hamid.mpr hbad) with hmem | hturn
    · cases hmem
    · exact hturn
  · intro hturn
    by_contra hbad
    have hsealed := (h.sealed hshut fun h' => hbad (hamid.mp h')).turn
    rw [hturn] at hsealed
    cases hsealed

end

def slowCall (actions : List Action) : Task :=
  .dispatch "slow" .null (.script "slow" actions false)

end Switchboard.Client
