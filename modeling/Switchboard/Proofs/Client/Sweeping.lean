import Mathlib.Logic.Relation
import Switchboard.Proofs.Client.Causes
import Switchboard.Proofs.Client.Draining
import Switchboard.Proofs.Client.Order
import Switchboard.Proofs.Config

/-!
# Deadline sweeps

A sweep takes the overdue calls out of the table, no other call, and times them out one after
another. What it does itself is one step and two kinds of tasks (`State.SweepsAt`), so whatever else
becomes of the client meanwhile is the callbacks' doing. Whatever they do, the callback of each call
that was taken is told once that it timed out (`Swept`). If they leave the client alone, then all
that becomes of it is `State.timedOut`, and two sweeps come to the same as the later one alone.

All this is so if every deadline can be told. One call whose deadline no clock shows is enough for a
sweep to fail before it has taken any, and then deadlines are not watched any more.
-/

namespace Switchboard.Client

open Switchboard.Json

variable {σ : Type}

/-! ### What is taken -/

/-- What a sweep takes out of a table, and what it leaves. -/
structure Table.Sweeps (t : Table) (now : Nat) (swept : List Entry) (left : Table) : Prop where
  taken : t.takeExpired now = some (swept, left)
  /-- The calls that leave have a timeout, and it has passed. -/
  overdue : ∀ e, e ∈ swept ↔ e ∈ t.entries ∧
    ∃ timeout, e.timeout = some timeout ∧ e.createdAt + timeout.nanos ≤ now
  /-- Each of them leaves once, and every other call stays where it is. -/
  split : (swept ++ left.entries).Perm t.entries
  order : left.entries.Sublist t.entries
  /-- The table gives out the same ids as before, and is closed if it was. -/
  rest : left = { t with entries := left.entries }
  /-- The ids may be collected first, in any order, and then be taken one after another. -/
  inTurn : ∀ es : List Entry, es.Perm swept → t.takeEach (es.map Entry.id) = (es, left)
  /-- With a later sweep the same calls leave, and the same ones stay, as with that sweep alone. -/
  again : ∀ later, now ≤ later → ∃ swept' alone left',
    left.takeExpired later = some (swept', left') ∧ t.takeExpired later = some (alone, left') ∧
      (swept ++ swept').Perm alone

theorem Table.sweeps_splitOverdue {t : Table} (timely : t.isTimely = true) (distinct : t.ids.Nodup)
    (now : Nat) : t.Sweeps now (t.splitOverdue now).1 (t.splitOverdue now).2 where
  taken := takeExpired_eq_some.mpr ⟨timely, rfl⟩
  overdue e := by
    refine List.mem_filter.trans (and_congr_right fun he => Entry.isOverdue_iff.trans ?_)
    exact exists_congr fun timeout => and_congr_right fun configured =>
      and_iff_left (isTimely_iff.mp timely e he timeout configured)
  split := List.filter_append_perm _ t.entries
  order := List.filter_sublist
  rest := rfl
  inTurn _ := takeEach_overdue distinct
  again later h := by
    obtain ⟨left, swept⟩ := t.splitOverdue_twice h
    exact ⟨_, _, _, takeExpired_eq_some.mpr ⟨isTimely_splitOverdue timely now, rfl⟩,
      takeExpired_eq_some.mpr ⟨timely, Prod.ext rfl left.symm⟩, swept⟩

/-! ### The tasks of a sweep -/

section

variable [Transport σ]

/-- What the tasks of a sweep do, beside the callbacks that are told. -/
structure State.SweepsAt (s : State σ) (now : Nat) (swept : List Entry) (left : Table) : Prop where
  table : s.table.Sweeps now swept left
  /-- The calls are taken out of the table. Then each is timed out, and their number is given. -/
  sweep : s.step (.sweep now) = some
    ({ s with table := left, sweeping := true, journal := .sweeping now :: s.journal },
      swept.map .timeOut ++ [.endSweep swept.length])
  /-- To time out a call is to tell its callback so, with the call's id and its timeout. -/
  timeOut : ∀ e ∈ swept, ∃ timeout, e.timeout = some timeout ∧ ∀ s' : State σ,
    s'.step (.timeOut e) = some
      (s'.trace .warn "request timed out" [("id", .int e.id), ("method", .shown e.method)],
        [.complete e.id e.callback
          (.error (.timeout e.id (min (timeout.nanos / 1000000) maxWord64)))])
  endSweep : ∀ s' : State σ, s'.step (.endSweep swept.length) = some
    (if swept = [] then { s' with sweeping := false } else
      State.trace { s' with sweeping := false } .debug "deadline sweep expired requests"
        [("expired", .int swept.length)], [])

/-- A sweep that fails takes nothing, tells nobody and gives no number. -/
def State.FailsToSweep (s : State σ) (now : Nat) : Prop :=
  s.table.takeExpired now = none ∧ s.step (.sweep now) = some
    ({ s with watching := false, stalled := s.stalled || s.watching }, [])

theorem State.sweepsAt {s : State σ} (timely : s.table.isTimely = true)
    (distinct : s.table.ids.Nodup) (now : Nat) :
    s.SweepsAt now (s.table.splitOverdue now).1 (s.table.splitOverdue now).2 where
  table := Table.sweeps_splitOverdue timely distinct now
  sweep := step_sweep timely now
  timeOut e he := by
    obtain ⟨-, timeout, configured, -⟩ :=
      ((Table.sweeps_splitOverdue timely distinct now).overdue e).mp he
    refine ⟨timeout, configured, fun s' => ?_⟩
    have failure : e.timeoutFailure = .timeout e.id (min (timeout.nanos / 1000000) maxWord64) :=
      Entry.timeoutFailure_eq configured
    rw [← failure]
    rfl
  endSweep s' := by
    generalize (s.table.splitOverdue now).1 = swept
    cases swept with
    | nil => rfl
    | cons e swept => rfl

/-- Sweeps do not fail for a timeout that documents can hold. -/
theorem Run.isTimely {m : Machine σ} {past : List (Machine σ)} (run : Run (m :: past))
    (whole : ∀ timeout, m.state.options.requestTimeout = some timeout → timeout.IsWhole)
    (early : ∀ e ∈ m.state.table.entries, e.createdAt + maxWord64 * 1000000 ≤ lastInstant) :
    m.state.table.isTimely = true := by
  refine Table.isTimely_iff.mpr fun e he timeout configured => ?_
  have same := Timed.isInvariant.holds run e he
  have ends := (whole timeout (same ▸ configured)).after?_eq (early e he)
  by_contra beyond
  rw [Timespan.after?, if_neg beyond] at ends
  cases ends

/-! ### Callbacks that do anything -/

/-- A machine that is to time out a call, or has done so. -/
def Machine.TimesOut (m : Machine σ) (e : Entry) : Prop :=
  .timeOut e ∈ m.agenda ∨ m.Completes e (.error e.timeoutFailure)

theorem Machine.TimesOut.of_follows {m m' : Machine σ} {e : Entry} (h : m.TimesOut e)
    (follows : m.Follows m') : m'.TimesOut e := by
  rcases h with due | completes
  swap
  · exact .inr (completes.of_follows follows)
  cases follows with
  | outer | resume => cases due
  | part waits => cases waits _ due
  | @step s s' t ts rest hs =>
    rcases List.mem_cons.mp due with rfl | due
    · obtain ⟨rfl, rfl⟩ := Prod.mk.inj (Option.some.inj hs)
      exact .inr (.inl List.mem_cons_self)
    · exact .inl (List.mem_append_right ts due)
  | reorder => exact .inl due

theorem Machine.follows_run {m : Machine σ} (n : Nat) :
    Relation.ReflTransGen Machine.Follows m (m.run n) :=
  Machine.run_invariant (P := Relation.ReflTransGen Machine.Follows m)
    (fun hstep h => h.tail (.of_step hstep)) n .refl

/-- A machine right after a sweep, with some tasks left from before. -/
structure Swept (m : Machine σ) (swept : List Entry) (rest : List Task) : Prop where
  /-- Whatever comes next, a call that was taken is to be timed out and its callback was told
  nothing, or it was told so once, and nothing else, and is owed nothing more. -/
  once : ∀ m', Relation.ReflTransGen Machine.Follows m m' → ∀ e ∈ swept,
    (m'.TimesOut e ∧ m'.state.journal.completions e.id = 0) ∨
      m'.HasTold e (.error e.timeoutFailure)
  /-- All of them are told before the client goes on with what was left, unless a callback waits for
  the lock under which the peer is replaced. -/
  ends : ∃ n, ((m.run n).agenda = rest ∧ ∀ e ∈ swept,
    (m.run n).HasTold e (.error e.timeoutFailure)) ∨ (m.run n).IsBlocked

end

theorem mem_owedIds_of_timeOut {tasks : List Task} {e : Entry} (h : .timeOut e ∈ tasks) :
    e.id ∈ owedIds tasks :=
  List.mem_flatMap.mpr ⟨_, h, List.mem_singleton.mpr rfl⟩

theorem Accounts.timesOut {m : Machine σ} (h : Accounts m) {e : Entry} (due : m.TimesOut e) :
    (e.id ∈ owedIds m.agenda ∧ m.state.journal.completions e.id = 0) ∨
      m.HasTold e (.error e.timeoutFailure) := by
  have untold (owed : e.id ∈ owedIds m.agenda) : m.state.journal.completions e.id = 0 := by
    have hone := h.le_one e.id
    have := List.count_pos_iff.mpr owed
    omega
  rcases due with due | completes
  · exact .inl ⟨mem_owedIds_of_timeOut due, untold (mem_owedIds_of_timeOut due)⟩
  · rcases h.owes_or_hasTold completes with owes | told
    · exact .inl ⟨mem_owedIds owes.1, owes.2⟩
    · exact .inr told

def State.afterSweep (s : State σ) (now : Nat) (rest : List Task) : Machine σ where
  state :=
    { s with
      table := (s.table.splitOverdue now).2
      sweeping := true
      journal := .sweeping now :: s.journal }
  agenda := (s.table.splitOverdue now).1.map .timeOut ++
    [.endSweep (s.table.splitOverdue now).1.length] ++ rest

theorem Accounts.swept [Transport σ] {s : State σ} {now : Nat} {rest : List Task}
    (timely : s.table.isTimely = true) (accounts : Accounts ⟨s, .sweep now :: rest⟩) :
    Swept (s.afterSweep now rest) (s.table.splitOverdue now).1 rest := by
  have taken : s.step (.sweep now) = some ((s.afterSweep now rest).state, _) :=
    State.step_sweep timely now
  have step : (Machine.mk s (.sweep now :: rest)).step = some (s.afterSweep now rest) :=
    Machine.step_cons taken
  have later {m : Machine σ} (h : Relation.ReflTransGen Machine.Follows (s.afterSweep now rest) m) :
      Accounts m ∧ ∀ e ∈ (s.table.splitOverdue now).1, m.TimesOut e := by
    induction h with
    | refl =>
      refine ⟨Accounts.isInvariant.of_step step accounts, fun e he => .inl ?_⟩
      exact List.mem_append_left _ (List.mem_append_left _ (List.mem_map_of_mem he))
    | tail _ follows ih =>
      exact ⟨Accounts.isInvariant.of_follows follows ih.1,
        fun e he => (ih.2 e he).of_follows follows⟩
  constructor
  · intro m h e he
    obtain ⟨books, due⟩ := later h
    exact (books.timesOut (due e he)).imp_left fun owed => ⟨due e he, owed.2⟩
  · obtain ⟨n, ⟨s', hrest⟩ | blocked⟩ := comes_to_end (s.afterSweep now rest).state
      ((s.table.splitOverdue now).1.map .timeOut ++
        [.endSweep (s.table.splitOverdue now).1.length]) rest (State.advances_of_step taken rfl).busy
    · refine ⟨n, .inl ⟨congrArg Machine.agenda hrest, fun e he => ?_⟩⟩
      obtain ⟨books, due⟩ := later (Machine.follows_run n)
      rcases books.timesOut (due e he) with ⟨owed, -⟩ | told
      · -- What is still owed when only the former tasks are left was owed before the sweep.
        rw [show ((s.afterSweep now rest).run n).agenda = rest from
          congrArg Machine.agenda hrest] at owed
        exact absurd owed (accounts.not_owed (List.mem_of_mem_filter he))
      · exact told
    · exact ⟨n, .inr blocked⟩

/-! ### Callbacks that leave the client alone -/

/-- The marks that callbacks leave which are told that their calls timed out. -/
def timeoutMarks (es : List Entry) (j : Journal) : Journal :=
  es.foldl (fun j e => e.marks (.error e.timeoutFailure) ++ j) j

theorem told_timeoutMarks (es : List Entry) (j : Journal) :
    Journal.told (timeoutMarks es j) = timeoutMarks es j.told := by
  induction es generalizing j with
  | nil => rfl
  | cons e es ih =>
    simp only [timeoutMarks, List.foldl_cons] at ih ⊢
    rw [ih, Journal.told_append, Entry.told_marks]

theorem timeoutMarks_perm (es : List Entry) (j : Journal) :
    (timeoutMarks es j).Perm (es.flatMap (fun e => e.marks (.error e.timeoutFailure)) ++ j) := by
  induction es generalizing j with
  | nil => exact .refl _
  | cons e es ih =>
    rw [List.flatMap_cons, List.append_assoc]
    refine (ih _).trans ?_
    rw [← List.append_assoc, ← List.append_assoc]
    exact List.perm_append_comm.append_right j

theorem timeoutMarks_congr {es es' : List Entry} {j j' : Journal} (perm : es.Perm es')
    (same : j.Perm j') : (timeoutMarks es j).Perm (timeoutMarks es' j') :=
  calc (timeoutMarks es j).Perm (es.flatMap (fun e => e.marks (.error e.timeoutFailure)) ++ j) :=
        timeoutMarks_perm es j
    _ |>.Perm (es'.flatMap (fun e => e.marks (.error e.timeoutFailure)) ++ j') :=
        (perm.flatMap_right _).append same
    _ |>.Perm (timeoutMarks es' j') := (timeoutMarks_perm es' j').symm

def State.tellTimeouts (s : State σ) (es : List Entry) : State σ :=
  { s with
    mailboxes := es.foldl (fun mailboxes e => e.deliver (.error e.timeoutFailure) mailboxes)
      s.mailboxes
    owners := s.owners - es.countP (·.callback.isOwner)
    journal := timeoutMarks es s.journal }

/-- What becomes of a client that is left alone by its callbacks, in a sweep. -/
def State.timedOut (s : State σ) (now : Nat) : State σ :=
  { s with table := (s.table.splitOverdue now).2, sweeping := false }.tellTimeouts
    (s.table.splitOverdue now).1

namespace State

variable {s s' : State σ}

def timeOutOne (s : State σ) (e : Entry) : State σ :=
  { s with
    mailboxes := e.deliver (.error e.timeoutFailure) s.mailboxes
    owners := if e.callback.isOwner then s.owners - 1 else s.owners
    journal := e.marks (.error e.timeoutFailure) ++ (s.timeOut e).1.journal }

theorem run_timeOut [Transport σ] {e : Entry} (idle : e.callback.actions = [])
    (held : e.callback.isOwner = true → 1 < s.owners) (rest : List Task) :
    ∃ n, (Machine.mk s (.timeOut e :: rest)).run n = ⟨s.timeOutOne e, rest⟩ := by
  obtain ⟨n, told⟩ := run_complete (s := (s.timeOut e).1) idle held (.error e.timeoutFailure) rest
  have step : s.step (.timeOut e) = some (s.timeOut e) := rfl
  exact ⟨n + 1, (Machine.run_succ (Machine.step_cons step) n).trans told⟩

theorem tellTimeouts_cons (e : Entry) (es : List Entry) :
    (s.tellTimeouts (e :: es)).Agrees ((s.timeOutOne e).tellTimeouts es) := by
  have owners : (s.timeOutOne e).owners - es.countP (·.callback.isOwner) =
      s.owners - (e :: es).countP (·.callback.isOwner) := by
    rw [List.countP_cons, timeOutOne]
    dsimp only
    split <;> omega
  constructor
  · simp only [tellTimeouts, owners, List.foldl_cons]
    rfl
  · simp only [tellTimeouts, told_timeoutMarks, timeOutOne, timeOut, trace, note,
      Journal.told_append, Journal.told_cons, Mark.isTold, Bool.false_eq_true, if_false,
      Entry.told_marks]
    exact .refl _

/-- Timing out calls one after another, by induction on the calls. The callbacks that are left to be
told are not the last to hold the client. -/
theorem run_timeOuts [Transport σ] (es : List Entry) (idle : ∀ e ∈ es, e.callback.actions = [])
    (held : 0 < es.countP (·.callback.isOwner) → es.countP (·.callback.isOwner) < s.owners)
    (rest : List Task) :
    ∃ n s', (Machine.mk s (es.map .timeOut ++ rest)).run n = ⟨s', rest⟩ ∧
      (s.tellTimeouts es).Agrees s' := by
  induction es generalizing s with
  | nil => exact ⟨0, s, rfl, .refl _⟩
  | cons e es ih =>
    obtain ⟨idle, idle'⟩ := List.forall_mem_cons.mp idle
    have heldFirst : e.callback.isOwner = true → 1 < s.owners := by
      intro owner
      rw [List.countP_cons, if_pos owner] at held
      omega
    have heldOthers : 0 < es.countP (·.callback.isOwner) →
        es.countP (·.callback.isOwner) < (s.timeOutOne e).owners := by
      intro others
      rw [List.countP_cons] at held
      simp only [timeOutOne]
      split at held
      · next owner =>
        rw [if_pos owner]
        omega
      · next other =>
        rw [if_neg other]
        omega
    obtain ⟨n, first⟩ := run_timeOut idle heldFirst (es.map .timeOut ++ rest)
    obtain ⟨n', s', others, agrees⟩ := ih idle' heldOthers
    refine ⟨n + n', s', ?_, (tellTimeouts_cons e es).trans agrees⟩
    rw [Machine.run_add]
    exact (congrArg (Machine.run n') first).trans others

theorem Agrees.tellTimeouts {es es' : List Entry} (h : s.Agrees s') (perm : es.Perm es')
    (distinct : (es.map Entry.id).Nodup) : (s.tellTimeouts es).Agrees (s'.tellTimeouts es') := by
  have mailboxes : es'.foldl (fun mailboxes e => e.deliver (.error e.timeoutFailure) mailboxes)
      s.mailboxes =
      es.foldl (fun mailboxes e => e.deliver (.error e.timeoutFailure) mailboxes) s.mailboxes := by
    refine (perm.foldl_eq' (fun e he e' he' mailboxes => ?_) _).symm
    by_cases same : e.id = e'.id
    · rw [List.inj_on_of_nodup_map distinct he he' same]
    · exact Entry.deliver_comm same _ _ mailboxes
  constructor
  · rw [h.rest]
    simp only [State.tellTimeouts, mailboxes, perm.countP_eq]
  · simp only [State.tellTimeouts, told_timeoutMarks]
    exact timeoutMarks_congr perm h.told

theorem tellTimeouts_append (es es' : List Entry) :
    (s.tellTimeouts es).tellTimeouts es' = s.tellTimeouts (es ++ es') := by
  simp only [tellTimeouts, timeoutMarks, List.foldl_append, List.countP_append, Nat.sub_sub]

theorem Agrees.timedOut (h : s.Agrees s') (distinct : s.table.ids.Nodup) (now : Nat) :
    (s.timedOut now).Agrees (s'.timedOut now) := by
  have table : s'.table = s.table := by rw [h.rest]
  have before : State.Agrees
      { s with table := (s.table.splitOverdue now).2, sweeping := false }
      { s' with table := (s.table.splitOverdue now).2, sweeping := false } :=
    ⟨by rw [h.rest], h.told⟩
  simp only [State.timedOut, table]
  exact before.tellTimeouts (.refl _) (distinct.sublist (List.filter_sublist.map Entry.id))

/-- Two sweeps come to the same as the later one alone. -/
theorem timedOut_twice (distinct : s.table.ids.Nodup) {now now' : Nat} (later : now ≤ now') :
    ((s.timedOut now).timedOut now').Agrees (s.timedOut now') := by
  obtain ⟨left, swept⟩ := s.table.splitOverdue_twice later
  have both : (s.timedOut now).timedOut now' =
      State.tellTimeouts { s with table := (s.table.splitOverdue now').2, sweeping := false }
        ((s.table.splitOverdue now).1 ++ ((s.table.splitOverdue now).2.splitOverdue now').1) := by
    rw [← tellTimeouts_append, ← left]
    rfl
  rw [both]
  refine (Agrees.refl _).tellTimeouts swept ((swept.map Entry.id).nodup_iff.mpr ?_)
  exact distinct.sublist (List.filter_sublist.map Entry.id)

theorem countP_swept (t : Table) (now : Nat) :
    (t.splitOverdue now).1.countP (·.callback.isOwner) + (t.splitOverdue now).2.owners =
      t.owners := by
  rw [Table.owners, Table.owners, ← List.countP_append]
  exact (List.filter_append_perm _ t.entries).countP_eq _

theorem LeftAlone.timedOut (h : s.LeftAlone) (now : Nat) : (s.timedOut now).LeftAlone := by
  refine ⟨fun e he => h.idle e (List.mem_of_mem_filter he), fun e he owner => ?_⟩
  have held := h.held e (List.mem_of_mem_filter he) owner
  have parts := countP_swept s.table now
  simp only [State.timedOut, tellTimeouts]
  omega

theorem agrees_endSweep (count : Nat) :
    State.Agrees { s with sweeping := false } (s.endSweep count).1 := by
  by_cases none : count = 0
  · simp only [endSweep, none, if_true]
    exact .refl _
  · simp only [endSweep, none, if_false]
    exact ⟨rfl, .refl _⟩

/-- **A sweep does no more than `State.timedOut` says,** and comes to its end. -/
theorem LeftAlone.run_sweep [Transport σ] (h : s.LeftAlone) (timely : s.table.isTimely = true)
    (now : Nat) (rest : List Task) :
    ∃ n s', (Machine.mk s (.sweep now :: rest)).run n = ⟨s', rest⟩ ∧
      (s.timedOut now).Agrees s' := by
  have held : 0 < (s.table.splitOverdue now).1.countP (·.callback.isOwner) →
      (s.table.splitOverdue now).1.countP (·.callback.isOwner) < s.owners := by
    intro some
    obtain ⟨e, he, owner⟩ := List.countP_pos_iff.mp some
    have held := h.held e (List.mem_of_mem_filter he) owner
    have parts := countP_swept s.table now
    omega
  obtain ⟨n, s₁, told, agrees⟩ := run_timeOuts (s := (s.afterSweep now rest).state)
    (s.table.splitOverdue now).1 (fun e he => h.idle e (List.mem_of_mem_filter he)) held
    (.endSweep (s.table.splitOverdue now).1.length :: rest)
  have taken : (Machine.mk s (.sweep now :: rest)).step = some (s.afterSweep now rest) :=
    Machine.step_cons (step_sweep timely now)
  have agenda : (s.afterSweep now rest).agenda = (s.table.splitOverdue now).1.map .timeOut ++
      .endSweep (s.table.splitOverdue now).1.length :: rest := List.append_assoc ..
  have ended : (Machine.mk s₁ (.endSweep (s.table.splitOverdue now).1.length :: rest)).run 1 =
      ⟨(s₁.endSweep (s.table.splitOverdue now).1.length).1, rest⟩ := rfl
  refine ⟨n + 1 + 1, (s₁.endSweep (s.table.splitOverdue now).1.length).1, ?_, ?_⟩
  · rw [Machine.run_succ taken, Machine.run_add]
    rw [← agenda] at told
    exact (congrArg (Machine.run 1) told).trans ended
  · have before : (s.timedOut now).Agrees { (s.afterSweep now rest).state.tellTimeouts
        (s.table.splitOverdue now).1 with sweeping := false } := by
      refine ⟨rfl, ?_⟩
      simp only [State.timedOut, tellTimeouts, told_timeoutMarks, afterSweep, Journal.told_cons,
        Mark.isTold, Bool.false_eq_true, if_false]
      exact .refl _
    have after : State.Agrees { (s.afterSweep now rest).state.tellTimeouts
        (s.table.splitOverdue now).1 with sweeping := false } { s₁ with sweeping := false } :=
      ⟨by rw [agrees.rest], agrees.told⟩
    exact (before.trans after).trans (agrees_endSweep _)

end State

/-! ### Whole sweeps -/

variable [Transport σ] {s : State σ}

/-- What a client has become that swept while nothing else was in progress, at any instant. -/
def State.SweepsTo (s : State σ) (now : Nat) (s' : State σ) : Prop :=
  ∃ clock n, (Machine.mk { s with clock } [.sweep now]).run n = ⟨s', []⟩

theorem State.LeftAlone.exists_sweepsTo (h : s.LeftAlone) (timely : s.table.isTimely = true)
    (now : Nat) : ∃ s', s.SweepsTo now s' := by
  obtain ⟨n, s', done, -⟩ := h.run_sweep timely now []
  exact ⟨s', s.clock, n, done⟩

theorem State.SweepsTo.agrees {now : Nat} {s' : State σ} (h : s.SweepsTo now s')
    (quiet : s.LeftAlone) (timely : s.table.isTimely = true) : (s.timedOut now).Agrees s' := by
  obtain ⟨clock, n, done⟩ := h
  have moved : s.Agrees { s with clock } := ⟨rfl, .refl _⟩
  obtain ⟨n', s'', done', agrees⟩ := (quiet.of_agrees moved).run_sweep timely now []
  obtain rfl := Machine.state_eq_of_run done done'
  have same : (s.timedOut now).Agrees (State.timedOut { s with clock } now) := ⟨rfl, .refl _⟩
  exact same.trans agrees

theorem State.SweepsTo.twice {now later : Nat} {s₁ s₂ s' : State σ}
    (timely : s.table.isTimely = true) (distinct : s.table.ids.Nodup) (quiet : s.LeftAlone)
    (h : now ≤ later) (first : s.SweepsTo now s₁) (second : s₁.SweepsTo later s₂)
    (alone : s.SweepsTo later s') : s₂.Agrees s' := by
  have once := first.agrees quiet timely
  have distinct' : (s.timedOut now).table.ids.Nodup :=
    distinct.sublist (List.filter_sublist.map Entry.id)
  have timely' : s₁.table.isTimely = true := by
    rw [show s₁.table = (s.timedOut now).table by rw [once.rest]]
    exact Table.isTimely_splitOverdue timely now
  have twice := (once.timedOut distinct' later).trans
    (second.agrees ((quiet.timedOut now).of_agrees once) timely')
  exact (twice.symm.trans (State.timedOut_twice distinct h)).trans (alone.agrees quiet timely)

/-- **A sweep times out exactly the overdue calls, unless a deadline cannot be told.** Let a table
hold any calls, with any timeouts and instants of registration, under different ids. As long as a
clock shows all deadlines, a sweep takes those calls out whose timeout has passed, and nothing else
changes in its steps (`SweepsAt`). If the accounts of the client are in order, as those of every
client at work, then whatever the callbacks do each call that was taken is told its timeout, once
(`Swept`). If the callbacks leave the client alone, then the client comes to be as `State.timedOut`
says, and with a later sweep it comes to be as with that sweep alone. In any other table the sweep
fails, whichever calls are overdue. -/
theorem sweep_times_out_the_overdue_or_fails (distinct : s.table.ids.Nodup) (now : Nat) :
    ((∀ e ∈ s.table.entries, ∀ timeout, e.timeout = some timeout →
        e.createdAt + timeout.nanos ≤ lastInstant) →
      s.SweepsAt now (s.table.splitOverdue now).1 (s.table.splitOverdue now).2 ∧
      (∀ rest, Accounts ⟨s, .sweep now :: rest⟩ →
        (Machine.mk s (.sweep now :: rest)).step = some (s.afterSweep now rest) ∧
        Swept (s.afterSweep now rest) (s.table.splitOverdue now).1 rest) ∧
      (s.LeftAlone →
        (∃ s', s.SweepsTo now s') ∧
        (∀ s', s.SweepsTo now s' → (s.timedOut now).Agrees s') ∧
        ∀ later s₁ s₂ s', now ≤ later → s.SweepsTo now s₁ → s₁.SweepsTo later s₂ →
          s.SweepsTo later s' → s₂.Agrees s')) ∧
    ((∃ e ∈ s.table.entries, ∃ timeout, e.timeout = some timeout ∧
        lastInstant < e.createdAt + timeout.nanos) →
      s.FailsToSweep now) := by
  refine ⟨fun shown => ?_, ?_⟩
  · have timely := Table.isTimely_iff.mpr shown
    refine ⟨State.sweepsAt timely distinct now, fun rest accounts => ⟨?_, accounts.swept timely⟩,
      fun quiet => ?_⟩
    · exact Machine.step_cons (State.step_sweep timely now)
    · exact ⟨quiet.exists_sweepsTo timely now, fun s' h => h.agrees quiet timely,
        fun later s₁ s₂ s' h first second alone => first.twice timely distinct quiet h second alone⟩
  · rintro ⟨e, he, timeout, configured, beyond⟩
    have untimely : s.table.isTimely = false := Bool.eq_false_iff.mpr fun timely =>
      Nat.not_lt.mpr (Table.isTimely_iff.mp timely e he timeout configured) beyond
    refine ⟨Table.takeExpired_eq_none.mpr untimely, ?_⟩
    rcases s.sweep_cases now with ⟨timely, -⟩ | ⟨-, heq⟩
    · rw [untimely] at timely
      cases timely
    · exact congrArg some heq

/-- A client whose calls may take longer than any clock shows, with a call open. -/
def endlessClient : State ScriptedPeer :=
  (newClient { requestTimeout := some (.ofSeconds maxWord64 0), restart := .manual }
    (ScriptedPeer.idle [] none)).performEach [.dispatch "slow" .null (.script "slow" [] false)]

/-- A sweep of that client is what comes next. It gives no number, at any instant, and from then on
the client is not swept. -/
theorem endless_calls_stop_the_sweeps :
    (∃ past, Run (⟨endlessClient, []⟩ :: past)) ∧
      endlessClient.nextSweep? = some endlessClient.clock ∧ endlessClient.table.ids.Nodup ∧
      ∀ now, (¬ ∃ swept left, endlessClient.table.Sweeps now swept left) ∧
        ∃ s', (Machine.mk endlessClient [.sweep now]).step = some ⟨s', []⟩ ∧ s'.nextSweep? = none ∧
          s'.stalled = true ∧ s'.table = endlessClient.table := by
  refine ⟨?_, by decide +kernel, by decide +kernel, fun now => ⟨?_, ?_⟩⟩
  · let options : ClientOptions :=
      { requestTimeout := some (.ofSeconds maxWord64 0), restart := .manual }
    have connected : Run [⟨newClient options (ScriptedPeer.idle [] none), []⟩] :=
      .connected (show connect options (ScriptedPeer.idle [] none) = .ok _ from rfl)
    exact connected.performEach _ (by decide +kernel)
  · rintro ⟨swept, left, sweeps⟩
    have untimely : endlessClient.table.takeExpired now = none :=
      Table.takeExpired_eq_none.mpr (by decide +kernel)
    rw [sweeps.taken] at untimely
    cases untimely
  · have watched : endlessClient.watching = true := by decide +kernel
    have untimely : endlessClient.table.isTimely = false := by decide +kernel
    rcases endlessClient.sweep_cases now with ⟨timely, -⟩ | ⟨-, heq⟩
    · rw [untimely] at timely
      cases timely
    · have step : endlessClient.step (.sweep now) = some ({ endlessClient with
          watching := false, stalled := endlessClient.stalled || endlessClient.watching }, []) :=
        congrArg some heq
      exact ⟨_, Machine.step_cons step, rfl, by simp [watched], rfl⟩

/-- Two calls that are due at this instant, one of them after more milliseconds than fit 64 bits, a
call that is due right after it, and a call without a timeout. -/
def dueNow : Nat := (maxWord64 + 2) * 1000000

def dueCalls : State ScriptedPeer :=
  { initial .default (ScriptedPeer.idle [] none) with
    table :=
      { nextId := 5
        entries :=
          [{ id := 1, method := "a", createdAt := 0, timeout := none, callback := .mailbox },
            { id := 2, method := "b", createdAt := 0, timeout := some { nanos := dueNow },
              callback := .script "b" [] true },
            { id := 3, method := "c", createdAt := 1, timeout := some { nanos := dueNow },
              callback := .mailbox },
            { id := 4, method := "d", createdAt := dueNow - 1500000,
              timeout := some { nanos := 1500000 }, callback := .mailbox }]
        closed := none }
    owners := 2
    journal := [.accepted 4, .accepted 3, .accepted 2, .accepted 1] }

/-- The same calls, and one that may take longer than any clock shows. -/
def dueBesideEndless : State ScriptedPeer :=
  { dueCalls with
    table :=
      { dueCalls.table with
        nextId := 6
        entries := dueCalls.table.entries ++
          [{ id := 5, method := "e", createdAt := 0, timeout := some (.ofSeconds maxWord64 0),
             callback := .mailbox }] } }

theorem accounts_dueCalls : Accounts ⟨dueCalls, [.sweep dueNow]⟩ := by
  have four (id : Int) :
      [1, 2, 3, 4].count id = if 1 ≤ id ∧ id < dueCalls.table.nextId then 1 else 0 := by
    change _ = if 1 ≤ id ∧ id < 5 then 1 else 0
    split
    · have cases : id = 1 ∨ id = 2 ∨ id = 3 ∨ id = 4 := by omega
      obtain rfl | rfl | rfl | rfl := cases <;> rfl
    · refine List.count_eq_zero.mpr fun mem => ?_
      simp only [List.mem_cons, List.not_mem_nil, or_false] at mem
      omega
  refine ⟨by decide, fun id => ?_, fun id => ?_⟩
  · exact four id
  · have reversed : [4, 3, 2, 1].count id = [1, 2, 3, 4].count id :=
      (List.reverse_perm [1, 2, 3, 4]).count_eq id
    exact reversed.trans (four id)

theorem two_calls_time_out_or_the_sweep_fails :
    dueCalls.table.ids.Nodup ∧ Accounts ⟨dueCalls, [.sweep dueNow]⟩ ∧ dueCalls.LeftAlone ∧
    (dueCalls.table.splitOverdue dueNow).1.map Entry.id = [2, 4] ∧
    Swept (dueCalls.afterSweep dueNow []) (dueCalls.table.splitOverdue dueNow).1 [] ∧
    (∃ s' : State ScriptedPeer, dueCalls.SweepsTo dueNow s' ∧ s'.table.ids = [1, 3] ∧
      s'.table.nextId = 5 ∧ s'.owners = 1 ∧ s'.journal.told.Perm
        [.completed 4 (.error (.timeout 4 1)), .scripted "b" (.error (.timeout 2 maxWord64)) [],
          .completed 2 (.error (.timeout 2 maxWord64))]) ∧
    dueBesideEndless.table.ids.Nodup ∧ dueBesideEndless.FailsToSweep dueNow := by
  have distinct : dueCalls.table.ids.Nodup := by decide
  have idle : dueCalls.table.entries.all (·.callback.actions.isEmpty) = true := rfl
  have quiet : dueCalls.LeftAlone :=
    ⟨fun e he => List.isEmpty_iff.mp (List.all_eq_true.mp idle e he), fun _ _ _ => by decide⟩
  have shown : dueCalls.table.isTimely = true := rfl
  obtain ⟨-, anyCallbacks, leftAlone⟩ :=
    (sweep_times_out_the_overdue_or_fails distinct dueNow).1 (Table.isTimely_iff.mp shown)
  obtain ⟨⟨s', done⟩, agrees, -⟩ := leftAlone quiet
  have rest := (agrees s' done).rest
  have distinct' : dueBesideEndless.table.ids.Nodup := by decide
  have fails := (sweep_times_out_the_overdue_or_fails distinct' dueNow).2
    ⟨_, List.mem_append_right _ List.mem_cons_self, .ofSeconds maxWord64 0, rfl, by decide⟩
  refine ⟨distinct, accounts_dueCalls, quiet, rfl, (anyCallbacks [] accounts_dueCalls).2,
    ⟨s', done, ?_, ?_, ?_, (agrees s' done).told.symm⟩, distinct', fails⟩
  · rw [rest]
    rfl
  · rw [rest]
    rfl
  · rw [rest]
    rfl

end Switchboard.Client
