import Switchboard.Proofs.Client.Blocking
import Switchboard.Proofs.Client.Closures
import Switchboard.Proofs.Client.Handles

/-!
# Closing the table

Whoever closes the table, for whatever reason, every open call is taken out of it, and its callback
is told so once: the completion is owed (`Machine.Owes`) until the callback was told
(`Machine.HasTold`), and never both. Nothing in between can complete such a call otherwise, since no
id of the table is given out again. The drain comes to its end unless the client is blocked.

While the table is closed it holds no call, not even as callbacks see it that run in the middle of a
drain, and it takes none: a call is refused for the first reason for which the table was closed. If
no peer is started on demand, then nothing is sent until the table is reopened.
-/

namespace Switchboard.Client

open Switchboard.Json

variable {σ : Type}

/-! ### Told once -/

/-- A machine that is to tell a callback an outcome, and has told it nothing yet. -/
def Machine.Owes (m : Machine σ) (e : Entry) (outcome : Outcome) : Prop :=
  .complete e.id e.callback outcome ∈ m.agenda ∧ m.state.journal.completions e.id = 0

/-- A machine that has told a callback an outcome, nothing else before and nothing in future. -/
def Machine.HasTold (m : Machine σ) (e : Entry) (outcome : Outcome) : Prop :=
  .completed e.id outcome ∈ m.state.journal ∧ m.state.journal.completions e.id = 1 ∧
    e.id ∉ owedIds m.agenda

theorem mem_owedIds {tasks : List Task} {id : Int} {callback : Callback} {outcome : Outcome}
    (h : .complete id callback outcome ∈ tasks) : id ∈ owedIds tasks :=
  List.mem_flatMap.mpr ⟨_, h, List.mem_singleton.mpr rfl⟩

theorem Accounts.le_one {m : Machine σ} (h : Accounts m) (id : Int) :
    m.state.table.ids.count id + m.state.journal.completions id + (owedIds m.agenda).count id ≤
      1 := by
  have hbooked := h.booked id
  have hallotted := m.state.table.allotted_le_one id
  simp only [Books.booked, State.books, Journal.completions_calls] at hbooked
  omega

theorem Accounts.owes {m : Machine σ} (h : Accounts m) {e : Entry} {outcome : Outcome}
    (hmem : .complete e.id e.callback outcome ∈ m.agenda) : m.Owes e outcome := by
  refine ⟨hmem, ?_⟩
  have hone := h.le_one e.id
  have howed := List.count_pos_iff.mpr (mem_owedIds hmem)
  omega

theorem Accounts.hasTold {m : Machine σ} (h : Accounts m) {e : Entry} {outcome : Outcome}
    (hmem : .completed e.id outcome ∈ m.state.journal) : m.HasTold e outcome := by
  have hone := h.le_one e.id
  have htold : 0 < m.state.journal.completions e.id :=
    List.countP_pos_iff.mpr ⟨_, hmem, by simp⟩
  refine ⟨hmem, by omega, fun howed => ?_⟩
  have := List.count_pos_iff.mpr howed
  omega

theorem Accounts.not_owed {m : Machine σ} (h : Accounts m) {e : Entry}
    (he : e ∈ m.state.table.entries) : e.id ∉ owedIds m.agenda := by
  intro howed
  have hone := h.le_one e.id
  have hopen := List.count_pos_iff.mpr (Table.mem_ids.mpr ⟨e, he, rfl⟩)
  have := List.count_pos_iff.mpr howed
  omega

theorem mem_calls_of_effect {s s' : State σ} {t : Task} {ts : List Task} (effect : Effect s t s' ts)
    {mark : Mark} (h : mark ∈ s.journal.calls) : mark ∈ s'.journal.calls := by
  have key : ∀ {calls : Journal}, s'.journal.calls = calls → mark ∈ calls →
      mark ∈ s'.journal.calls := by
    rintro _ rfl hmem
    exact hmem
  cases effect with
  | aside books | swept books | timedOut books | reopened books =>
    exact key (congrArg Books.calls books) h
  | accepted _ books | counted _ _ books | withdrew _ books | completed books =>
    exact key (congrArg Books.calls books) (List.mem_cons_of_mem _ h)
  | opened _ books =>
    exact key (congrArg Books.calls books) (List.mem_cons_of_mem _ (List.mem_cons_of_mem _ h))
  | took _ _ books | drained _ books =>
    exact key (congrArg Books.calls books) (List.mem_append_right _ h)

/-- A machine that is to complete a call, or has done so. -/
def Machine.Completes (m : Machine σ) (e : Entry) (outcome : Outcome) : Prop :=
  .complete e.id e.callback outcome ∈ m.agenda ∨ .completed e.id outcome ∈ m.state.journal.calls

theorem Accounts.owes_or_hasTold {m : Machine σ} (h : Accounts m) {e : Entry} {outcome : Outcome}
    (completes : m.Completes e outcome) : m.Owes e outcome ∨ m.HasTold e outcome :=
  completes.imp h.owes fun told => h.hasTold (List.mem_of_mem_filter told)

theorem Machine.Completes.of_step [Transport σ] {s s' : State σ} {t : Task} {ts rest : List Task}
    {e : Entry} {outcome : Outcome} (h : Machine.Completes ⟨s, t :: rest⟩ e outcome)
    (hs : s.step t = some (s', ts)) : Machine.Completes ⟨s', ts ++ rest⟩ e outcome := by
  rcases h with hmem | told
  · rcases List.mem_cons.mp hmem with rfl | hmem
    · right
      obtain ⟨rfl, -⟩ := Prod.mk.inj (Option.some.inj hs)
      cases e.callback <;> simp
    · exact .inl (List.mem_append_right ts hmem)
  · exact .inr (mem_calls_of_effect (effect_of_step hs) told)

theorem Machine.Completes.of_follows [Transport σ] {m m' : Machine σ} {e : Entry}
    {outcome : Outcome} (h : m.Completes e outcome) (follows : m.Follows m') :
    m'.Completes e outcome := by
  cases follows with
  | outer | resume => exact .inr (h.resolve_left List.not_mem_nil)
  | step hs => exact h.of_step hs
  | reorder => exact h
  | part waits => exact .inr (h.resolve_left fun hmem => by cases waits _ hmem)

theorem Machine.Completes.run [Transport σ] {m : Machine σ} {e : Entry} {outcome : Outcome}
    (h : m.Completes e outcome) (n : Nat) : (m.run n).Completes e outcome :=
  Machine.run_invariant (P := fun m : Machine σ => m.Completes e outcome)
    (fun hstep hm => hm.of_follows (.of_step hstep)) n h

/-! ### The drain -/

theorem step_of_closes [Transport σ] {s : State σ} {t : Task} {reason : String}
    (closes : Closes s t reason) :
    ∃ s' ts, s.step t = some (s', s.table.entries.map
        (fun e => .complete e.id e.callback (.error (.closed reason))) ++ ts) ∧
      s'.table = (s.table.close reason).2 ∧ ∀ u ∈ ts, u.isAside = true := by
  have key : ∀ (s₁ : State σ) (ts : List Task), s₁.table = s.table →
      s.step t = some ((s₁.closeTable reason).1, (s₁.closeTable reason).2 ++ ts) →
      (∀ u ∈ ts, u.isAside = true) →
      ∃ s' ts, s.step t = some (s', s.table.entries.map
          (fun e => .complete e.id e.callback (.error (.closed reason))) ++ ts) ∧
        s'.table = (s.table.close reason).2 ∧ ∀ u ∈ ts, u.isAside = true := by
    intro s₁ ts htable hs hasides
    rw [s₁.tasks_closeTable, htable] at hs
    exact ⟨_, ts, hs, by rw [s₁.table_closeTable, htable], hasides⟩
  cases closes with
  | ended =>
    refine key
      { s.note (.arrived (.ended reason)) with transport := Transport.ended s.transport } [] rfl ?_
      (by simp)
    rw [List.append_nil]
    rfl
  | replace hopen =>
    refine key (s.trace .info "restarting generator" []) [.launch] rfl ?_ (by simp [Task.isAside])
    simp [State.step, State.replace, hopen]
  | close hopen =>
    have hasides : ∀ u ∈ [Task.closeTransport, .answer .done], u.isAside = true := by
      simp [Task.isAside]
    obtain ⟨events, heq⟩ := State.stopWatching_spec ({ s with shut := true }.note .shut)
    refine key (State.stopWatching ({ s with shut := true }.note .shut)) _ (by rw [heq]; rfl) ?_
      hasides
    simp [State.step, State.close, hopen]

variable [Transport σ]

/-- A machine whose table was just closed, with some tasks left from before. -/
structure Drained (m : Machine σ) (past : List (Machine σ)) (entries : List Entry)
    (reason : String) (rest : List Task) : Prop where
  empty : m.state.table.entries = []
  closed : m.state.table.closed ≠ none
  /-- Each call that was open is owed one completion. -/
  owed : ∀ e ∈ entries, m.Owes e (.error (.closed reason))
  /-- No other call is owed anything. -/
  others : ∃ ts, (∀ u ∈ ts, u.isAside = true) ∧ m.agenda =
    entries.map (fun e => .complete e.id e.callback (.error (.closed reason))) ++ ts ++ rest
  /-- Whatever comes next, a completion is owed until it was told, and told once. -/
  once : ∀ later m', Run (m' :: (later ++ m :: past)) → ∀ e ∈ entries,
    m'.Owes e (.error (.closed reason)) ∨ m'.HasTold e (.error (.closed reason))
  /-- All completions are told before the client goes on with what was left, unless a callback waits
  for the lock under which the peer is replaced. -/
  ends : ∃ n, ((m.run n).agenda = rest ∧ ∀ e ∈ entries,
    (m.run n).HasTold e (.error (.closed reason))) ∨ (m.run n).CallbackNeedsLock

theorem drained_of_closes {s : State σ} {t : Task} {rest : List Task} {past : List (Machine σ)}
    (run : Run (⟨s, t :: rest⟩ :: past)) {reason : String} (closes : Closes s t reason) :
    ∃ m, (Machine.mk s (t :: rest)).step = some m ∧
      Drained m (⟨s, t :: rest⟩ :: past) s.table.entries reason rest := by
  obtain ⟨s', ts, hs, htable, hasides⟩ := step_of_closes closes
  have hstep : (Machine.mk s (t :: rest)).step = some ⟨s', _ ++ rest⟩ := Machine.step_cons hs
  have hrun : Run (⟨s', _⟩ :: ⟨s, t :: rest⟩ :: past) := .stepped run hstep
  have howed : ∀ e ∈ s.table.entries, .complete e.id e.callback (.error (.closed reason)) ∈
      s.table.entries.map (fun e => .complete e.id e.callback (.error (.closed reason))) ++ ts ++
        rest := by
    intro e he
    exact List.mem_append_left _ (List.mem_append_left _ (List.mem_map.mpr ⟨e, he, rfl⟩))
  have hbusy := (State.advances_of_step hs (by cases closes <;> rfl)).busy
  refine ⟨_, hstep, ?_⟩
  constructor
  · simp only [htable, Table.close]
  · simp [htable, Table.close]
  · exact fun e he => (Accounts.isInvariant.holds hrun).owes (howed e he)
  · exact ⟨ts, hasides, rfl⟩
  · intro later m' hlater e he
    refine (Accounts.isInvariant.holds hlater).owes_or_hasTold ?_
    exact hlater.onward (P := fun m => m.Completes e _) (.inl (howed e he))
      fun _ _ _ _ _ hfollows h => h.of_follows hfollows
  · obtain ⟨n, hn⟩ := comes_to_end s' _ rest hbusy
    obtain ⟨past', hrun'⟩ := hrun.run n
    rcases hn with ⟨s'', hrest⟩ | hheld
    swap
    · exact ⟨n, .inr ((Held.isInvariant.holds hrun').callbackNeedsLock hheld)⟩
    refine ⟨n, .inl ⟨by rw [hrest], fun e he => ?_⟩⟩
    have hstart : Machine.Completes ⟨s', _⟩ e (.error (.closed reason)) := .inl (howed e he)
    rcases (Accounts.isInvariant.holds hrun').owes_or_hasTold (hstart.run n) with hstill | htold
    · -- What is still owed when only the former tasks are left was owed before the drain.
      rw [hrest] at hstill
      have hformer := mem_owedIds (List.mem_cons_of_mem t hstill.1)
      exact absurd hformer ((Accounts.isInvariant.holds run).not_owed he)
    · exact htold

/-! ### Refusals -/

/-- A client whose table is closed for a reason. -/
structure RefusesAll (s : State σ) (reason : String) : Prop where
  /-- The table takes no call, and gives out no id. -/
  full : ∀ method createdAt timeout callback,
    s.table.register method createdAt timeout callback = .error reason
  /-- Nothing changes, and of the callback nothing is left but that it may hold the client. -/
  register : ∀ begun method params callback, s.step (.register begun method params callback) =
    some (s, callback.drop ++ [.answer (.refused (.closed reason))])
  /-- Unless another peer is started on demand, a call gets no further. -/
  dispatch : s.options.restart = .manual → ∀ method params callback,
    s.step (.dispatch method params callback) =
      some (if callback.isOwner then { s with owners := s.owners + 1 } else s,
        callback.drop ++ [.answer (.refused (.closed reason))])
  /-- Nothing is left of such a call but the answer, so no line is sent. -/
  perform : s.options.restart = .manual → 0 < s.owners → ∀ method params callback,
    s.perform [.dispatch method params callback] = s.answer (.refused (.closed reason))

theorem refusesAll_of_closed {s : State σ} {reason : String}
    (h : s.table.closed = some reason) : RefusesAll s reason := by
  have hregister : ∀ method createdAt timeout callback,
      s.table.register method createdAt timeout callback = .error reason := by
    intro method createdAt timeout callback
    simp [Table.register, h]
  refine ⟨hregister, fun begun method params callback => ?_,
    fun hmanual => s.step_dispatch_of_closed h (.inr hmanual),
    fun hmanual => s.perform_dispatch h (.inr hmanual)⟩
  simp [State.step, State.register, hregister, State.refuse]

theorem options_of_follows {m m' : Machine σ} (h : m.Follows m') :
    m'.state.options = m.state.options := by
  cases h with
  | outer | reorder | part | resume => rfl
  | step hs => exact (handling_of_step hs).options_eq

def twoCallsAnd (tasks : List Task) : List Task :=
  slowCall [.countPending] :: slowCall [.dispatch "next" .null .mailbox] :: tasks

end Switchboard.Client
