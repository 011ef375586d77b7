import Switchboard.Proofs.Client.Yielding

/-!
# What a handle gives

Taking the outcome through a handle answers nothing while the call is open, and then changes nothing;
it answers the outcome of the call once, read as the caller declared; and from then on it answers
that the outcome was taken. Waiting answers the same at its end. A handle that is given up before
takes its own call out of the table and nothing else, and is gone for good (`Machine.IsGone`).
-/

namespace Switchboard.Client

open Switchboard.Json

variable {σ : Type} [Transport σ]

/-! ### Operations that come to their end -/

/-- An operation that comes to its end within its bound is done. -/
theorem State.run_weight {s s' : State σ} {tasks : List Task} {n : Nat}
    (h : (Machine.mk s tasks).run n = ⟨s', []⟩) (hn : n ≤ (Machine.mk s tasks).weight) :
    (Machine.mk s tasks).run (Machine.mk s tasks).weight = ⟨s', []⟩ := by
  obtain ⟨k, hk⟩ := Nat.exists_eq_add_of_le hn
  rw [hk, Machine.run_add, h, Machine.run_idle]

theorem State.perform_eq {s s' : State σ} {tasks : List Task} {n : Nat}
    (h : (Machine.mk s tasks).run n = ⟨s', []⟩) (hn : n ≤ (Machine.mk s tasks).weight) :
    s.perform tasks = s' := congrArg Machine.state (State.run_weight h hn)

theorem State.le_weight (s : State σ) {t : Task} (rest : List Task) (ht : t.weight = 10) :
    10 ≤ (Machine.mk s (t :: rest)).weight := by
  simp only [Machine.weight, totalOf, ht]
  omega

theorem State.perform_take (s : State σ) (id : Int) : s.perform [.take id] = s.take id :=
  State.perform_eq (n := 1) rfl
    (Nat.le_trans (by decide) (s.le_weight [] rfl))

theorem State.perform_forget (s : State σ) (id : Int) :
    s.perform [.forget id] = s.removeMailbox id :=
  State.perform_eq (n := 1) rfl
    (Nat.le_trans (by decide) (s.le_weight [] rfl))

theorem State.perform_await_of_yielded {s : State σ} {id : Int} {o : Outcome}
    (h : s.HasYielded id o) (limit : Option Nat) :
    s.perform [.await id limit] = s.answer (.refused (alreadyTaken id)) := by
  have hawait : s.step (.await id limit) = some (s, [.take id]) := by
    obtain ⟨⟨b, hb, hfinished, -⟩, -, -⟩ := h
    obtain ⟨i, deadline, outcome, finished⟩ := b
    obtain rfl : finished = true := hfinished
    simp [step, await, hb]
  have htake : s.step (.take id) = some (s.answer (.refused (alreadyTaken id)), []) := by
    rw [← take_of_yielded h]
    rfl
  exact State.perform_eq (n := 2) ((Machine.run_succ (Machine.step_cons hawait) 1).trans
    (Machine.run_succ (Machine.step_cons htake) 0)) (Nat.le_trans (by decide) (s.le_weight [] rfl))

/-! ### Giving up a handle -/

namespace State

def without (s : State σ) (id : Int) : State σ :=
  { s with
    table := { s.table with entries := s.table.entries.filter (·.id != id) }
    mailboxes := s.mailboxes.filter (·.id != id) }

omit [Transport σ] in
theorem mailboxes_removeMailbox_post (s : State σ) (id : Int) (o : Outcome) :
    ((s.post id o).removeMailbox id).mailboxes = s.mailboxes.filter (·.id != id) := by
  simp only [removeMailbox, post, updateMailbox]
  induction s.mailboxes with
  | nil => rfl
  | cons b rest ih =>
    rw [List.map_cons, List.filter_cons, List.filter_cons, ih]
    by_cases hb : b.id = id <;> simp [hb]

theorem run_abandon {s : State σ} (kept : Kept ⟨s, []⟩) {id : Int} (held : s.HasHandle id) :
    ∃ n s' o, n ≤ 3 ∧ (∀ rest, (Machine.mk s (.abandon id :: rest)).run n = ⟨s', rest⟩) ∧
      s'.removeMailbox id = { s.without id with
        reply := .flag (decide (id ∈ s.table.ids))
        journal := s'.journal } ∧
      s'.HasOutcome id o := by
  rcases kept.pending_or_outcome held List.not_mem_nil with ⟨hopen, -⟩ | ⟨hgone, o, ho⟩
  · obtain ⟨b, hb, hfinished⟩ := held
    obtain ⟨e, hid, hours, htake⟩ := kept.take_of_open (by simp [hb]) hopen
    obtain ⟨s₁, hs₁⟩ : ∃ s₁, s₁ = { s.note (.cancelling id) with
      table := { s.table with entries := s.table.entries.filter (·.id != id) } } := ⟨_, rfl⟩
    have habandon : s.step (.abandon id) =
        some (s₁, [.complete id .mailbox (.error (.cancelled id)), .answer (.flag true)]) := by
      simp [step, abandon, htake, hid, hours, hs₁]
    obtain ⟨s₂, hs₂⟩ : ∃ s₂, s₂ =
        (s₁.note (.completed id (.error (.cancelled id)))).post id (.error (.cancelled id)) :=
      ⟨_, rfl⟩
    have hcomplete : s₁.step (.complete id .mailbox (.error (.cancelled id))) = some (s₂, []) := by
      rw [hs₂]
      rfl
    have hfree : ∀ t ∈ [Task.abandon id], t.isFree = true := by simp [Task.isFree]
    have kept₂ := ((Kept.isInvariant.outer kept (.refl _) hfree).of_step habandon).of_step hcomplete
    have houtcome := Kept.hasOutcome_of_complete hcomplete ⟨b, by rw [hs₁]; exact hb, hfinished⟩
      kept₂
    refine ⟨2 + 1, s₂.answer (.flag true), _, Nat.le_refl _, fun rest => ?_, ?_, houtcome.inside,
      houtcome.told, houtcome.once⟩
    · rw [Machine.run_add, (Machine.run_succ (Machine.step_cons habandon) 1).trans
        (Machine.run_succ (Machine.step_cons hcomplete) 0)]
      rfl
    · have hboxes : s₂.mailboxes.filter (·.id != id) = s.mailboxes.filter (·.id != id) := by
        rw [hs₂, hs₁]
        exact s.mailboxes_removeMailbox_post id _
      simp only [removeMailbox, answer, hboxes]
      rw [hs₂, hs₁, decide_eq_true hopen]
      rfl
  · have habandon : s.step (.abandon id) =
        some (s.note (.cancelling id), [.answer (.flag false)]) := by
      simp [step, abandon, Table.take_eq_none_iff.mpr hgone]
    have hentries : s.table.entries.filter (·.id != id) = s.table.entries :=
      List.filter_eq_self.mpr fun e he => by
        simpa using fun heq : e.id = id => hgone (Table.mem_ids.mpr ⟨e, he, heq⟩)
    refine ⟨2, (s.note (.cancelling id)).answer (.flag false), o, by decide,
      fun rest => (Machine.run_succ (Machine.step_cons habandon) 1).trans rfl, ?_, ho.inside,
      List.mem_cons_of_mem _ ho.told, ho.once⟩
    rw [without, hentries, decide_eq_false hgone]
    rfl

end State

/-- A handle that was given up: it has no mailbox, and its call is over for good. -/
structure Machine.IsGone (m : Machine σ) (id : Int) : Prop where
  removed : m.state.mailbox? id = none
  retired : m.state.table.Retired id
  /-- The call was completed, and is not to be completed any more. -/
  told : ∃ o, .completed id o ∈ m.state.journal
  once : m.state.journal.completions id = 1
  settled : id ∉ owedIds m.agenda

omit [Transport σ] in
theorem Accounts.isGone {m : Machine σ} (h : Accounts m) {id : Int}
    (removed : m.state.mailbox? id = none) (retired : m.state.table.Retired id)
    (told : ∃ o, .completed id o ∈ m.state.journal) : m.IsGone id := by
  obtain ⟨o, ho⟩ := told
  have hone := h.le_one id
  have : 0 < m.state.journal.completions id := List.countP_pos_iff.mpr ⟨_, ho, by simp⟩
  refine ⟨removed, retired, ⟨o, ho⟩, by omega, fun howed => ?_⟩
  have := List.count_pos_iff.mpr howed
  omega

/-- **What is gone stays gone.** -/
theorem Machine.IsGone.onward {m m' : Machine σ} {later past : List (Machine σ)} {id : Int}
    (h : m.IsGone id) (run : Run (m' :: (later ++ m :: past))) : m'.IsGone id := by
  refine run.onward (P := fun m => m.IsGone id) h ?_
  intro m₁ _ m₂ past₁ run₁ hfollows h₁
  have kept₁ := Kept.isInvariant.holds run₁
  have hretired := hfollows.table_succeeds.retired h₁.retired
  cases hfollows with
  | outer drifts free =>
    exact (Accounts.isInvariant.outer kept₁.accounts drifts free).isGone h₁.removed hretired h₁.told
  | @step s s' t ts rest hs =>
    refine (kept₁.accounts.of_effect (effect_of_step hs)).isGone ?_ hretired
      (h₁.told.imp fun o => completed_of_step hs)
    refine by_contra fun hbox => ?_
    rcases kept₁.mailbox?_of_step hs hbox with hold | ⟨-, hnew, -⟩
    · exact hold h₁.removed
    · have := h₁.retired.2.1
      simp only at this
      omega
  | reorder hperm =>
    exact (Accounts.isInvariant.reorder hperm kept₁.accounts).isGone h₁.removed hretired h₁.told
  | part waits =>
    exact (Accounts.isInvariant.part waits kept₁.accounts).isGone h₁.removed hretired h₁.told
  | resume own due =>
    exact (Accounts.isInvariant.resume own due kept₁.accounts).isGone h₁.removed hretired h₁.told

namespace Handle

variable {α : Type} {h : Handle α} {s : State σ} {past : List (Machine σ)}

/-- **To cancel a handle, or to drop it, takes its own call out of the table and nothing else,** and
answers whether that was open. -/
theorem cancel_spec (run : Run (⟨s, []⟩ :: past)) (held : s.HasHandle h.id) :
    ∃ s' past', h.cancel s = (s', decide (h.id ∈ s.table.ids)) ∧ h.drop s = s' ∧
      s' = { s.without h.id with
        reply := .flag (decide (h.id ∈ s.table.ids))
        journal := s'.journal } ∧
      Run (⟨s', []⟩ :: past') ∧ Machine.IsGone ⟨s', []⟩ h.id := by
  obtain ⟨n, s₁, o, hn, hrun, hwithout, houtcome⟩ :=
    State.run_abandon (Kept.isInvariant.holds run) held
  obtain ⟨b, hb, hfinished⟩ := held
  obtain ⟨b₁, hb₁, -⟩ := houtcome.inside
  have hreply : s₁.reply = .flag (decide (h.id ∈ s.table.ids)) := congrArg State.reply hwithout
  have hbound : ∀ rest, n ≤ (Machine.mk s (.abandon h.id :: rest)).weight :=
    fun rest => Nat.le_trans hn (Nat.le_trans (by decide) (s.le_weight rest rfl))
  have hforget : (Machine.mk s [.abandon h.id, .forget h.id]).run (n + 1) =
      ⟨s₁.removeMailbox h.id, []⟩ := by
    rw [Machine.run_add, hrun]
    rfl
  refine ⟨s₁.removeMailbox h.id, ?_⟩
  obtain ⟨past₁, run₁⟩ := (run.begun_now (t := .abandon h.id) (by simp [Task.isOperation, hb])).run n
  rw [hrun] at run₁
  obtain ⟨past₂, run₂⟩ :=
    (run₁.begun_now (t := .forget h.id) (by simp [Task.isOperation, hb₁])).run 1
  change Run (⟨s₁.removeMailbox h.id, []⟩ :: past₂) at run₂
  refine ⟨past₂, ?_, ?_, ?_, run₂, (Kept.isInvariant.holds run₂).accounts.isGone ?_ ?_ ?_⟩
  · rw [cancel, State.perform_eq (hrun []) (hbound []), State.perform_forget, hreply]
  · obtain ⟨i, deadline, outcome, finished⟩ := b
    obtain rfl : finished = false := hfinished
    simp only [drop, hb]
    exact State.perform_eq hforget
      (Nat.le_trans (Nat.succ_le_succ hn) (Nat.le_trans (by decide) (s.le_weight _ rfl)))
  · exact hwithout
  · exact (s₁.mailbox?_removeMailbox h.id h.id).trans (if_pos rfl)
  · obtain ⟨hfirst, hlt⟩ := (Kept.isInvariant.holds run).given h.id b hb
    show (s₁.removeMailbox h.id).table.Retired h.id
    rw [hwithout]
    refine ⟨hfirst, hlt, fun hmem => ?_⟩
    obtain ⟨e, he, heq⟩ := Table.mem_ids.mp hmem
    simpa [heq] using (List.mem_filter.mp he).2
  · exact ⟨o, houtcome.told⟩

/-! ### Taking and waiting -/

/-- What came of an attempt to get the outcome through a handle. -/
inductive Answers (h : Handle α) : State σ × Option (Except CallFailure α) → Prop where
  /-- Nothing, and the call is still open. -/
  | pending {s' : State σ} (held : s'.HasHandle h.id) (hopen : h.id ∈ s'.table.ids) :
      Answers h (s', none)
  /-- The outcome of the call, its result read as the caller declared. -/
  | yielded {s' : State σ} {o : Outcome} (yielded : s'.HasYielded h.id o) :
      Answers h (s', some (Outcome.read h.decoder o))

theorem tryResult_of_pending (run : Run (⟨s, []⟩ :: past)) (held : s.HasHandle h.id)
    (hopen : h.id ∈ s.table.ids) : h.tryResult s = (s.answer .pending, none) := by
  rw [tryResult, perform, State.perform_take,
    State.take_of_pending (Kept.isInvariant.holds run) held hopen]
  rfl

theorem tryResult_of_outcome {o : Outcome} (ho : s.HasOutcome h.id o) :
    h.tryResult s = (s.take h.id, some (Outcome.read h.decoder o)) := by
  rw [tryResult, perform, State.perform_take, State.take_of_outcome ho]
  rfl

theorem taken_of_yielded {o : Outcome} (ho : s.HasYielded h.id o) :
    h.tryResult s = (s.answer (.refused (alreadyTaken h.id)), some (.error (alreadyTaken h.id))) ∧
      (∀ span, h.waitTimeout s span =
        some (s.answer (.refused (alreadyTaken h.id)), some (.error (alreadyTaken h.id)))) ∧
      h.wait s = ((s.answer (.refused (alreadyTaken h.id))).removeMailbox h.id,
        some (.error (alreadyTaken h.id))) := by
  refine ⟨?_, fun span => ?_, ?_⟩
  · rw [tryResult, perform, State.perform_take, State.take_of_yielded ho]
    rfl
  · have hfinished : h.isFinished s = true := by
      obtain ⟨b, hb, hfinished, -⟩ := ho.inside
      simp [isFinished, hb, hfinished]
    rw [waitTimeout, if_pos hfinished, perform, State.perform_take, State.take_of_yielded ho]
    rfl
  · simp only [wait, perform, State.perform_await_of_yielded ho]
    exact congrArg (·, _) (State.perform_forget _ h.id)

theorem accepted_of_idle (run : Run (⟨s, []⟩ :: past)) {id : Int} (held : s.HasHandle id) :
    .accepted id ∈ s.journal := by
  obtain ⟨b, hb, -⟩ := held
  have kept := Kept.isInvariant.holds run
  have hanswered := answered_of_idle run id
  rw [Table.allotted, if_pos (kept.given id b hb), (kept.fits id b hb).kept] at hanswered
  exact Journal.mem_acceptedIds.mp (List.count_pos_iff.mp (by omega))

theorem answers_of_await (run : Run (⟨s, []⟩ :: past)) (held : s.HasHandle h.id)
    {limit : Option Nat} {n : Nat} {s' : State σ}
    (done : (Machine.mk s [.await h.id limit]).run n = ⟨s', []⟩) :
    h.Answers (s', h.reading s'.reply) := by
  have hoperation : Task.isOperation s (.await h.id limit) = true := by
    obtain ⟨b, hb, -⟩ := held
    simp [Task.isOperation, hb]
  have awaiting : Awaiting h.id limit ⟨s, [.await h.id limit]⟩ :=
    ⟨held, accepted_of_idle run held, [], _, rfl, .inl rfl, by simp⟩
  obtain ⟨s₁, past₁, run₁, held₁, rfl⟩ := awaiting.ends (run.begun_now hoperation) done
  have kept₁ := Kept.isInvariant.holds run₁
  rcases kept₁.pending_or_outcome held₁ List.not_mem_nil with ⟨hopen, -⟩ | ⟨-, o, ho⟩
  · rw [State.take_of_pending kept₁ held₁ hopen]
    exact .pending held₁ hopen
  · have hyielded := ho.hasYielded
    rw [State.take_of_outcome ho] at hyielded ⊢
    exact .yielded hyielded

end Handle

/-! ### What becomes of handles -/

theorem hasHandle_of_register {s : State σ} {rest : List Task} {begun : Nat} {method : String}
    {params : Value} (kept : Kept ⟨s, .register begun method params .mailbox :: rest⟩)
    (hopen : s.table.closed = none) :
    ∃ m', (Machine.mk s (.register begun method params .mailbox :: rest)).step = some m' ∧
      m'.state.HasHandle s.table.nextId ∧ s.table.nextId ∈ m'.state.table.ids := by
  rcases s.register_cases begun method params .mailbox with
    ⟨reason, heq⟩ | ⟨id, table, clock, marks, arrivals, failure, hregister, -, heq⟩
  · have hnext := congrArg (fun result => result.1.table.nextId) heq
    simp [State.register, Table.register, hopen, State.openMailbox] at hnext
  · obtain ⟨-, rfl, rfl⟩ := Table.register_eq_ok hregister
    refine ⟨_, Machine.step_cons (congrArg some heq), ?_, by simp [Table.ids]⟩
    have hopened := s.mailbox?_openMailbox kept.mailbox?_nextId begun .mailbox s.table.nextId
    exact ⟨_, hopened.trans (if_pos rfl), rfl⟩

/-- What may become of a handle: it stays, it yields, it is given up, or its call was not sent. -/
theorem State.HasHandle.of_follows {m m' : Machine σ} {past : List (Machine σ)}
    (run : Run (m :: past)) {id : Int} (held : m.state.HasHandle id) (follows : m.Follows m') :
    m'.state.HasHandle id ∨
      (m.agenda.head? = some (.take id) ∧ ∃ o, m.state.HasOutcome id o ∧
        m'.state.reply = .outcome o ∧ m'.state.HasYielded id o) ∨
      m.agenda.head? = some (.forget id) ∨
      ∃ method failure, m.agenda.head? = some (.settle id method (some failure)) ∧
        id ∈ m.state.table.ids := by
  cases follows with
  | outer | reorder | part | resume => exact .inl held
  | step hs =>
    rcases held.of_step (Kept.isInvariant.holds run) hs with
      h | ⟨rfl, o, ho, hreply⟩ | rfl | ⟨method, failure, rfl, h⟩
    · exact .inl h
    · refine .inr (.inl ⟨rfl, o, ho, hreply, ?_⟩)
      rw [← (Prod.mk.inj (Option.some.inj hs)).1]
      exact ho.hasYielded
    · exact .inr (.inr (.inl rfl))
    · exact .inr (.inr (.inr ⟨method, failure, rfl, h⟩))

theorem State.HasYielded.of_follows {m m' : Machine σ} {past : List (Machine σ)}
    (run : Run (m :: past)) {id : Int} {o : Outcome} (yielded : m.state.HasYielded id o)
    (follows : m.Follows m') :
    m'.state.HasYielded id o ∨ m.agenda.head? = some (.forget id) := by
  cases follows with
  | outer | reorder | part | resume => exact .inl ⟨yielded.inside, yielded.told, yielded.once⟩
  | @step s s' t ts rest hs =>
    have kept := Kept.isInvariant.holds run
    obtain ⟨⟨b, hb, hfinished, ho⟩, htold, honce⟩ := yielded
    have hone := (kept.accounts.of_effect (effect_of_step hs)).le_one id
    have htold' := completed_of_step hs htold
    have hpos : 0 < s'.journal.completions id := List.countP_pos_iff.mpr ⟨_, htold', by simp⟩
    simp only at hone honce
    cases kept.posting_of_step hs id with
    | same box =>
      exact .inl ⟨⟨b, box.trans hb, hfinished, ho⟩, htold', by simp only; omega⟩
    | opened _ next =>
      rw [next, kept.mailbox?_nextId] at hb
      cases hb
    | posted journal =>
      rw [journal] at hone
      simp [Journal.completions] at hone honce
      omega
    | yielded _ _ former unfinished =>
      rw [hb] at former
      rw [Option.some.inj former, unfinished] at hfinished
      cases hfinished
    | removed task =>
      rcases task with rfl | ⟨method, failure, rfl, hopen⟩
      · exact .inr rfl
      · have := List.count_pos_iff.mpr hopen
        have := kept.accounts.le_one id
        simp only at this
        omega

/-! ### The promise -/

/-- What a handle promises that has not yielded and was not given up, while nothing is in progress.
-/
structure Handle.KeepsPromise {α : Type} (h : Handle α) (s : State σ) : Prop where
  /-- Either its call is open, or its mailbox holds the outcome of the call. -/
  one : (h.id ∈ s.table.ids ∧ ∀ o, ¬ s.HasOutcome h.id o) ∨
    (h.id ∉ s.table.ids ∧ ∃! o, s.HasOutcome h.id o)
  /-- In the first case an attempt to take the outcome changes nothing. -/
  pending : h.id ∈ s.table.ids → h.tryResult s = (s.answer .pending, none)
  /-- In the second case it gives the outcome, and only marks it as taken. -/
  yields : ∀ o, s.HasOutcome h.id o →
    h.tryResult s = (s.take h.id, some (Outcome.read h.decoder o)) ∧
      (s.take h.id).HasYielded h.id o ∧ s.take h.id =
        (s.updateMailbox h.id fun b => { b with finished := true }).answer (.outcome o)
  /-- Waiting does one or the other at its end, however many steps that takes. -/
  waits : ∀ limit n s', (Machine.mk s [.await h.id limit]).run n = ⟨s', []⟩ →
    h.Answers (s', h.reading s'.reply)
  /-- To wait for a span of time is to wait until its end, as long as a clock shows that. -/
  waitTimeout : ∀ span, (span.after? s.clock = none → h.waitTimeout s span = none) ∧
    ∀ limit n s', span.after? s.clock = some limit →
      (Machine.mk s [.await h.id (some limit)]).run n = ⟨s', []⟩ →
      n ≤ (Machine.mk s [.await h.id (some limit)]).weight →
      h.waitTimeout s span = some (s', h.reading s'.reply)
  /-- To wait for the outcome uses up the handle. -/
  wait : ∀ n s', (Machine.mk s [.await h.id none]).run n = ⟨s', []⟩ →
    n ≤ (Machine.mk s [.await h.id none]).weight →
    h.wait s = (s'.removeMailbox h.id, h.reading s'.reply)
  /-- Giving up the handle takes its own call out of the table, if that is open, and nothing else.
  From then on nothing comes of either. -/
  cancels : ∃ s' past', h.cancel s = (s', decide (h.id ∈ s.table.ids)) ∧ h.drop s = s' ∧
    s' = { s.without h.id with
      reply := .flag (decide (h.id ∈ s.table.ids))
      journal := s'.journal } ∧
    Run (⟨s', []⟩ :: past') ∧
    ∀ later m', Run (m' :: (later ++ ⟨s', []⟩ :: past')) → m'.IsGone h.id

theorem Handle.keepsPromise {α : Type} {h : Handle α} {s : State σ} {past : List (Machine σ)}
    (run : Run (⟨s, []⟩ :: past)) (held : s.HasHandle h.id) : h.KeepsPromise s := by
  have kept := Kept.isInvariant.holds run
  constructor
  · refine (kept.pending_or_outcome held List.not_mem_nil).imp_right ?_
    rintro ⟨hgone, o, ho⟩
    exact ⟨hgone, o, ho, fun o' ho' => ho'.unique ho⟩
  · exact fun hopen => h.tryResult_of_pending run held hopen
  · exact fun o ho => ⟨h.tryResult_of_outcome ho, ho.hasYielded, State.take_of_outcome ho⟩
  · exact fun limit n s' done => h.answers_of_await run held done
  · have hunfinished : h.isFinished s = false := by
      obtain ⟨b, hb, hfinished⟩ := held
      simp [isFinished, hb, hfinished]
    refine fun span => ⟨fun hnone => ?_, fun limit n s' hsome done hn => ?_⟩
    · simp [Handle.waitTimeout, hunfinished, hnone]
    · simp [Handle.waitTimeout, hunfinished, hsome, perform, State.perform_eq done hn]
  · intro n s' done hn
    simp only [Handle.wait, perform, State.perform_eq done hn]
    rw [State.perform_forget]
  · obtain ⟨s', past', hcancel, hdrop, hwithout, run', hgone⟩ := h.cancel_spec run held
    exact ⟨s', past', hcancel, hdrop, hwithout, run', fun later m' run'' => hgone.onward run''⟩

def clientWithHandles : State ScriptedPeer :=
  (newClient { requestTimeout := some (.ofMillis 50), restart := .manual }
    (ScriptedPeer.idle [] none)).performEach
      [.dispatch "a" .null .mailbox, .dispatch "b" .null .mailbox, .dispatch "c" .null .mailbox,
        .arrive (.line (responseTo 1)), .arrive (.line (responseTo 3))]

theorem run_clientWithHandles : ∃ past, Run (⟨clientWithHandles, []⟩ :: past) := by
  have connected : Run [⟨newClient { requestTimeout := some (.ofMillis 50), restart := .manual }
      (ScriptedPeer.idle [] none), []⟩] :=
    .connected (show connect { requestTimeout := some (.ofMillis 50), restart := .manual }
      (ScriptedPeer.idle [] none) = .ok _ from rfl)
  exact connected.performEach _ (by decide +kernel)

/-- The deadline of the second call passes while its handle waits. -/
def clientLate : State ScriptedPeer := (clientWithHandles.await 2 none).1

/-- Before the handle acts on that, the answer comes. -/
def clientOvertaken : State ScriptedPeer := clientLate.perform [.arrive (.line (responseTo 2))]

theorem run_clientOvertaken :
    ∃ past, Run (⟨clientOvertaken, []⟩ :: past) ∧
      Machine.mk clientLate [.expire 2 50000000, .take 2] ∈ past := by
  obtain ⟨past, run⟩ := run_clientWithHandles
  have hwaits : Task.isOperation clientWithHandles (.await 2 none) = true := by decide +kernel
  have hexpire : (clientWithHandles.await 2 none).2 = [.expire 2 50000000, .take 2] := by rfl
  have hawait : clientWithHandles.step (.await 2 none) =
      some (clientLate, [.expire 2 50000000, .take 2]) := by
    rw [← hexpire]
    rfl
  have late := (run.begun_now hwaits).stepped (Machine.step_cons hawait)
  exact (late.parted (by simp [Task.isWait])).perform_of_mem (t := .arrive (.line (responseTo 2)))
    rfl (by decide +kernel) List.mem_cons_self

theorem run_expire_clientOvertaken {past : List (Machine ScriptedPeer)}
    (run : Run (⟨clientOvertaken, []⟩ :: past)) :
    Run (⟨clientOvertaken, [.expire 2 50000000]⟩ :: ⟨clientOvertaken, []⟩ :: past) := by
  have hbox : (clientOvertaken.mailbox? 2).map (fun b => (b.finished, b.deadline)) =
      some (false, some 50000000) := by decide +kernel
  have hpassed : 50000000 ≤ clientOvertaken.clock := by decide +kernel
  generalize clientOvertaken = s at *
  obtain ⟨b, hb, hfields⟩ := Option.map_eq_some_iff.mp hbox
  obtain ⟨hfinished, hdeadline⟩ := Prod.mk.inj hfields
  exact run.resumed (Nat.le_refl _) ⟨b, hb, hfinished, hdeadline⟩ hpassed

def anyHandle (id : Int) : Handle Value := { id, decoder := .value }

end Switchboard.Client
