import Switchboard.Proofs.Client.Draining
import Switchboard.Proofs.Client.Retired

/-!
# What a mailbox holds

The mailbox of a handle is opened with its call, and the call's callback is then the mailbox
(`Kept.ours`). So a mailbox holds an outcome exactly if its callback was told one, and that one
(`Kept.holds`). Each id is booked once: the call of a mailbox is open, or its completion is owed, or
the mailbox holds the outcome (`Kept.pending_or_owed_or_told`). While nothing is in progress nothing
is owed.
-/

namespace Switchboard.Client

open Switchboard.Json

variable {σ : Type}

namespace State

/-! ### Looking into mailboxes -/

theorem mailbox?_updateMailbox (s : State σ) (id : Int) {f : Mailbox → Mailbox}
    (hf : ∀ b, (f b).id = b.id) (j : Int) :
    (s.updateMailbox id f).mailbox? j =
      if j = id then (s.mailbox? id).map f else s.mailbox? j := by
  have hsame : ((fun b : Mailbox => b.id == j) ∘ fun b => if b.id == id then f b else b) =
      fun b => b.id == j := by
    funext b
    simp only [Function.comp]
    split
    · rw [hf]
    · rfl
  have hid : ∀ b, s.mailboxes.find? (·.id == j) = some b → b.id = j := fun b hfound => by
    simpa using List.find?_some hfound
  simp only [updateMailbox, mailbox?, List.find?_map, hsame]
  by_cases heq : j = id
  · subst heq
    cases hfound : s.mailboxes.find? (·.id == j) with
    | none => simp
    | some b => simp [hid b hfound]
  · cases hfound : s.mailboxes.find? (·.id == j) with
    | none => simp [heq]
    | some b => simp [hid b hfound, heq]

theorem mailbox?_removeMailbox (s : State σ) (id j : Int) :
    (s.removeMailbox id).mailbox? j = if j = id then none else s.mailbox? j := by
  simp only [removeMailbox, mailbox?, List.find?_filter]
  by_cases heq : j = id
  · subst heq
    simp
  · rw [if_neg heq]
    refine congrArg (s.mailboxes.find? ·) (funext fun b => ?_)
    by_cases hb : b.id = j <;> simp [hb, heq]

theorem take_cases (s : State σ) (id : Int) :
    (∃ reply, s.take id = s.answer reply) ∨
      ∃ b o, s.mailbox? id = some b ∧ b.finished = false ∧ b.outcome = some o ∧
        s.take id =
          (s.updateMailbox id fun b => { b with finished := true }).answer (.outcome o) := by
  cases hb : s.mailbox? id with
  | none => exact .inl ⟨.pending, by simp [take, hb]⟩
  | some b =>
    cases hfinished : b.finished with
    | true => exact .inl ⟨.refused (alreadyTaken id), by simp [take, hb, hfinished]⟩
    | false =>
      cases ho : b.outcome with
      | none => exact .inl ⟨.pending, by simp [take, hb, hfinished, ho]⟩
      | some o => exact .inr ⟨b, o, rfl, hfinished, ho, by simp [take, hb, hfinished, ho]⟩

theorem mailbox?_openMailbox (s : State σ) {id : Int} (hnew : s.mailbox? id = none) (begun : Nat)
    (callback : Callback) (j : Int) :
    (s.openMailbox id begun callback).mailbox? j =
      match callback with
      | .mailbox =>
        if j = id then some
          { id
            deadline := s.options.requestTimeout.bind (·.after? begun)
            outcome := none
            finished := false }
        else s.mailbox? j
      | .script .. => s.mailbox? j := by
  cases callback with
  | script => rfl
  | mailbox =>
    simp only [mailbox?] at hnew
    simp only [openMailbox, mailbox?, List.find?_append, List.find?_singleton]
    by_cases heq : j = id
    · subst heq
      simp [hnew]
    · simp [heq, Ne.symm heq]

end State

/-! ### Callbacks that are to be told -/

/-- The call that a task ends, with its callback. -/
def Task.addressees : Task → List (Int × Callback)
  | .complete id callback _ => [(id, callback)]
  | .timeOut e => [(e.id, e.callback)]
  | _ => []

def addressees (entries : List Entry) (tasks : List Task) : List (Int × Callback) :=
  entries.map (fun e => (e.id, e.callback)) ++ tasks.flatMap Task.addressees

theorem addressees_eq_nil {tasks : List Task} (h : ∀ t ∈ tasks, t.isAside = true) :
    tasks.flatMap Task.addressees = [] := by
  refine List.flatMap_eq_nil_iff.mpr fun t ht => ?_
  have haside := h t ht
  cases t <;> first | rfl | cases haside

theorem addressees_entries (entries : List Entry) (f : Entry → Task)
    (hf : ∀ e, (f e).addressees = [(e.id, e.callback)]) :
    (entries.map f).flatMap Task.addressees = entries.map fun e => (e.id, e.callback) := by
  rw [List.flatMap_map, List.map_eq_flatMap]
  simp only [hf]

theorem addressees_of_effect {s s' : State σ} {t : Task} {ts : List Task}
    (effect : Effect s t s' ts) {p : Int × Callback} (hp : p ∈ addressees s'.table.entries ts) :
    p ∈ addressees s.table.entries [t] ∨
      ∃ begun method params, t = .register begun method params p.2 ∧ p.1 = s.table.nextId := by
  have hopen : ∀ {e : Entry}, e ∈ s.table.entries →
      (e.id, e.callback) ∈ addressees s.table.entries [t] := fun he =>
    List.mem_append_left _ (List.mem_map.mpr ⟨_, he, rfl⟩)
  have key : ∀ {books : Books}, s'.books = books → books.table.entries ⊆ s.table.entries →
      (∀ p ∈ ts.flatMap Task.addressees, p ∈ addressees s.table.entries [t]) →
      p ∈ addressees s.table.entries [t] := by
    rintro _ rfl hsubset htasks
    rcases List.mem_append.mp hp with hp | hp
    · obtain ⟨e, he, rfl⟩ := List.mem_map.mp hp
      exact hopen (hsubset he)
    · exact htasks p hp
  have hasides : ∀ {tasks : List Task}, (∀ t ∈ tasks, t.isAside = true) →
      ∀ p ∈ tasks.flatMap Task.addressees, p ∈ addressees s.table.entries [t] := by
    intro tasks h p hp
    rw [addressees_eq_nil h] at hp
    cases hp
  cases effect with
  | aside books _ others => exact .inl (key books (List.Subset.refl _) (hasides others))
  | @opened begun method params callback id table _ arrivals failure registered books =>
    obtain ⟨-, rfl, rfl⟩ := Table.register_eq_ok registered
    have htable := congrArg Books.table books
    simp only [State.books] at htable
    have hnone : (arrivals.map Task.arrive).flatMap Task.addressees = [] :=
      addressees_eq_nil fun _ => isAside_of_mem_arrivals
    simp only [addressees, htable, List.flatMap_append, hnone, List.map_append, List.mem_append,
      List.map_cons, List.map_nil, List.mem_singleton] at hp
    rcases hp with (hp | rfl) | hp
    · exact .inl (List.mem_append_left _ hp)
    · exact .inr ⟨begun, method, params, rfl, rfl⟩
    · simp [Task.addressees] at hp
  | accepted _ books => exact .inl (key books (List.Subset.refl _) (by simp [Task.addressees]))
  | withdrew taken books =>
    refine .inl (key books ?_ (hasides fun _ => Callback.isAside_of_mem_refusal))
    rw [(Table.take_eq_some taken).2.2]
    exact List.filter_subset_self _
  | @took _ e outcome table _ ts _ taken books others =>
    obtain ⟨he, -, rfl⟩ := Table.take_eq_some taken
    refine .inl (key books (List.filter_subset_self _) fun p hp => ?_)
    rw [List.flatMap_cons, List.mem_append] at hp
    rcases hp with hp | hp
    · rw [show p = _ from List.mem_singleton.mp hp]
      exact hopen he
    · exact hasides others p hp
  | counted _ _ books => exact .inl (key books (List.Subset.refl _) (by simp))
  | @swept now _ books =>
    refine .inl (key books (List.filter_subset_self _) fun p hp => ?_)
    rw [List.flatMap_append, addressees_entries _ _ fun _ => rfl, List.mem_append] at hp
    rcases hp with hp | hp
    · obtain ⟨e, he, rfl⟩ := List.mem_map.mp hp
      exact hopen (List.mem_of_mem_filter he)
    · simp [Task.addressees] at hp
  | timedOut books =>
    exact .inl (key books (List.Subset.refl _) (by simp [addressees, Task.addressees]))
  | drained _ books others =>
    refine .inl (key books (List.nil_subset _) fun p hp => ?_)
    rw [List.flatMap_append, addressees_entries _ _ fun _ => rfl, List.mem_append] at hp
    rcases hp with hp | hp
    · exact List.mem_append_left _ hp
    · exact hasides others p hp
  | completed books others => exact .inl (key books (List.Subset.refl _) (hasides others))
  | reopened books => exact .inl (key books (List.Subset.refl _) (by simp [Task.addressees]))

theorem Accounts.lt_of_addressee {m : Machine σ} (h : Accounts m) {p : Int × Callback}
    (hp : p ∈ addressees m.state.table.entries m.agenda) : 1 ≤ p.1 ∧ p.1 < m.state.table.nextId := by
  have hbooked := h.booked p.1
  have hpos : 0 < m.state.table.ids.count p.1 + (owedIds m.agenda).count p.1 := by
    rcases List.mem_append.mp hp with hp | hp
    · obtain ⟨e, he, rfl⟩ := List.mem_map.mp hp
      have := List.count_pos_iff.mpr (Table.mem_ids.mpr ⟨e, he, rfl⟩)
      simp only
      omega
    · obtain ⟨t, ht, hp⟩ := List.mem_flatMap.mp hp
      have howed : p.1 ∈ t.owed := by
        cases t <;> simp_all [Task.addressees, Task.owed]
      have hmem : p.1 ∈ owedIds m.agenda := List.mem_flatMap.mpr ⟨t, ht, howed⟩
      have := List.count_pos_iff.mpr hmem
      omega
  unfold Table.allotted at hbooked
  split at hbooked
  · assumption
  · simp only [Books.booked, State.books] at hbooked
    omega

/-! ### What a mailbox goes with -/

def Task.isPostal : Task → Bool
  | .register .. | .settle .. | .complete .. | .take _ | .forget _ => true
  | _ => false

theorem mailboxes_of_step [Transport σ] {s s' : State σ} {t : Task} {ts : List Task}
    (h : s.step t = some (s', ts)) (ht : t.isPostal = false) : s'.mailboxes = s.mailboxes := by
  cases handling_of_step h with
  | aside handles => exact congrArg Handles.mailboxes handles
  | opened | posted | yielded => cases ht
  | removed self => rcases self with rfl | ⟨method, failure, rfl⟩ <;> cases ht
  | waited => rfl

def Task.isFateful : Task → Bool
  | .settle .. | .complete .. => true
  | _ => false

theorem counts_of_step [Transport σ] {s s' : State σ} {t : Task} {ts : List Task}
    (h : s.step t = some (s', ts)) (ht : t.isFateful = false) (id : Int) :
    s'.journal.completions id = s.journal.completions id ∧
      s'.journal.withdrawals id = s.journal.withdrawals id := by
  have key : ∀ {calls : Journal}, s'.journal.calls = calls →
      calls.completions id = s.journal.calls.completions id ∧
        calls.withdrawals id = s.journal.calls.withdrawals id →
      s'.journal.completions id = s.journal.completions id ∧
        s'.journal.withdrawals id = s.journal.withdrawals id := by
    rintro _ rfl hcounts
    simpa [Journal.completions_calls, Journal.withdrawals_calls] using hcounts
  have harrivals := counts_of_arrivals (fun m hm => Task.mem_arrivalMarks (t := t) hm)
    s.journal.calls
  cases effect_of_step h with
  | aside books | swept books | timedOut books | reopened books =>
    exact key (congrArg Books.calls books) ⟨rfl, rfl⟩
  | opened _ books => exact key (congrArg Books.calls books) ⟨rfl, rfl⟩
  | counted _ _ books => exact key (congrArg Books.calls books) ⟨rfl, rfl⟩
  | took _ _ books | drained _ books =>
    exact key (congrArg Books.calls books) ⟨harrivals.1 id, harrivals.2.1 id⟩
  | accepted | withdrew | completed => cases ht

/-- What the mailbox of a call says goes with what the client has on record about the call. -/
structure Mailbox.Fits (b : Mailbox) (id : Int) (j : Journal) : Prop where
  kept : j.withdrawals id = 0
  empty : b.outcome = none → j.completions id = 0 ∧ b.finished = false
  full : ∀ o, b.outcome = some o → .completed id o ∈ j

theorem Mailbox.Fits.of_counts {b : Mailbox} {id : Int} {j j' : Journal} (h : b.Fits id j)
    (completions : j'.completions id = j.completions id)
    (withdrawals : j'.withdrawals id = j.withdrawals id)
    (more : ∀ o, .completed id o ∈ j → .completed id o ∈ j') : b.Fits id j' :=
  ⟨withdrawals.trans h.kept, fun hnone => ⟨completions.trans (h.empty hnone).1, (h.empty hnone).2⟩,
    fun o ho => more o (h.full o ho)⟩

structure Kept (m : Machine σ) : Prop where
  accounts : Accounts m
  given : ∀ id b, m.state.mailbox? id = some b → 1 ≤ id ∧ id < m.state.table.nextId
  /-- The call of a mailbox has no other callback. -/
  ours : ∀ p ∈ addressees m.state.table.entries m.agenda, m.state.mailbox? p.1 ≠ none →
    p.2 = .mailbox
  fits : ∀ id b, m.state.mailbox? id = some b → b.Fits id m.state.journal

theorem completed_of_step [Transport σ] {s s' : State σ} {t : Task} {ts : List Task}
    (h : s.step t = some (s', ts)) {id : Int} {o : Outcome}
    (hmark : .completed id o ∈ s.journal) : .completed id o ∈ s'.journal :=
  List.mem_of_mem_filter
    (mem_calls_of_effect (effect_of_step h) (List.mem_filter.mpr ⟨hmark, rfl⟩))

/-- What a step does about the mailbox of one call. -/
inductive Posting (s : State σ) (t : Task) (s' : State σ) (id : Int) : Prop where
  | same (box : s'.mailbox? id = s.mailbox? id)
      (counts : s.mailbox? id ≠ none → s'.journal.completions id = s.journal.completions id ∧
        s'.journal.withdrawals id = s.journal.withdrawals id)
  | opened (task : ∃ begun method params, t = .register begun method params .mailbox)
      (next : id = s.table.nextId) (nextId : s'.table.nextId = s.table.nextId + 1)
      (counts : s'.journal.completions id = s.journal.completions id ∧
        s'.journal.withdrawals id = s.journal.withdrawals id)
      (box : ∃ deadline, s'.mailbox? id = some { id, deadline, outcome := none, finished := false })
  | posted {o : Outcome} (journal : s'.journal = .completed id o :: s.journal)
      (box : s'.mailbox? id = (s.mailbox? id).map fun b => { b with outcome := some o })
  | yielded {b : Mailbox} {o : Outcome} (task : t = .take id) (journal : s'.journal = s.journal)
      (former : s.mailbox? id = some b) (unfinished : b.finished = false)
      (full : b.outcome = some o) (reply : s'.reply = .outcome o)
      (box : s'.mailbox? id = some { b with finished := true })
  /-- The mailbox is removed: its handle was given up, or its call was not sent. -/
  | removed (task : t = .forget id ∨ ∃ method failure, t = .settle id method (some failure) ∧
      id ∈ s.table.ids) (box : s'.mailbox? id = none)

theorem Accounts.unbooked {m : Machine σ} (h : Accounts m) :
    m.state.journal.completions m.state.table.nextId = 0 ∧
      m.state.journal.withdrawals m.state.table.nextId = 0 := by
  have hbooked := h.booked m.state.table.nextId
  rw [Table.allotted, if_neg (by omega)] at hbooked
  simp only [Books.booked, State.books, Journal.completions_calls, Journal.withdrawals_calls]
    at hbooked
  omega

namespace Kept

variable [Transport σ] {s s' : State σ} {t : Task} {ts rest : List Task}

omit [Transport σ] in
theorem mailbox?_nextId {m : Machine σ} (h : Kept m) :
    m.state.mailbox? m.state.table.nextId = none := by
  cases hfound : m.state.mailbox? m.state.table.nextId with
  | none => rfl
  | some b =>
    have := (h.given _ b hfound).2
    omega

/-! ### The steps, one by one -/

theorem posting_of_register {begun : Nat} {method : String} {params : Value} {callback : Callback}
    (h : Kept ⟨s, .register begun method params callback :: rest⟩)
    (hs : s.step (.register begun method params callback) = some (s', ts)) (id : Int) :
    Posting s (.register begun method params callback) s' id := by
  have hcounts := counts_of_step hs rfl id
  rcases s.register_cases begun method params callback with
    ⟨reason, heq⟩ | ⟨next, table, clock, marks, arrivals, failure, hregister, -, heq⟩
  · obtain ⟨rfl, -⟩ := Prod.mk.inj (heq.symm.trans (Option.some.inj hs))
    exact .same rfl fun _ => hcounts
  · obtain ⟨-, rfl, rfl⟩ := Table.register_eq_ok hregister
    have hstate := (Prod.mk.inj (heq.symm.trans (Option.some.inj hs))).1
    have hopened := s.mailbox?_openMailbox h.mailbox?_nextId begun callback id
    have hbox : (s.openMailbox s.table.nextId begun callback).mailbox? id = s'.mailbox? id := by
      rw [← hstate]
      rfl
    rw [hbox] at hopened
    cases callback with
    | script => exact .same hopened fun _ => hcounts
    | mailbox =>
      by_cases hid : id = s.table.nextId
      · subst hid
        exact .opened ⟨begun, method, params, rfl⟩ rfl (by rw [← hstate]) hcounts
          ⟨_, hopened.trans (if_pos rfl)⟩
      · exact .same (hopened.trans (if_neg hid)) fun _ => hcounts

theorem posting_of_settle {id : Int} {method : String} {failure : Option TransportFailure}
    (hs : s.step (.settle id method failure) = some (s', ts)) (j : Int) :
    Posting s (.settle id method failure) s' j := by
  have hstep : s.settle id method failure = (s', ts) := Option.some.inj hs
  unfold State.settle at hstep
  split at hstep
  · obtain ⟨rfl, -⟩ := Prod.mk.inj hstep
    exact .same rfl fun _ => ⟨rfl, rfl⟩
  · simp only at hstep
    split at hstep
    · -- The call is taken back, and its mailbox is removed.
      rename_i failure _ e table htake
      obtain ⟨he, hid, -⟩ := Table.take_eq_some htake
      obtain ⟨rfl, -⟩ := Prod.mk.inj hstep
      by_cases hj : j = id
      · subst hj
        exact .removed (.inr ⟨method, failure, rfl, Table.mem_ids.mpr ⟨e, he, hid⟩⟩)
          ((s.mailbox?_removeMailbox j j).trans (if_pos rfl))
      · exact .same ((s.mailbox?_removeMailbox id j).trans (if_neg hj)) fun _ =>
          ⟨rfl, by simp [Journal.withdrawals, Ne.symm hj]⟩
    · obtain ⟨rfl, -⟩ := Prod.mk.inj hstep
      exact .same rfl fun _ => ⟨rfl, rfl⟩

theorem posting_of_complete {id : Int} {callback : Callback} {outcome : Outcome}
    (h : Kept ⟨s, .complete id callback outcome :: rest⟩)
    (hs : s.step (.complete id callback outcome) = some (s', ts)) (j : Int) :
    Posting s (.complete id callback outcome) s' j := by
  have hother : j ≠ id →
      Journal.completions (.completed id outcome :: s.journal) j = s.journal.completions j :=
    fun hj => by simp [Journal.completions, Ne.symm hj]
  cases callback with
  | mailbox =>
    obtain ⟨rfl, -⟩ := Prod.mk.inj (Option.some.inj hs)
    have hposted := s.mailbox?_updateMailbox id (f := fun b => { b with outcome := some outcome })
      (fun _ => rfl) j
    by_cases hj : j = id
    · subst hj
      exact .posted rfl (hposted.trans (if_pos rfl))
    · exact .same (hposted.trans (if_neg hj)) fun _ => ⟨hother hj, rfl⟩
  | script label actions owner =>
    obtain ⟨rfl, -⟩ := Prod.mk.inj (Option.some.inj hs)
    refine .same rfl fun hbox => ⟨hother ?_, rfl⟩
    rintro rfl
    cases h.ours (j, .script label actions owner)
      (List.mem_append_right _ (List.mem_append_left _ List.mem_cons_self)) hbox

theorem posting_of_take {id : Int} (hs : s.step (.take id) = some (s', ts)) (j : Int) :
    Posting s (.take id) s' j := by
  have hcounts := counts_of_step hs rfl j
  obtain ⟨rfl, -⟩ := Prod.mk.inj (Option.some.inj hs)
  rcases s.take_cases id with ⟨reply, heq⟩ | ⟨b, o, hb, hfinished, ho, heq⟩
  · rw [heq]
    exact .same rfl fun _ => ⟨rfl, rfl⟩
  · have htaken := s.mailbox?_updateMailbox id (f := fun b => { b with finished := true })
      (fun _ => rfl) j
    rw [heq]
    by_cases hj : j = id
    · subst hj
      rw [if_pos rfl, hb] at htaken
      exact .yielded rfl rfl hb hfinished ho rfl htaken
    · exact .same (htaken.trans (if_neg hj)) fun _ => ⟨rfl, rfl⟩

/-- **Every step does one of these things about the mailbox of a call.** -/
theorem posting_of_step (h : Kept ⟨s, t :: rest⟩) (hs : s.step t = some (s', ts)) (id : Int) :
    Posting s t s' id := by
  have haside : t.isPostal = false → Posting s t s' id := fun ht =>
    .same (by rw [State.mailbox?, State.mailbox?, mailboxes_of_step hs ht])
      fun _ => counts_of_step hs (by cases t <;> first | rfl | cases ht) id
  cases t with
  | register => exact h.posting_of_register hs id
  | settle => exact posting_of_settle hs id
  | complete => exact h.posting_of_complete hs id
  | take => exact posting_of_take hs id
  | forget id' =>
    obtain ⟨rfl, -⟩ := Prod.mk.inj (Option.some.inj hs)
    by_cases hid : id = id'
    · subst hid
      exact .removed (.inl rfl) ((s.mailbox?_removeMailbox id id).trans (if_pos rfl))
    · exact .same ((s.mailbox?_removeMailbox id' id).trans (if_neg hid)) fun _ => ⟨rfl, rfl⟩
  | _ => exact haside rfl

/-! ### What a step keeps -/

theorem fits_of_step (h : Kept ⟨s, t :: rest⟩) (hs : s.step t = some (s', ts)) (id : Int)
    (b : Mailbox) (hb : s'.mailbox? id = some b) : b.Fits id s'.journal := by
  cases h.posting_of_step hs id with
  | same box counts =>
    rw [box] at hb
    obtain ⟨hcompletions, hwithdrawals⟩ := counts (by simp [hb])
    exact (h.fits id b hb).of_counts hcompletions hwithdrawals fun _ => completed_of_step hs
  | opened _ next _ counts box =>
    obtain ⟨deadline, box⟩ := box
    obtain rfl := Option.some.inj (box.symm.trans hb)
    obtain ⟨hcompletions, hwithdrawals⟩ := h.accounts.unbooked
    subst next
    exact ⟨counts.2.trans hwithdrawals, fun _ => ⟨counts.1.trans hcompletions, rfl⟩,
      fun o ho => by cases ho⟩
  | posted journal box =>
    obtain ⟨b₀, hb₀, rfl⟩ := Option.map_eq_some_iff.mp (box.symm.trans hb)
    rw [journal]
    refine ⟨(h.fits id b₀ hb₀).kept, fun hnone => absurd hnone (Option.some_ne_none _),
      fun o ho => ?_⟩
    rw [Option.some.inj ho]
    exact List.mem_cons_self
  | yielded _ journal former _ full _ box =>
    obtain rfl := Option.some.inj (box.symm.trans hb)
    have hfits := h.fits id _ former
    rw [journal]
    exact ⟨hfits.kept, fun hnone => by simp [full] at hnone, hfits.full⟩
  | removed _ box =>
    rw [box] at hb
    cases hb

theorem mailbox?_of_step (h : Kept ⟨s, t :: rest⟩) (hs : s.step t = some (s', ts)) {id : Int}
    (hbox : s'.mailbox? id ≠ none) : s.mailbox? id ≠ none ∨
      ((∃ begun method params, t = .register begun method params .mailbox) ∧
        id = s.table.nextId ∧ s'.table.nextId = s.table.nextId + 1) := by
  cases h.posting_of_step hs id with
  | same box => exact .inl (box ▸ hbox)
  | opened task next nextId => exact .inr ⟨task, next, nextId⟩
  | posted _ box =>
    refine .inl fun hnone => hbox ?_
    rw [box, hnone]
    rfl
  | yielded _ _ former => exact .inl (by simp [former])
  | removed _ box => exact absurd box hbox

theorem of_step (h : Kept ⟨s, t :: rest⟩) (hs : s.step t = some (s', ts)) :
    Kept ⟨s', ts ++ rest⟩ := by
  have heffect := effect_of_step hs
  refine ⟨h.accounts.of_effect heffect, fun id b hb => ?_, fun p hp hbox => ?_, h.fits_of_step hs⟩
  · have hbox : s'.mailbox? id ≠ none := by
      rw [show s'.mailbox? id = some b from hb]
      exact Option.some_ne_none b
    rcases h.mailbox?_of_step hs hbox with hold | ⟨-, hid, hnext⟩
    · obtain ⟨b₀, hb₀⟩ := Option.ne_none_iff_exists'.mp hold
      obtain ⟨hfirst, hlt⟩ := h.given id b₀ hb₀
      exact ⟨hfirst, Int.lt_of_lt_of_le hlt heffect.table_succeeds.nextId_le⟩
    · have hfirst := h.accounts.first
      simp only at hfirst ⊢
      omega
  · -- A callback that is to be told was so before, or is that of the call that is registered.
    have hold : p ∈ addressees s.table.entries (t :: rest) ∨ ∃ begun method params,
        t = .register begun method params p.2 ∧ p.1 = s.table.nextId := by
      simp only [addressees, List.flatMap_append, ← List.append_assoc] at hp
      rcases List.mem_append.mp hp with hp | hp
      · refine (addressees_of_effect heffect hp).imp_left fun hp => ?_
        rcases List.mem_append.mp hp with hp | hp
        · exact List.mem_append_left _ hp
        · rw [List.flatMap_singleton] at hp
          exact List.mem_append_right _ (List.mem_append_left _ hp)
      · exact .inl (List.mem_append_right _ (List.mem_append_right _ hp))
    rcases hold with hold | ⟨begun, method, params, rfl, hid⟩ <;>
      rcases h.mailbox?_of_step hs hbox with hkept | ⟨⟨_, _, _, htask⟩, hnew, -⟩
    · exact h.ours p hold hkept
    · have := (h.accounts.lt_of_addressee hold).2
      simp only at this
      omega
    · rw [hid] at hkept
      exact absurd h.mailbox?_nextId hkept
    · exact (by simpa using htask : _ ∧ _ ∧ _ ∧ p.2 = .mailbox).2.2.2

theorem isInvariant : IsInvariant (Kept (σ := σ)) where
  opening options transport := by
    have hnone : ∀ id, (opening options transport).state.mailbox? id = none := fun id => by
      simp [opening, initial, State.mailbox?]
    refine ⟨Accounts.isInvariant.opening options transport, fun id b hb => ?_,
      fun p _ hbox => absurd (hnone p.1) hbox, fun id b hb => ?_⟩ <;>
    · rw [hnone] at hb
      cases hb
  trace h := ⟨Accounts.isInvariant.trace h.accounts, h.given, h.ours, fun id b hb =>
    (h.fits id b hb).of_counts rfl rfl fun _ => List.mem_cons_of_mem _⟩
  outer h drifts free := by
    refine ⟨Accounts.isInvariant.outer h.accounts drifts free, h.given, fun p hp hbox => ?_, h.fits⟩
    refine h.ours p ?_ hbox
    rwa [addressees, addressees_eq_nil fun t ht => Task.isAside_of_isFree (free t ht)] at hp
  step hs h := h.of_step hs
  reorder hperm h := by
    refine ⟨Accounts.isInvariant.reorder hperm h.accounts, h.given, fun p hp hbox => ?_, h.fits⟩
    refine h.ours p ?_ hbox
    exact ((hperm.map _).append_right _).subset hp
  part waits h := by
    refine ⟨Accounts.isInvariant.part waits h.accounts, h.given, fun p hp hbox => ?_, h.fits⟩
    refine h.ours p ?_ hbox
    rwa [addressees, addressees_eq_nil fun t ht => Task.isAside_of_isWait (waits t ht)]
  resume own due h :=
    ⟨Accounts.isInvariant.resume own due h.accounts, h.given, h.ours, h.fits⟩

/-! ### What is always true of a mailbox -/

omit [Transport σ] in
theorem booked_once {m : Machine σ} (h : Kept m) {id : Int} {b : Mailbox}
    (hb : m.state.mailbox? id = some b) :
    m.state.table.ids.count id + m.state.journal.completions id + (owedIds m.agenda).count id =
      1 := by
  have hbooked := h.accounts.booked id
  rw [Table.allotted, if_pos (h.given id b hb)] at hbooked
  have hkept := (h.fits id b hb).kept
  simp only [Books.booked, State.books, Journal.completions_calls, Journal.withdrawals_calls]
    at hbooked
  omega

end Kept

end Switchboard.Client
