import Switchboard.Proofs.Client.Run
import Switchboard.Transport.Scripted

/-!
# Every call is accounted for

Each id that the table has given out is booked exactly once: its call is in the table, or its
completion is owed by a task, or its callback was told an outcome, or its dispatch took it back. And
each is answered exactly once: its dispatch is still at work, or has answered with the id, or has
failed. Both are equations between counts (`Accounts`), which every effect keeps. While nothing is
in progress no task owes anything, and three fates are left (`State.HasFate`).
-/

namespace Switchboard.Client

open Switchboard.Json

variable {σ : Type}

/-! ### Counting -/

/-- The calls whose callbacks are to be told an outcome. -/
def owedIds (tasks : List Task) : List Int := tasks.flatMap Task.owed

def unsettledIds (tasks : List Task) : List Int := tasks.flatMap Task.unsettled

theorem owedIds_eq_nil {tasks : List Task} (h : ∀ t ∈ tasks, t.isAside = true) :
    owedIds tasks = [] :=
  List.flatMap_eq_nil_iff.mpr fun t ht => Task.owed_of_isAside (h t ht)

theorem unsettledIds_eq_nil {tasks : List Task} (h : ∀ t ∈ tasks, t.isAside = true) :
    unsettledIds tasks = [] :=
  List.flatMap_eq_nil_iff.mpr fun t ht => Task.unsettled_of_isAside (h t ht)

@[simp] theorem owedIds_nil : owedIds [] = [] := rfl

@[simp] theorem owedIds_cons (t : Task) (tasks : List Task) :
    owedIds (t :: tasks) = t.owed ++ owedIds tasks := rfl

@[simp] theorem owedIds_append (tasks tasks' : List Task) :
    owedIds (tasks ++ tasks') = owedIds tasks ++ owedIds tasks' := List.flatMap_append

@[simp] theorem unsettledIds_nil : unsettledIds [] = [] := rfl

@[simp] theorem unsettledIds_cons (t : Task) (tasks : List Task) :
    unsettledIds (t :: tasks) = t.unsettled ++ unsettledIds tasks := rfl

@[simp] theorem unsettledIds_append (tasks tasks' : List Task) :
    unsettledIds (tasks ++ tasks') = unsettledIds tasks ++ unsettledIds tasks' :=
  List.flatMap_append

@[simp] theorem owedIds_timeOuts (entries : List Entry) :
    owedIds (entries.map .timeOut) = entries.map Entry.id := by
  induction entries with
  | nil => rfl
  | cons e rest ih => simp [Task.owed, ih]

@[simp] theorem unsettledIds_timeOuts (entries : List Entry) :
    unsettledIds (entries.map .timeOut) = [] := by
  rw [unsettledIds, List.flatMap_map, List.flatMap_eq_nil_iff]
  exact fun _ _ => rfl

@[simp] theorem owedIds_closed (entries : List Entry) (reason : String) :
    owedIds (entries.map fun e => .complete e.id e.callback (.error (.closed reason))) =
      entries.map Entry.id := by
  induction entries with
  | nil => rfl
  | cons e rest ih => simp [Task.owed, ih]

@[simp] theorem unsettledIds_closed (entries : List Entry) (reason : String) :
    unsettledIds (entries.map fun e => .complete e.id e.callback (.error (.closed reason))) =
      [] := by
  rw [unsettledIds, List.flatMap_map, List.flatMap_eq_nil_iff]
  exact fun _ _ => rfl

/-- How often a call is in the table or has come to its end. -/
def Books.booked (b : Books) (id : Int) : Nat :=
  b.table.ids.count id + b.calls.completions id + b.calls.withdrawals id

def Books.answered (b : Books) (id : Int) : Nat :=
  b.calls.acceptedIds.count id + b.calls.withdrawals id

def Table.allotted (t : Table) (id : Int) : Nat := if 1 ≤ id ∧ id < t.nextId then 1 else 0

theorem Table.allotted_le_one (t : Table) (id : Int) : t.allotted id ≤ 1 := by
  unfold allotted
  split <;> omega

structure Accounts (m : Machine σ) : Prop where
  first : 1 ≤ m.state.table.nextId
  booked : ∀ id, m.state.books.booked id + (owedIds m.agenda).count id = m.state.table.allotted id
  answered : ∀ id,
    m.state.books.answered id + (unsettledIds m.agenda).count id = m.state.table.allotted id

/-! ### What a step keeps -/

theorem Ends.isAside {e : Entry} {t : Task} {outcome : Outcome} (h : Ends e t outcome) :
    t.isAside = true := by cases h <;> rfl

theorem Closes.isAside {s : State σ} {t : Task} {reason : String} (h : Closes s t reason) :
    t.isAside = true := by cases h <;> rfl

theorem counts_of_arrivals {marks : Journal} (h : ∀ m ∈ marks, ∃ a, m = Mark.arrived a)
    (j : Journal) :
    (∀ id, Journal.completions (marks ++ j) id = j.completions id) ∧
      (∀ id, Journal.withdrawals (marks ++ j) id = j.withdrawals id) ∧
      Journal.acceptedIds (marks ++ j) = j.acceptedIds := by
  induction marks with
  | nil => exact ⟨fun _ => rfl, fun _ => rfl, rfl⟩
  | cons m rest ih =>
    obtain ⟨a, rfl⟩ := h m List.mem_cons_self
    exact ih fun m' hm => h m' (List.mem_cons_of_mem _ hm)

theorem Task.mem_arrivalMarks {t : Task} {m : Mark} (h : m ∈ t.arrivalMarks) :
    ∃ a, m = Mark.arrived a := by
  cases t <;> first | exact ⟨_, List.mem_singleton.mp h⟩ | cases h

namespace Accounts

variable {s s' : State σ} {t : Task} {rest ts : List Task}

theorem count_ids_le_one {m : Machine σ} (h : Accounts m) (id : Int) :
    m.state.table.ids.count id ≤ 1 := by
  have := h.booked id
  have := m.state.table.allotted_le_one id
  unfold Books.booked at *
  simp only [State.books] at *
  omega

theorem frame {ts ts' : List Task} (h : Accounts ⟨s, ts⟩)
    (nextId : s'.table.nextId = s.table.nextId)
    (ids : ∀ id, s'.table.ids.count id = s.table.ids.count id)
    (calls : s'.journal.calls = s.journal.calls) (owed : owedIds ts' = owedIds ts)
    (unsettled : unsettledIds ts' = unsettledIds ts) : Accounts ⟨s', ts'⟩ := by
  constructor
  · simpa only [nextId] using h.first
  · intro id
    have hb := h.booked id
    simp only [Books.booked, State.books, Table.allotted, nextId, ids, calls, owed] at hb ⊢
    exact hb
  · intro id
    have ha := h.answered id
    simp only [Books.answered, State.books, Table.allotted, nextId, calls, unsettled] at ha ⊢
    exact ha

theorem of_moved (h : Accounts ⟨s, t :: rest⟩) (marks : Journal) (self : t.isAside = true)
    (nextId : s'.table.nextId = s.table.nextId)
    (moved : ∀ id, s'.table.ids.count id + (owedIds ts).count id = s.table.ids.count id)
    (unsettled : unsettledIds ts = []) (arrivals : ∀ m ∈ marks, ∃ a, m = Mark.arrived a)
    (calls : s'.journal.calls = marks ++ s.journal.calls) : Accounts ⟨s', ts ++ rest⟩ := by
  obtain ⟨hcompletions, hwithdrawals, haccepted⟩ := counts_of_arrivals arrivals s.journal.calls
  constructor
  · have := h.first
    simp only at this ⊢
    omega
  · intro id
    have hb := h.booked id
    have hm := moved id
    simp only [Books.booked, State.books, Table.allotted, owedIds_cons, owedIds_append,
      Task.owed_of_isAside self, List.nil_append, List.count_append, calls, nextId, hcompletions,
      hwithdrawals] at hb ⊢
    omega
  · intro id
    have ha := h.answered id
    simp only [Books.answered, State.books, Table.allotted, unsettledIds_cons, unsettledIds_append,
      Task.unsettled_of_isAside self, unsettled, List.nil_append, calls, nextId, haccepted,
      hwithdrawals] at ha ⊢
    omega

theorem of_opened {method : String} {callback : Callback} {id : Int} {table : Table}
    {call : Request} {line : String} {arrivals : List Arrival} {failure : Option TransportFailure}
    {begun : Nat} {params : Value}
    (h : Accounts ⟨s, .register begun method params callback :: rest⟩)
    (registered : s.table.register method s.clock s.options.requestTimeout callback =
      .ok (id, table))
    (hcalls : s'.journal.calls = .transmitted line :: .registered call :: s.journal.calls)
    (htable : s'.table = table) :
    Accounts ⟨s', (arrivals.map .arrive ++ [.settle id method failure]) ++ rest⟩ := by
  obtain ⟨-, rfl, rfl⟩ := Table.register_eq_ok registered
  have hfirst := h.first
  simp only at hfirst
  have hasides : ∀ t ∈ arrivals.map Task.arrive, t.isAside = true :=
    fun _ => isAside_of_mem_arrivals
  constructor
  · rw [htable]
    simp only
    omega
  · intro id
    have hb := h.booked id
    simp only [Books.booked, State.books, Table.allotted, Table.ids, owedIds_append, owedIds_cons,
      owedIds_eq_nil hasides, Task.owed, owedIds_nil, List.nil_append, List.append_nil, htable,
      hcalls, List.map_append, List.map_cons, List.map_nil, List.count_append, List.count_singleton,
      beq_iff_eq] at hb ⊢
    have hc : Journal.completions (.transmitted line :: .registered call :: s.journal.calls) id =
      s.journal.calls.completions id := rfl
    have hw : Journal.withdrawals (.transmitted line :: .registered call :: s.journal.calls) id =
      s.journal.calls.withdrawals id := rfl
    rw [hc, hw]
    split at hb <;> split <;> split <;> omega
  · intro id
    have ha := h.answered id
    simp only [Books.answered, State.books, Table.allotted, unsettledIds_append, unsettledIds_cons,
      unsettledIds_eq_nil hasides, Task.unsettled, unsettledIds_nil, List.nil_append,
      List.append_nil, htable, hcalls, List.count_append, List.count_singleton, beq_iff_eq]
      at ha ⊢
    have hc : Journal.acceptedIds (.transmitted line :: .registered call :: s.journal.calls) =
      s.journal.calls.acceptedIds := rfl
    have hw : Journal.withdrawals (.transmitted line :: .registered call :: s.journal.calls) id =
      s.journal.calls.withdrawals id := rfl
    rw [hc, hw]
    split at ha <;> split <;> split <;> omega

theorem of_accepted {id : Int} {method : String} {failure : Option TransportFailure} {r : Reply}
    (h : Accounts ⟨s, .settle id method failure :: rest⟩) (htable : s'.table = s.table)
    (hcalls : s'.journal.calls = .accepted id :: s.journal.calls) :
    Accounts ⟨s', .answer r :: rest⟩ := by
  constructor
  · simpa only [htable] using h.first
  · intro i
    have hb := h.booked i
    simp only [Books.booked, State.books, htable, hcalls] at hb ⊢
    exact hb
  · intro i
    have ha := h.answered i
    have hw : Journal.withdrawals (.accepted id :: s.journal.calls) i =
      s.journal.calls.withdrawals i := rfl
    have hc : Journal.acceptedIds (.accepted id :: s.journal.calls) =
      id :: s.journal.calls.acceptedIds := rfl
    simp only [Books.answered, State.books, htable, hcalls, hw, hc, unsettledIds_cons,
      Task.unsettled, List.nil_append, List.count_append, List.count_cons, List.count_nil] at ha ⊢
    omega

theorem of_withdrew {id : Int} {method : String} {failure : Option TransportFailure} {e : Entry}
    {table : Table} {reason : CallFailure}
    (h : Accounts ⟨s, .settle id method failure :: rest⟩)
    (taken : s.table.take id = some (e, table)) (others : ∀ t ∈ ts, t.isAside = true)
    (htable : s'.table = table)
    (hcalls : s'.journal.calls = .withdrawn id reason :: s.journal.calls) :
    Accounts ⟨s', ts ++ rest⟩ := by
  have hcount := Table.count_ids_take taken (h.count_ids_le_one id)
  obtain ⟨-, rfl, rfl⟩ := Table.take_eq_some taken
  have hw : ∀ i, Journal.withdrawals (.withdrawn e.id reason :: s.journal.calls) i =
      s.journal.calls.withdrawals i + [e.id].count i := by
    intro i
    simp [Journal.withdrawals, List.countP_cons, List.count_singleton]
  constructor
  · simpa only [htable] using h.first
  · intro i
    have hb := h.booked i
    have hc := hcount i
    have hcomp : Journal.completions (.withdrawn e.id reason :: s.journal.calls) i =
      s.journal.calls.completions i := rfl
    simp only [Books.booked, State.books, Table.allotted, htable, hcalls, hw, hcomp,
      owedIds_append, owedIds_eq_nil others, owedIds_cons, Task.owed, List.nil_append] at hb ⊢
    omega
  · intro i
    have ha := h.answered i
    have hacc : Journal.acceptedIds (.withdrawn e.id reason :: s.journal.calls) =
      s.journal.calls.acceptedIds := rfl
    simp only [Books.answered, State.books, Table.allotted, htable, hcalls, hw, hacc,
      unsettledIds_append, unsettledIds_eq_nil others, unsettledIds_cons, Task.unsettled,
      List.nil_append, List.count_append] at ha ⊢
    omega

theorem of_completed {id : Int} {callback : Callback} {outcome : Outcome}
    (h : Accounts ⟨s, .complete id callback outcome :: rest⟩)
    (others : ∀ t ∈ ts, t.isAside = true) (htable : s'.table = s.table)
    (hcalls : s'.journal.calls = .completed id outcome :: s.journal.calls) :
    Accounts ⟨s', ts ++ rest⟩ := by
  constructor
  · simpa only [htable] using h.first
  · intro i
    have hb := h.booked i
    have hcomp : Journal.completions (.completed id outcome :: s.journal.calls) i =
        s.journal.calls.completions i + [id].count i := by
      simp [Journal.completions, List.countP_cons, List.count_singleton]
    have hw : Journal.withdrawals (.completed id outcome :: s.journal.calls) i =
      s.journal.calls.withdrawals i := rfl
    simp only [Books.booked, State.books, htable, hcalls, hcomp, hw, owedIds_append,
      owedIds_eq_nil others, owedIds_cons, Task.owed, List.nil_append, List.count_append] at hb ⊢
    omega
  · intro i
    have ha := h.answered i
    simp only [Books.answered, State.books, htable, hcalls, unsettledIds_append,
      unsettledIds_eq_nil others] at ha ⊢
    exact ha

/-- **Every step keeps the accounts.** -/
theorem of_effect (h : Accounts ⟨s, t :: rest⟩) (effect : Effect s t s' ts) :
    Accounts ⟨s', ts ++ rest⟩ := by
  cases effect with
  | aside books self others =>
    have htable := congrArg Books.table books
    simp only [State.books] at htable
    refine h.of_moved [] self (by rw [htable]) (fun id => ?_) (unsettledIds_eq_nil others)
      (by simp) (congrArg Books.calls books)
    rw [htable, owedIds_eq_nil others, List.count_nil, Nat.add_zero]
  | opened registered books =>
    exact h.of_opened registered (congrArg Books.calls books) (congrArg Books.table books)
  | accepted reason books =>
    exact h.of_accepted (congrArg Books.table books) (congrArg Books.calls books)
  | withdrew taken books =>
    exact h.of_withdrew taken (fun _ => Callback.isAside_of_mem_refusal)
      (congrArg Books.table books) (congrArg Books.calls books)
  | took ends taken books others =>
    have htable := congrArg Books.table books
    simp only [State.books] at htable
    refine h.of_moved _ ends.isAside ?_ (fun id => ?_) ?_ (fun _ => Task.mem_arrivalMarks)
      (congrArg Books.calls books)
    · rw [htable, (Table.take_eq_some taken).2.2]
    · rw [htable]
      simpa [Task.owed, owedIds_eq_nil others] using
        Table.count_ids_take taken (h.count_ids_le_one _) id
    · simp [Task.unsettled, unsettledIds_eq_nil others]
  | @counted a tally _ more line books =>
    have htable := congrArg Books.table books
    simp only [State.books] at htable
    exact h.of_moved [.arrived a] rfl (by rw [htable]) (fun id => by simp [htable]) rfl (by simp)
      (congrArg Books.calls books)
  | swept books =>
    have htable := congrArg Books.table books
    simp only [State.books] at htable
    refine h.of_moved [] rfl (by rw [htable]; rfl) (fun id => ?_) (by simp [Task.unsettled])
      (by simp) (congrArg Books.calls books)
    rw [htable]
    simpa [Task.owed] using s.table.count_ids_splitOverdue _ id
  | timedOut books =>
    have htable := congrArg Books.table books
    simp only [State.books] at htable
    exact h.frame (by rw [htable]) (fun id => by rw [htable]) (congrArg Books.calls books) rfl rfl
  | drained closes books others =>
    have htable := congrArg Books.table books
    simp only [State.books] at htable
    refine h.of_moved _ closes.isAside (by rw [htable]; rfl) (fun id => ?_) ?_
      (fun _ => Task.mem_arrivalMarks) (congrArg Books.calls books)
    · rw [htable]
      simp only [Table.ids_close, owedIds_append, owedIds_closed,
        owedIds_eq_nil others, List.append_nil, List.count_nil, Nat.zero_add]
      rfl
    · simp [unsettledIds_eq_nil others]
  | completed books others =>
    exact h.of_completed others (congrArg Books.table books) (congrArg Books.calls books)
  | reopened books =>
    have htable := congrArg Books.table books
    simp only [State.books] at htable
    exact h.frame (by rw [htable]; rfl) (fun id => by rw [htable]; rfl) (congrArg Books.calls books)
      rfl rfl

theorem isInvariant [Transport σ] : IsInvariant (Accounts (σ := σ)) where
  opening options transport := by
    have hasides : ∀ t ∈ (Transport.start transport 0).2.arrivals.map Task.arrive,
        t.isAside = true := fun _ => isAside_of_mem_arrivals
    have hcalls : (opening options transport).state.journal.calls = [] := by
      simpa [opening, initial] using Journal.calls_report (Transport.start transport 0).2.events []
    refine ⟨by simp [opening, initial, Table.empty], fun id => ?_, fun id => ?_⟩
    · simp only [Books.booked, State.books, hcalls]
      simp [opening, initial, Table.empty, Table.ids, Table.allotted, owedIds_eq_nil hasides,
        Journal.completions, Journal.withdrawals]
    · simp only [Books.answered, State.books, hcalls]
      simp [opening, initial, Table.empty, Table.allotted, unsettledIds_eq_nil hasides,
        Journal.acceptedIds, Journal.withdrawals]
  trace h := h.frame rfl (fun _ => rfl) (by simp) rfl rfl
  outer h _ free := by
    have hasides := fun t ht => Task.isAside_of_isFree (free t ht)
    exact h.frame rfl (fun _ => rfl) rfl (owedIds_eq_nil hasides) (unsettledIds_eq_nil hasides)
  step hs h := h.of_effect (effect_of_step hs)
  reorder hperm h := h.frame rfl (fun id => (Table.ids_perm hperm).count_eq id) rfl rfl rfl
  part waits h := by
    have hasides := fun t ht => Task.isAside_of_isWait (waits t ht)
    exact h.frame rfl (fun _ => rfl) rfl (owedIds_eq_nil hasides).symm
      (unsettledIds_eq_nil hasides).symm
  resume _ _ h := h.frame rfl (fun _ => rfl) rfl rfl rfl

end Accounts

/-! ### While nothing is in progress -/

inductive Fate where
  | pending
  | completed
  | withdrawn
  deriving DecidableEq, Repr

/-- A pending call is in the table and its callback was told nothing. The callback of a completed
call was told one outcome. The dispatch of a withdrawn call has failed, and its callback was told
nothing. -/
def State.HasFate (s : State σ) (id : Int) : Fate → Prop
  | .pending => id ∈ s.table.ids ∧ s.journal.completions id = 0 ∧ s.journal.withdrawals id = 0
  | .completed => id ∉ s.table.ids ∧ s.journal.completions id = 1 ∧ s.journal.withdrawals id = 0
  | .withdrawn => id ∉ s.table.ids ∧ s.journal.completions id = 0 ∧ s.journal.withdrawals id = 1

variable [Transport σ] {s : State σ} {past : List (Machine σ)}

theorem booked_of_idle (run : Run (⟨s, []⟩ :: past)) (id : Int) :
    s.table.ids.count id + s.journal.completions id + s.journal.withdrawals id =
      s.table.allotted id := by
  have h := (Accounts.isInvariant.holds run).booked id
  simpa [Books.booked, State.books, Journal.completions_calls, Journal.withdrawals_calls] using h

theorem answered_of_idle (run : Run (⟨s, []⟩ :: past)) (id : Int) :
    s.journal.acceptedIds.count id + s.journal.withdrawals id = s.table.allotted id := by
  have h := (Accounts.isInvariant.holds run).answered id
  simpa [Books.answered, State.books, Journal.acceptedIds_calls, Journal.withdrawals_calls] using h

theorem exists_fate (run : Run (⟨s, []⟩ :: past)) {id : Int} (h₁ : 1 ≤ id)
    (h₂ : id < s.table.nextId) : ∃ fate, s.HasFate id fate := by
  have hb := booked_of_idle run id
  rw [Table.allotted, if_pos ⟨h₁, h₂⟩] at hb
  by_cases hmem : id ∈ s.table.ids
  · have := List.count_pos_iff.mpr hmem
    exact ⟨.pending, hmem, by omega, by omega⟩
  · have hzero := List.count_eq_zero.mpr hmem
    by_cases hw : s.journal.withdrawals id = 0
    · exact ⟨.completed, hmem, by omega, hw⟩
    · exact ⟨.withdrawn, hmem, by omega, by omega⟩

omit [Transport σ] in
theorem State.HasFate.unique {id : Int} {fate fate' : Fate} (h : s.HasFate id fate)
    (h' : s.HasFate id fate') : fate = fate' := by
  cases fate <;> cases fate' <;> simp_all [State.HasFate]

theorem accepted_iff (run : Run (⟨s, []⟩ :: past)) (id : Int) :
    Mark.accepted id ∈ s.journal ↔
      (1 ≤ id ∧ id < s.table.nextId) ∧ (s.HasFate id .pending ∨ s.HasFate id .completed) := by
  have hb := booked_of_idle run id
  have ha := answered_of_idle run id
  rw [← Journal.mem_acceptedIds, ← List.count_pos_iff]
  by_cases hrange : 1 ≤ id ∧ id < s.table.nextId
  · rw [Table.allotted, if_pos hrange] at hb ha
    obtain ⟨fate, hfate⟩ := exists_fate run hrange.1 hrange.2
    cases fate with
    | pending =>
      have hw := hfate.2.2
      exact ⟨fun _ => ⟨hrange, .inl hfate⟩, fun _ => by omega⟩
    | completed =>
      have hw := hfate.2.2
      exact ⟨fun _ => ⟨hrange, .inr hfate⟩, fun _ => by omega⟩
    | withdrawn =>
      have hw := hfate.2.2
      refine ⟨fun _ => by omega, ?_⟩
      rintro ⟨-, hp | hc⟩
      · cases hfate.unique hp
      · cases hfate.unique hc
  · rw [Table.allotted, if_neg hrange] at ha
    simp only [hrange, false_and, iff_false]
    omega

def refusingPeer : ScriptedPeer :=
  { ScriptedPeer.idle [] none with
    sendPlans := [none, none, some { lines := [], ended := none, failure := some .notStarted }] }

def threeCalls : List Task :=
  [.dispatch "a" .null (.script "a" [] false), .dispatch "b" .null .mailbox, .cancel 1,
    .dispatch "c" .null .mailbox]

end Switchboard.Client
