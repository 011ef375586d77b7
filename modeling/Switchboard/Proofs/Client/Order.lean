import Switchboard.Proofs.Client.Lines

/-!
# The order of arrivals does not matter

As long as callbacks leave their client alone, a delivered line does one of two things
(`State.after`): it ends one open call, whose callback is told the outcome, or it moves one counter.
Two lines that answer no call in common commute (`after_comm`), but for the order in which the
journal tells it, so any two orders of the same lines lead to the same client (`State.Agrees`).
-/

namespace Switchboard.Client

open Switchboard.Json

/-! ### Callbacks that leave the client alone -/

def Callback.actions : Callback → List Action
  | .mailbox => []
  | .script _ actions _ => actions

def Table.owners (t : Table) : Nat := t.entries.countP (·.callback.isOwner)

variable {σ : Type}

/-- Whether the callbacks of all open calls leave the client alone: they do nothing with it, and if
they hold it somebody else does so as well, so that the client is not closed when they give it back.
-/
structure State.LeftAlone (s : State σ) : Prop where
  idle : ∀ e ∈ s.table.entries, e.callback.actions = []
  held : ∀ e ∈ s.table.entries, e.callback.isOwner = true → s.table.owners < s.owners

/-! ### What is told -/

def Mark.isTold : Mark → Bool
  | .completed .. | .scripted .. => true
  | _ => false

/-- The marks that say what callbacks were told. -/
def Journal.told (j : Journal) : Journal := j.filter Mark.isTold

@[simp] theorem Journal.told_cons (m : Mark) (j : Journal) :
    told (m :: j) = if m.isTold then m :: told j else told j := List.filter_cons

@[simp] theorem Journal.told_append (j j' : Journal) : told (j ++ j') = told j ++ told j' :=
  List.filter_append ..

/-- The marks that a callback leaves which is told an outcome and does nothing with its client. -/
def Entry.marks (e : Entry) (o : Outcome) : Journal :=
  match e.callback with
  | .mailbox => [.completed e.id o]
  | .script label _ _ => [.scripted label o [], .completed e.id o]

theorem Entry.told_marks (e : Entry) (o : Outcome) : Journal.told (e.marks o) = e.marks o := by
  unfold marks
  split <;> rfl

def Entry.deliver (e : Entry) (o : Outcome) (mailboxes : List Mailbox) : List Mailbox :=
  match e.callback with
  | .mailbox => mailboxes.map fun m => if m.id == e.id then { m with outcome := some o } else m
  | .script .. => mailboxes

theorem Entry.deliver_comm {e e' : Entry} (h : e.id ≠ e'.id) (o o' : Outcome)
    (mailboxes : List Mailbox) :
    e'.deliver o' (e.deliver o mailboxes) = e.deliver o (e'.deliver o' mailboxes) := by
  unfold deliver
  split <;> split <;> try rfl
  rw [List.map_map, List.map_map]
  refine List.map_congr_left fun m _ => ?_
  simp only [Function.comp]
  by_cases hm : m.id = e.id
  · have hm' : m.id ≠ e'.id := hm ▸ h
    simp [hm, h]
  · by_cases hm' : m.id = e'.id <;> simp [hm, hm', h.symm]

def Table.without (t : Table) (id : Int) : Table :=
  { t with entries := t.entries.filter (·.id != id) }

theorem Table.without_comm (t : Table) (id id' : Int) :
    (t.without id).without id' = (t.without id').without id := by
  simp only [without, List.filter_filter, Bool.and_comm]

namespace State

/-- A client that has ended a call: it has left the table, and its callback was told the outcome. -/
def ended (s : State σ) (e : Entry) (o : Outcome) : State σ :=
  { s with
    table := s.table.without e.id
    mailboxes := e.deliver o s.mailboxes
    owners := if e.callback.isOwner then s.owners - 1 else s.owners
    journal := e.marks o ++ s.journal }

/-- The clients that come to the same, whenever and in whatever order callbacks were told. -/
structure Agrees (s s' : State σ) : Prop where
  rest : s' = { s with clock := s'.clock, journal := s'.journal }
  told : s.journal.told.Perm s'.journal.told

theorem Agrees.refl (s : State σ) : s.Agrees s := ⟨rfl, .refl _⟩

theorem Agrees.symm {s s' : State σ} (h : s.Agrees s') : s'.Agrees s :=
  ⟨by rw [h.rest], h.told.symm⟩

theorem Agrees.trans {s s' s'' : State σ} (h : s.Agrees s') (h' : s'.Agrees s'') :
    s.Agrees s'' :=
  ⟨by rw [h'.rest, h.rest], h.told.trans h'.told⟩

end State

/-! ### What a line does -/

/-- The open call that a line answers, with its answer. -/
def Table.answered? (t : Table) (line : String) : Option (Entry × Payload) :=
  match Message.parse line with
  | .ok (.response (some id) payload) => (t.find? id).map fun e => (e, payload)
  | _ => none

/-- As what a line is counted that answers no open call. -/
def surplus (line : String) : LineEffect :=
  match Message.parse line with
  | .ok (.response ..) => .unmatched
  | .ok _ => .unexpected
  | .error _ => .malformed

/-- What becomes of a client that is left alone by its callbacks, when a line is delivered. -/
def State.after (s : State σ) (line : String) : State σ :=
  match s.table.answered? line with
  | some (e, payload) => s.ended e (.ofPayload payload)
  | none => { s with tally := s.tally.after (surplus line) }

def answeredId? (line : String) : Option Int :=
  match Message.parse line with
  | .ok (.response id _) => id
  | _ => none

namespace Table

variable {t : Table} {line : String} {e : Entry} {payload : Payload}

theorem answered?_eq_some (h : t.answered? line = some (e, payload)) :
    e ∈ t.entries ∧ answeredId? line = some e.id := by
  unfold answered? at h
  split at h
  · rename_i id payload' hparse
    obtain ⟨e', he, heq⟩ := Option.map_eq_some_iff.mp h
    cases heq
    have hid : e.id = id := by simpa using List.find?_some he
    exact ⟨List.mem_of_find?_eq_some he, by rw [answeredId?, hparse, hid]⟩
  · cases h

theorem answered?_without {id : Int} (h : answeredId? line ≠ some id) :
    (t.without id).answered? line = t.answered? line := by
  unfold answered?
  split
  · rename_i j payload hparse
    have hne : j ≠ id := fun hj => h (by rw [answeredId?, hparse, hj])
    have hfind : (t.without id).find? j = t.find? j := by
      rw [find?, find?, without, List.find?_filter]
      refine congrArg (fun p => t.entries.find? p) (funext fun e => ?_)
      by_cases he : e.id = j <;> simp [he, hne]
    rw [hfind]
  · rfl

end Table

theorem Tally.after_comm (t : Tally) (effect effect' : LineEffect) :
    (t.after effect).after effect' = (t.after effect').after effect := by
  cases effect <;> cases effect' <;> rfl

/-! ### Two lines -/

/-- Whether two lines answer no call in common. -/
def Apart (line line' : String) : Prop :=
  ∀ id, answeredId? line = some id → answeredId? line' ≠ some id

theorem Apart.symm {line line' : String} (h : Apart line line') : Apart line' line :=
  fun id h' hline => h id hline h'

namespace State

variable {s s' : State σ} {line line' : String} {e e' : Entry} {payload payload' : Payload}

theorem after_of_some (h : s.table.answered? line = some (e, payload)) :
    s.after line = s.ended e (.ofPayload payload) := by
  simp only [after, h]

theorem after_of_none (h : s.table.answered? line = none) :
    s.after line = { s with tally := s.tally.after (surplus line) } := by
  simp only [after, h]

theorem Agrees.after (h : s.Agrees s') (line : String) : (s.after line).Agrees (s'.after line) := by
  obtain ⟨hrest, htold⟩ := h
  have htable : s'.table = s.table := by rw [hrest]
  cases hanswered : s.table.answered? line with
  | some found =>
    obtain ⟨e, payload⟩ := found
    have hanswered' : s'.table.answered? line = some (e, payload) := htable ▸ hanswered
    rw [after_of_some hanswered, after_of_some hanswered']
    refine ⟨?_, ?_⟩
    · rw [hrest]
      rfl
    · simp only [ended, Journal.told_append]
      exact htold.append_left _
  | none =>
    have hanswered' : s'.table.answered? line = none := htable ▸ hanswered
    rw [after_of_none hanswered, after_of_none hanswered']
    refine ⟨?_, htold⟩
    rw [hrest]

theorem Agrees.foldl_after (h : s.Agrees s') (lines : List String) :
    (lines.foldl State.after s).Agrees (lines.foldl State.after s') := by
  induction lines generalizing s s' with
  | nil => exact h
  | cons l rest ih => exact ih (h.after l)

theorem answered?_after (apart : Apart line line') :
    (s.after line).table.answered? line' = s.table.answered? line' := by
  cases hanswered : s.table.answered? line with
  | some found =>
    obtain ⟨e, payload⟩ := found
    rw [after_of_some hanswered]
    exact Table.answered?_without (apart e.id (Table.answered?_eq_some hanswered).2)
  | none => rw [after_of_none hanswered]

theorem ended_comm (h : e.id ≠ e'.id) (o o' : Outcome) :
    ((s.ended e o).ended e' o').Agrees ((s.ended e' o').ended e o) := by
  have howners : ∀ (owns owns' : Bool) (n : Nat),
      (if owns then (if owns' then n - 1 else n) - 1 else if owns' then n - 1 else n) =
        if owns' then (if owns then n - 1 else n) - 1 else if owns then n - 1 else n := by
    intro owns owns' n
    cases owns <;> cases owns' <;> rfl
  refine ⟨?_, ?_⟩
  · simp only [ended, Entry.deliver_comm h, Table.without_comm s.table e.id, howners]
  · simp only [ended, Journal.told_append, ← List.append_assoc]
    exact List.perm_append_comm.append_right _

/-- **Two lines that answer no call in common commute.** -/
theorem after_comm (apart : Apart line line') :
    ((s.after line).after line').Agrees ((s.after line').after line) := by
  have hnext := answered?_after (s := s) apart
  have hnext' := answered?_after (s := s) apart.symm
  cases hanswered : s.table.answered? line with
  | some found =>
    obtain ⟨e, payload⟩ := found
    rw [hanswered] at hnext'
    cases hanswered' : s.table.answered? line' with
    | some found' =>
      obtain ⟨e', payload'⟩ := found'
      rw [hanswered'] at hnext
      have hne : e.id ≠ e'.id := fun heq => apart e.id (Table.answered?_eq_some hanswered).2
        (heq ▸ (Table.answered?_eq_some hanswered').2)
      rw [after_of_some hnext, after_of_some hnext', after_of_some hanswered,
        after_of_some hanswered']
      exact ended_comm hne _ _
    | none =>
      rw [hanswered'] at hnext
      rw [after_of_none hnext, after_of_some hnext', after_of_some hanswered,
        after_of_none hanswered']
      exact .refl _
  | none =>
    rw [hanswered] at hnext'
    cases hanswered' : s.table.answered? line' with
    | some found' =>
      obtain ⟨e', payload'⟩ := found'
      rw [hanswered'] at hnext
      rw [after_of_some hnext, after_of_none hnext', after_of_none hanswered,
        after_of_some hanswered']
      exact .refl _
    | none =>
      rw [hanswered'] at hnext
      rw [after_of_none hnext, after_of_none hnext', after_of_none hanswered,
        after_of_none hanswered']
      refine ⟨?_, .refl _⟩
      simp only [s.tally.after_comm (surplus line)]

/-- **Any two orders of the same lines lead to the same client.** -/
theorem foldl_after_perm {lines lines' : List String} (perm : lines.Perm lines')
    (apart : lines.Pairwise Apart) (s : State σ) :
    (lines.foldl after s).Agrees (lines'.foldl after s) := by
  induction perm generalizing s with
  | nil => exact .refl s
  | cons l _ ih => exact ih (List.pairwise_cons.mp apart).2 (s.after l)
  | swap l l' rest =>
    have hl := (List.pairwise_cons.mp apart).1 l List.mem_cons_self
    simp only [List.foldl_cons]
    exact (after_comm hl).foldl_after rest
  | trans hperm _ ih ih' =>
    exact (ih apart s).trans (ih' ((hperm.pairwise_iff Apart.symm).mp apart) s)

theorem LeftAlone.after (h : s.LeftAlone) (line : String) : (s.after line).LeftAlone := by
  cases hanswered : s.table.answered? line with
  | some found =>
    obtain ⟨e, payload⟩ := found
    rw [after_of_some hanswered]
    have he := (Table.answered?_eq_some hanswered).1
    have hsplit := List.filter_append_perm (·.id != e.id) s.table.entries
    have hcount := hsplit.countP_eq (·.callback.isOwner)
    rw [List.countP_append] at hcount
    have hmem : e ∈ s.table.entries.filter fun e' => !(e'.id != e.id) :=
      List.mem_filter.mpr ⟨he, by simp⟩
    refine ⟨fun e' he' => h.idle e' (List.mem_of_mem_filter he'), fun e' he' howner => ?_⟩
    have hheld := h.held e' (List.mem_of_mem_filter he') howner
    simp only [ended, Table.owners, Table.without] at hheld ⊢
    split
    · rename_i howns
      have hpos := List.countP_pos_iff (p := (·.callback.isOwner)).mpr ⟨e, hmem, howns⟩
      omega
    · omega
  | none =>
    rw [after_of_none hanswered]
    exact ⟨h.idle, h.held⟩

theorem LeftAlone.of_agrees (h : s.LeftAlone) (agrees : s.Agrees s') : s'.LeftAlone := by
  rw [agrees.rest]
  exact ⟨h.idle, h.held⟩

end State

/-! ### Delivering -/

section

variable [Transport σ] {s s' : State σ}

theorem State.run_complete {e : Entry} (idle : e.callback.actions = [])
    (held : e.callback.isOwner = true → 1 < s.owners) (o : Outcome) (rest : List Task) :
    ∃ n, (Machine.mk s (.complete e.id e.callback o :: rest)).run n =
      ⟨{ s with
          mailboxes := e.deliver o s.mailboxes
          owners := if e.callback.isOwner then s.owners - 1 else s.owners
          journal := e.marks o ++ s.journal }, rest⟩ := by
  obtain ⟨id, method, createdAt, timeout, callback⟩ := e
  cases callback with
  | mailbox => exact ⟨1, rfl⟩
  | script label actions owner =>
    obtain rfl : actions = [] := idle
    cases owner with
    | false => exact ⟨2, rfl⟩
    | true =>
      have hothers : s.owners ≠ 1 := Nat.ne_of_gt (held rfl)
      refine ⟨4, ?_⟩
      simp [Machine.run, Machine.step, State.step, State.complete, State.script, State.release,
        hothers, Entry.deliver, Entry.marks, Callback.isOwner]

theorem State.arrive_of_some {line : String} {e : Entry} {payload : Payload}
    (h : s.table.answered? line = some (e, payload)) :
    ∃ event, s.arrive (.line line) =
      ({ s with
          table := s.table.without e.id
          journal := .traced event :: .arrived (.line line) :: s.journal },
        [.complete e.id e.callback (.ofPayload payload)]) := by
  unfold Table.answered? at h
  split at h
  · rename_i id payload' hparse
    obtain ⟨e', hfound, heq⟩ := Option.map_eq_some_iff.mp h
    cases heq
    obtain rfl : e.id = id := by simpa using List.find?_some hfound
    have htake : s.table.take e.id = some (e, s.table.without e.id) := by
      rw [Table.take, hfound]
      rfl
    simp only [arrive, receive, hparse, receiveResponse, note, Option.bind_some, htake]
    exact ⟨_, rfl⟩
  · cases h

theorem State.arrive_of_none {line : String} (h : s.table.answered? line = none) :
    ∃ event, s.arrive (.line line) =
      ({ s with
          tally := s.tally.after (surplus line)
          journal := .traced event :: .arrived (.line line) :: s.journal }, []) := by
  unfold surplus
  cases hparse : Message.parse line with
  | error fault =>
    simp only [arrive, receive, hparse]
    exact ⟨_, rfl⟩
  | ok message =>
    cases message with
    | request | notification =>
      simp only [arrive, receive, hparse]
      exact ⟨_, rfl⟩
    | response id payload =>
      have htake : id.bind s.table.take = none := by
        cases id with
        | none => rfl
        | some id =>
          simp only [Table.answered?, hparse, Option.map_eq_none_iff] at h
          rw [Option.bind_some, Table.take, h]
          rfl
      simp only [arrive, receive, hparse, receiveResponse, note, htake]
      exact ⟨_, rfl⟩

/-- **A delivered line does no more than `State.after` says,** and comes to its end. -/
theorem State.LeftAlone.run_arrive (h : s.LeftAlone) (line : String) (rest : List Task) :
    ∃ n s', (Machine.mk s (.arrive (.line line) :: rest)).run n = ⟨s', rest⟩ ∧
      (s.after line).Agrees s' := by
  cases hanswered : s.table.answered? line with
  | some found =>
    obtain ⟨e, payload⟩ := found
    obtain ⟨event, harrive⟩ := s.arrive_of_some hanswered
    have he := (Table.answered?_eq_some hanswered).1
    have hheld : e.callback.isOwner = true → 1 < s.owners := fun howner =>
      Nat.lt_of_le_of_lt (List.countP_pos_iff.mpr ⟨e, he, howner⟩) (h.held e he howner)
    obtain ⟨n, hrun⟩ := State.run_complete
      (s := { s with
        table := s.table.without e.id
        journal := .traced event :: .arrived (.line line) :: s.journal })
      (h.idle e he) hheld (.ofPayload payload) rest
    have hstep : s.step (.arrive (.line line)) = some (_, _) := congrArg some harrive
    refine ⟨n + 1, _, (Machine.run_succ (Machine.step_cons hstep) n).trans hrun, ?_⟩
    rw [after_of_some hanswered]
    refine ⟨rfl, ?_⟩
    simp [ended, Mark.isTold]
  | none =>
    obtain ⟨event, harrive⟩ := s.arrive_of_none hanswered
    have hstep : s.step (.arrive (.line line)) = some (_, _) := congrArg some harrive
    refine ⟨1, _, (Machine.run_succ (Machine.step_cons hstep) 0).trans rfl, ?_⟩
    rw [after_of_none hanswered]
    refine ⟨rfl, ?_⟩
    simp [Mark.isTold]

/-- A client to which lines were delivered one after another, each at some instant. -/
inductive Delivered : State σ → List String → State σ → Prop where
  | nil (s : State σ) : Delivered s [] s
  | cons {s s₁ s' : State σ} {line : String} {lines : List String} {now n : Nat}
      (later : s.clock ≤ now)
      (done : (Machine.mk { s with clock := now } [.arrive (.line line)]).run n = ⟨s₁, []⟩)
      (rest : Delivered s₁ lines s') : Delivered s (line :: lines) s'

theorem Delivered.run {lines : List String} (h : Delivered s lines s') {past : List (Machine σ)}
    (run : Run (⟨s, []⟩ :: past)) : ∃ past', Run (⟨s', []⟩ :: past') := by
  induction h generalizing past with
  | nil => exact ⟨past, run⟩
  | cons later done _ ih =>
    obtain ⟨past', hrun⟩ := (Run.begun run later (t := .arrive _) rfl).run _
    exact ih (done ▸ hrun)

theorem exists_delivered (h : s.LeftAlone) (lines : List String) : ∃ s', Delivered s lines s' := by
  induction lines generalizing s with
  | nil => exact ⟨s, .nil s⟩
  | cons line lines ih =>
    obtain ⟨n, s₁, hrun, hagrees⟩ := h.run_arrive line []
    obtain ⟨s', hrest⟩ := ih ((h.after line).of_agrees hagrees)
    exact ⟨s', .cons (Nat.le_refl _) hrun hrest⟩

theorem Machine.state_eq_of_run {m : Machine σ} {a b : Nat} (h : m.run a = ⟨s, []⟩)
    (h' : m.run b = ⟨s', []⟩) : s = s' := by
  have hidle : Machine.mk s [] = ⟨s', []⟩ := by
    calc Machine.mk s [] = m.run (a + b) := by rw [run_add, h, run_idle]
      _ = ⟨s', []⟩ := by rw [Nat.add_comm, run_add, h', run_idle]
  exact congrArg Machine.state hidle

theorem Delivered.agrees {lines : List String} (h : Delivered s lines s') (quiet : s.LeftAlone) :
    (lines.foldl State.after s).Agrees s' := by
  induction h with
  | nil => exact .refl _
  | @cons s s₁ s' line lines now n _ done _ ih =>
    have hclock : s.Agrees { s with clock := now } := ⟨rfl, .refl _⟩
    obtain ⟨k, s₂, hrun, hagrees⟩ := (quiet.of_agrees hclock).run_arrive line []
    obtain rfl := Machine.state_eq_of_run hrun done
    have hone := (hclock.after line).trans hagrees
    exact (hone.foldl_after lines).trans (ih ((quiet.after line).of_agrees hone))

end

variable [Transport σ]

/-- **The order of arrivals does not matter.** While nothing is in progress, let lines be delivered
of which no two are responses with one id, and let callbacks leave the client alone. Any two orders
of the lines, at any instants, lead to the same table, counters and mailboxes, and the callbacks
were told the same: the client is the same but for its clock and the order of its journal. -/
theorem arrival_order_does_not_matter {s : State σ} {past : List (Machine σ)}
    (run : Run (⟨s, []⟩ :: past)) (quiet : s.LeftAlone) {lines lines' : List String}
    (distinct : (lines.filterMap answeredId?).Nodup) (perm : lines.Perm lines') :
    (∃ s₁, Delivered s lines s₁) ∧
    (∀ s₁, Delivered s lines s₁ → ∃ past', Run (⟨s₁, []⟩ :: past')) ∧
    ∀ s₁ s₂, Delivered s lines s₁ → Delivered s lines' s₂ → s₁.Agrees s₂ := by
  refine ⟨exists_delivered quiet lines, fun s₁ h => h.run run, fun s₁ s₂ h₁ h₂ => ?_⟩
  have hapart : lines.Pairwise Apart := by
    refine (List.pairwise_filterMap.mp distinct).imp fun h id hl hl' => ?_
    exact h id hl id hl' rfl
  have horder := State.foldl_after_perm perm hapart s
  exact ((h₁.agrees quiet).symm.trans horder).trans (h₂.agrees quiet)

def fiveLines : List String :=
  ["\x7b\"jsonrpc\":\"2.0\",\"id\":1,\"result\":7\x7d",
    "\x7b\"jsonrpc\":\"2.0\",\"id\":2,\"error\":\x7b\"code\":-1,\"message\":\"no\"\x7d\x7d",
    "\x7b\"jsonrpc\":\"2.0\",\"id\":9,\"result\":null\x7d", "?",
    "\x7b\"jsonrpc\":\"2.0\",\"method\":\"log\"\x7d"]

def threeOpenCalls : State ScriptedPeer :=
  (newClient .default (ScriptedPeer.idle [] none)).performEach
    [.dispatch "a" .null .mailbox, .dispatch "b" .null (.script "b" [] true),
      .dispatch "c" .null .mailbox]

/-- Whether five lines come in one order or in reverse, two calls are answered and one stays open.
-/
theorem five_lines_in_reverse :
    ∃ (s₁ s₂ : State ScriptedPeer) (past past' : List (Machine ScriptedPeer)),
      Run (⟨threeOpenCalls, []⟩ :: past) ∧ threeOpenCalls.table.ids = [1, 2, 3] ∧
      threeOpenCalls.LeftAlone ∧ (fiveLines.filterMap answeredId?).Nodup ∧
      Delivered threeOpenCalls fiveLines s₁ ∧ Delivered threeOpenCalls fiveLines.reverse s₂ ∧
      Run (⟨s₁, []⟩ :: past') ∧ s₁.Agrees s₂ ∧ s₂.table.ids = [3] ∧ s₂.owners = 1 ∧
      s₂.tally = { malformed := 1, unmatched := 1, unexpected := 1 } := by
  have connected : Run [⟨newClient .default (ScriptedPeer.idle [] none), []⟩] :=
    .connected (show connect .default (ScriptedPeer.idle [] none) = .ok _ from rfl)
  obtain ⟨past, run⟩ := connected.performEach
    [.dispatch "a" .null .mailbox, .dispatch "b" .null (.script "b" [] true),
      .dispatch "c" .null .mailbox] ⟨rfl, rfl, rfl, rfl, rfl, rfl, trivial⟩
  have idle : threeOpenCalls.table.entries.all (·.callback.actions.isEmpty) = true := rfl
  have quiet : threeOpenCalls.LeftAlone :=
    ⟨fun e he => List.isEmpty_iff.mp (List.all_eq_true.mp idle e he), fun _ _ _ => by decide⟩
  have distinct : (fiveLines.filterMap answeredId?).Nodup := by decide +kernel
  obtain ⟨⟨s₁, h₁⟩, hruns, hagree⟩ :=
    arrival_order_does_not_matter run quiet distinct (List.reverse_perm fiveLines).symm
  obtain ⟨past', run'⟩ := hruns s₁ h₁
  obtain ⟨s₂, h₂⟩ := exists_delivered quiet fiveLines.reverse
  have hrest := (h₂.agrees quiet).rest
  refine ⟨s₁, s₂, past, past', run, rfl, quiet, distinct, h₁, h₂, run', hagree s₁ s₂ h₁ h₂, ?_⟩
  rw [hrest]
  exact ⟨rfl, rfl, rfl⟩

end Switchboard.Client
