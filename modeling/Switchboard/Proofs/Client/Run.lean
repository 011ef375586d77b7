import Switchboard.Proofs.Client.Effect

/-!
# Runs of a client

A run lists the machines that a client goes through, the latest first, from the moment at which it
is connected. While nothing is in progress an operation may begin at any later instant, or what
happens by itself may happen; all else are steps. The operations are single tasks
(`Task.isOperation`), and a script, which is fixed when its call is dispatched, stands for whatever
its callback does in this run. The table has no order: a run may go on with its calls in another
one, so calls are ended in any order.

Whoever waits on a handle is in nobody's way. A wait may be set aside at any of its steps (`parted`),
and then others act for as long as they like. It goes on with an operation; or it finds that the
deadline of the handle has passed (`resumed`), and what has become of the call meanwhile it learns
only from its next step.

`IsInvariant` collects what has to be shown of a property of machines, and `IsInvariant.holds` says
that it then holds at every moment of every run.
-/

namespace Switchboard.Client

variable {σ : Type} [Transport σ]

/-- The tasks that come from outside. Some need the client, and some a handle. -/
def Task.isOperation (s : State σ) : Task → Bool
  | .dispatch .. | .cancel _ | .restart | .close | .release | .countPending => 0 < s.owners
  | .arrive _ | .sweep _ => true
  | .take id | .await id _ | .abandon id | .forget id => (s.mailbox? id).isSome
  | _ => false

/-- The tasks by which a handle waits for its outcome. -/
def Task.isWait : Task → Bool
  | .await .. | .expire .. | .take _ => true
  | _ => false

/-- A client whose transport was just started, with what arrived meanwhile. -/
def opening (options : ClientOptions) (transport : σ) : Machine σ :=
  let (started, reaction) := Transport.start transport 0
  { state := (initial options started).report reaction.events
    agenda := reaction.arrivals.map .arrive }

def newClient (options : ClientOptions) (transport : σ) : State σ :=
  match connect options transport with
  | .ok s => s
  | .error _ => initial options transport

/-- The machines of a client, the latest first. -/
inductive Run : List (Machine σ) → Prop where
  | connected {options : ClientOptions} {transport : σ} {s : State σ}
      (h : connect options transport = .ok s) : Run [⟨s, []⟩]
  | begun {s : State σ} {past : List (Machine σ)} {t : Task} {now : Nat}
      (run : Run (⟨s, []⟩ :: past)) (later : s.clock ≤ now) (h : t.isOperation s = true) :
      Run (⟨{ s with clock := now }, [t]⟩ :: ⟨s, []⟩ :: past)
  | happened {s s' : State σ} {past : List (Machine σ)} {instant : Nat} {tasks : List Task}
      (run : Run (⟨s, []⟩ :: past)) (h : s.upcoming? = some (instant, s', tasks)) :
      Run (⟨s', tasks⟩ :: ⟨s, []⟩ :: past)
  | stepped {m m' : Machine σ} {past : List (Machine σ)} (run : Run (m :: past))
      (h : m.step = some m') : Run (m' :: m :: past)
  | reordered {m : Machine σ} {past : List (Machine σ)} {entries : List Entry}
      (run : Run (m :: past)) (h : entries.Perm m.state.table.entries) :
      Run (⟨{ m.state with table := { m.state.table with entries } }, m.agenda⟩ :: m :: past)
  | parted {m : Machine σ} {past : List (Machine σ)} (run : Run (m :: past))
      (waits : ∀ t ∈ m.agenda, t.isWait = true) : Run (⟨m.state, []⟩ :: m :: past)
  | resumed {s : State σ} {past : List (Machine σ)} {id : Int} {deadline now : Nat}
      (run : Run (⟨s, []⟩ :: past)) (later : s.clock ≤ now) (own : s.HasDeadline id deadline)
      (due : deadline ≤ now) :
      Run (⟨{ s with clock := now }, [.expire id deadline]⟩ :: ⟨s, []⟩ :: past)

/-! ### Steps -/

namespace Machine

theorem step_eq_some {m m' : Machine σ} (h : m.step = some m') :
    ∃ t rest s ts, m.agenda = t :: rest ∧ m.state.step t = some (s, ts) ∧ m' = ⟨s, ts ++ rest⟩ := by
  unfold step at h
  split at h
  · cases h
  · rename_i t rest ha
    split at h
    · rename_i s ts hs
      exact ⟨t, rest, s, ts, ha, hs, (Option.some.inj h).symm⟩
    · cases h

theorem step_cons {s s' : State σ} {t : Task} {ts rest : List Task} (h : s.step t = some (s', ts)) :
    (Machine.mk s (t :: rest)).step = some ⟨s', ts ++ rest⟩ := by simp [step, h]

theorem run_succ {m m' : Machine σ} (h : m.step = some m') (n : Nat) :
    m.run (n + 1) = m'.run n := by simp only [run, h]

theorem run_add (a b : Nat) (m : Machine σ) : m.run (a + b) = (m.run a).run b := by
  induction a generalizing m with
  | zero => rw [Nat.zero_add, run]
  | succ a ih =>
    rw [Nat.succ_add]
    cases hstep : m.step with
    | some m' => rw [run_succ hstep, run_succ hstep, ih]
    | none =>
      have hstays : ∀ n, m.run n = m := by
        intro n
        cases n <;> simp only [run, hstep]
      rw [hstays, hstays, hstays]

@[simp] theorem run_idle (s : State σ) (n : Nat) : (Machine.mk s []).run n = ⟨s, []⟩ := by
  cases n <;> rfl

theorem run_invariant {P : Machine σ → Prop} (step : ∀ {m m'}, m.step = some m' → P m → P m')
    (n : Nat) {m : Machine σ} (h : P m) : P (m.run n) := by
  induction n generalizing m with
  | zero => exact h
  | succ n ih =>
    unfold run
    split
    · rename_i m' hm
      exact ih (step hm h)
    · exact h

end Machine

theorem Run.run {m : Machine σ} {past : List (Machine σ)} (h : Run (m :: past)) (n : Nat) :
    ∃ past', Run (m.run n :: past') :=
  Machine.run_invariant (P := fun m => ∃ past, Run (m :: past))
    (fun hstep ⟨_, run⟩ => ⟨_, .stepped run hstep⟩) n ⟨past, h⟩

theorem State.run_eq_perform {s : State σ} {tasks : List Task}
    (done : ((Machine.mk s tasks).run (Machine.mk s tasks).weight).agenda = []) :
    (Machine.mk s tasks).run (Machine.mk s tasks).weight = ⟨s.perform tasks, []⟩ :=
  congrArg (Machine.mk (s.perform tasks)) done

theorem Run.begun_now {s : State σ} {past : List (Machine σ)} {t : Task}
    (run : Run (⟨s, []⟩ :: past)) (h : t.isOperation s = true) :
    Run (⟨s, [t]⟩ :: ⟨s, []⟩ :: past) := .begun run (Nat.le_refl _) h

theorem Run.perform {s : State σ} {past : List (Machine σ)} {t : Task} (run : Run (⟨s, []⟩ :: past))
    (h : t.isOperation s = true)
    (done : ((Machine.mk s [t]).run (Machine.mk s [t]).weight).agenda = []) :
    ∃ past', Run (⟨s.perform [t], []⟩ :: past') := by
  obtain ⟨past', hrun⟩ := (run.begun_now h).run (Machine.mk s [t]).weight
  exact ⟨past', State.run_eq_perform done ▸ hrun⟩

def State.performEach (s : State σ) : List Task → State σ
  | [] => s
  | t :: rest => (s.perform [t]).performEach rest

/-- Whether operations can begin one after another and each comes to its end. -/
def State.CanPerform (s : State σ) : List Task → Prop
  | [] => True
  | t :: rest => t.isOperation s = true ∧
      ((Machine.mk s [t]).run (Machine.mk s [t]).weight).agenda = [] ∧
      (s.perform [t]).CanPerform rest

instance State.decidableCanPerform :
    (s : State σ) → (tasks : List Task) → Decidable (s.CanPerform tasks)
  | _, [] => .isTrue trivial
  | s, t :: rest =>
    have := State.decidableCanPerform (s.perform [t]) rest
    inferInstanceAs (Decidable (_ ∧ _ ∧ _))

theorem Run.performEach {s : State σ} {past : List (Machine σ)} (run : Run (⟨s, []⟩ :: past))
    (tasks : List Task) (h : s.CanPerform tasks) :
    ∃ past', Run (⟨s.performEach tasks, []⟩ :: past') := by
  induction tasks generalizing s past with
  | nil => exact ⟨past, run⟩
  | cons t rest ih =>
    obtain ⟨hop, hdone, hrest⟩ := h
    obtain ⟨past', hrun⟩ := run.perform hop hdone
    exact ih hrun hrest

/-! ### Connecting -/

theorem State.arrive_of_entries_eq_nil {s : State σ} (h : s.table.entries = []) (a : Arrival) :
    (s.arrive a).2 = [] ∧ (s.arrive a).1.table.entries = [] := by
  rcases s.arrive_cases a with ⟨text, e, table, payload, event, rfl, -, htake, -⟩ |
    ⟨tally, marks, -, -, -, heq⟩ | ⟨reason, marks, rfl, -, heq⟩
  · have he := (Table.take_eq_some htake).1
    rw [h] at he
    cases he
  · rw [heq]
    exact ⟨rfl, h⟩
  · rw [heq, h]
    exact ⟨rfl, rfl⟩

theorem run_arrivals (arrivals : List Arrival) {s : State σ} (h : s.table.entries = []) {n : Nat}
    (hn : arrivals.length ≤ n) :
    ((Machine.mk s (arrivals.map .arrive)).run n).agenda = [] := by
  induction arrivals generalizing s n with
  | nil => cases n <;> rfl
  | cons a rest ih =>
    obtain ⟨k, rfl⟩ : ∃ k, n = k + 1 := ⟨n - 1, by simp at hn; omega⟩
    obtain ⟨htasks, hentries⟩ := s.arrive_of_entries_eq_nil h a
    have hstep : s.step (.arrive a) = some ((s.arrive a).1, []) := by
      rw [← htasks]
      rfl
    rw [List.map_cons, Machine.run_succ (Machine.step_cons hstep)]
    exact ih hentries (by simpa using hn)

theorem length_le_totalOf {α : Type} (weight : α → Nat) (l : List α)
    (h : ∀ a ∈ l, 1 ≤ weight a) : l.length ≤ totalOf weight l := by
  induction l with
  | nil => exact Nat.zero_le _
  | cons a rest ih =>
    have ha := h a List.mem_cons_self
    have hrest := ih fun b hb => h b (List.mem_cons_of_mem a hb)
    simp only [totalOf, List.length_cons]
    omega

theorem connect_eq_ok {options : ClientOptions} {transport : σ} {s : State σ}
    (h : connect options transport = .ok s) :
    ∃ n s₀ message fields, (opening options transport).run n = ⟨s₀, []⟩ ∧
      s = s₀.trace .info message fields := by
  simp only [connect] at h
  split at h
  · cases h
  · refine ⟨(opening options transport).weight, _, _, _, ?_, (Except.ok.inj h).symm⟩
    have hidle :
        ((opening options transport).run (opening options transport).weight).agenda = [] := by
      refine run_arrivals _ (by simp [initial, Table.empty]) ?_
      have hlen : (Transport.start transport 0).2.arrivals.length ≤
          totalOf Task.weight (opening options transport).agenda := by
        simpa [opening] using length_le_totalOf Task.weight (opening options transport).agenda
          (by simp [opening, Task.weight])
      exact Nat.le_trans hlen (by unfold Machine.weight; omega)
    rw [← hidle]
    rfl

/-- While a client is connected its transport is started, and only arrivals are dealt with, none of
which finds a call. -/
theorem connect_induction {P : State σ → Prop} {options : ClientOptions} {transport : σ}
    {s : State σ} (h : connect options transport = .ok s)
    (start : P (opening options transport).state)
    (arrive : ∀ s a, s.table.entries = [] → P s → P (s.arrive a).1)
    (trace : ∀ s level message fields, P s → P (s.trace level message fields)) : P s := by
  obtain ⟨n, s₀, message, fields, hrun, rfl⟩ := connect_eq_ok h
  have key := Machine.run_invariant
    (P := fun m : Machine σ => P m.state ∧ m.state.table.entries = [] ∧
      ∃ arrivals : List Arrival, m.agenda = arrivals.map .arrive) ?_ n
    (m := opening options transport) ⟨start, by simp [opening, initial, Table.empty], _, rfl⟩
  · rw [hrun] at key
    exact trace _ _ _ _ key.1
  · intro m m' hstep ⟨hm, hentries, arrivals, harrivals⟩
    obtain ⟨t, rest, s', ts, hagenda, hs, rfl⟩ := Machine.step_eq_some hstep
    rw [harrivals] at hagenda
    cases arrivals with
    | nil => cases hagenda
    | cons a arrivals =>
      obtain ⟨rfl, rfl⟩ := List.cons.inj hagenda
      have hresult : m.state.arrive a = (s', ts) := Option.some.inj hs
      obtain ⟨htasks, hnone⟩ := m.state.arrive_of_entries_eq_nil hentries a
      have hnext := arrive m.state a hentries hm
      rw [hresult] at htasks hnone hnext
      refine ⟨hnext, hnone, arrivals, ?_⟩
      rw [show ts = [] from htasks]
      rfl

/-! ### Invariants -/

omit [Transport σ] in
theorem Task.isFree_of_isOperation {s : State σ} {t : Task} (h : t.isOperation s = true) :
    t.isFree = true := by
  cases t <;> first | rfl | cases h

omit [Transport σ] in
theorem Task.isAside_of_isWait {t : Task} (h : t.isWait = true) : t.isAside = true := by
  cases t <;> first | rfl | cases h

/-- What makes a property hold of all machines of all runs. -/
structure IsInvariant (P : Machine σ → Prop) : Prop where
  opening : ∀ options transport, P (opening options transport)
  trace : ∀ {s : State σ} {level message fields}, P ⟨s, []⟩ → P ⟨s.trace level message fields, []⟩
  outer : ∀ {s : State σ} {now : Nat} {transport : σ} {tasks : List Task}, P ⟨s, []⟩ →
    Transport.Drifts s.clock s.transport transport → (∀ t ∈ tasks, t.isFree = true) →
    P ⟨{ s with transport, clock := now }, tasks⟩
  step : ∀ {s s' : State σ} {t : Task} {ts rest : List Task}, s.step t = some (s', ts) →
    P ⟨s, t :: rest⟩ → P ⟨s', ts ++ rest⟩
  reorder : ∀ {s : State σ} {tasks : List Task} {entries : List Entry},
    entries.Perm s.table.entries → P ⟨s, tasks⟩ →
    P ⟨{ s with table := { s.table with entries } }, tasks⟩
  part : ∀ {s : State σ} {tasks : List Task}, (∀ t ∈ tasks, t.isWait = true) → P ⟨s, tasks⟩ →
    P ⟨s, []⟩
  resume : ∀ {s : State σ} {id : Int} {deadline now : Nat}, s.HasDeadline id deadline →
    deadline ≤ now → P ⟨s, []⟩ → P ⟨{ s with clock := now }, [.expire id deadline]⟩

theorem IsInvariant.of_step {P : Machine σ → Prop} (inv : IsInvariant P) {m m' : Machine σ}
    (h : m.step = some m') (hm : P m) : P m' := by
  obtain ⟨t, rest, s, ts, hagenda, hs, rfl⟩ := Machine.step_eq_some h
  obtain ⟨state, agenda⟩ := m
  subst hagenda
  exact inv.step hs hm

/-- **An invariant holds at every moment of every run.** -/
theorem IsInvariant.holds {P : Machine σ → Prop} (inv : IsInvariant P) {m : Machine σ}
    {past : List (Machine σ)} (run : Run (m :: past)) : P m := by
  generalize hall : m :: past = all at run
  induction run generalizing m past with
  | @connected options transport s h =>
    cases hall
    obtain ⟨n, s₀, message, fields, hrun, rfl⟩ := connect_eq_ok h
    exact inv.trace (hrun ▸ Machine.run_invariant inv.of_step n (inv.opening options transport))
  | @begun s past' t now _ _ h ih =>
    cases hall
    refine inv.outer (ih rfl) (.refl _) fun u hu => ?_
    rw [List.mem_singleton.mp hu]
    exact Task.isFree_of_isOperation h
  | @happened s s' past' instant tasks _ h ih =>
    cases hall
    obtain ⟨transport, rfl, drifts, free⟩ := State.upcoming_spec h
    exact inv.outer (ih rfl) drifts free
  | stepped _ h ih =>
    cases hall
    exact inv.of_step h (ih rfl)
  | reordered _ h ih =>
    cases hall
    exact inv.reorder h (ih rfl)
  | parted _ waits ih =>
    cases hall
    exact inv.part waits (ih rfl)
  | resumed _ _ own due ih =>
    cases hall
    exact inv.resume own due (ih rfl)

/-! ### Going on -/

inductive Machine.Follows : Machine σ → Machine σ → Prop where
  | outer {s : State σ} {now : Nat} {transport : σ} {tasks : List Task}
      (drifts : Transport.Drifts s.clock s.transport transport)
      (free : ∀ t ∈ tasks, t.isFree = true) :
      Follows ⟨s, []⟩ ⟨{ s with transport, clock := now }, tasks⟩
  | step {s s' : State σ} {t : Task} {ts rest : List Task} (h : s.step t = some (s', ts)) :
      Follows ⟨s, t :: rest⟩ ⟨s', ts ++ rest⟩
  | reorder {s : State σ} {tasks : List Task} {entries : List Entry}
      (h : entries.Perm s.table.entries) :
      Follows ⟨s, tasks⟩ ⟨{ s with table := { s.table with entries } }, tasks⟩
  | part {s : State σ} {tasks : List Task} (waits : ∀ t ∈ tasks, t.isWait = true) :
      Follows ⟨s, tasks⟩ ⟨s, []⟩
  | resume {s : State σ} {id : Int} {deadline now : Nat} (own : s.HasDeadline id deadline)
      (due : deadline ≤ now) : Follows ⟨s, []⟩ ⟨{ s with clock := now }, [.expire id deadline]⟩

theorem Machine.Follows.of_step {m m' : Machine σ} (h : m.step = some m') : m.Follows m' := by
  obtain ⟨t, rest, s, ts, hagenda, hs, rfl⟩ := Machine.step_eq_some h
  obtain ⟨state, agenda⟩ := m
  subst hagenda
  exact .step hs

theorem IsInvariant.of_follows {P : Machine σ → Prop} (inv : IsInvariant P) {m m' : Machine σ}
    (h : m.Follows m') (hm : P m) : P m' := by
  cases h with
  | outer drifts free => exact inv.outer hm drifts free
  | step hs => exact inv.step hs hm
  | reorder hperm => exact inv.reorder hperm hm
  | part waits => exact inv.part waits hm
  | resume own due => exact inv.resume own due hm

theorem Run.follows {m m' : Machine σ} {past : List (Machine σ)} (run : Run (m' :: m :: past)) :
    Run (m :: past) ∧ m.Follows m' := by
  cases run with
  | begun run later h =>
    refine ⟨run, .outer (.refl _) fun u hu => ?_⟩
    rw [List.mem_singleton.mp hu]
    exact Task.isFree_of_isOperation h
  | happened run h =>
    obtain ⟨transport, rfl, drifts, free⟩ := State.upcoming_spec h
    exact ⟨run, .outer drifts free⟩
  | stepped run h => exact ⟨run, .of_step h⟩
  | reordered run h => exact ⟨run, .reorder h⟩
  | parted run waits => exact ⟨run, .part waits⟩
  | resumed run _ own due => exact ⟨run, .resume own due⟩

theorem Run.onward {P : Machine σ → Prop} {m m' : Machine σ} {later past : List (Machine σ)}
    (run : Run (m' :: (later ++ m :: past))) (start : P m)
    (keep : ∀ m₁ ∈ later ++ [m], ∀ m₂ past', Run (m₁ :: past') → m₁.Follows m₂ → P m₁ → P m₂) :
    P m' := by
  induction later generalizing m' with
  | nil =>
    obtain ⟨hrun, hfollows⟩ := run.follows
    exact keep m (by simp) m' past hrun hfollows start
  | cons m₁ later ih =>
    obtain ⟨hrun, hfollows⟩ := run.follows
    have h₁ : P m₁ := ih hrun fun m₂ hm₂ => keep m₂ (List.mem_cons_of_mem m₁ hm₂)
    exact keep m₁ List.mem_cons_self m' _ hrun hfollows h₁

end Switchboard.Client
