import Mathlib.Data.List.Induction
import Switchboard.Proofs.Transport.Lifecycle

/-!
# Who holds the processes

A process that was launched is in the care of its transport until it is ended. The history of the
transport is the book of this (`custody?`): no launch is tried while a process is held, and what is
ended is the process that is held. So there is at most one process that was not ended, at any moment
of the history, and between operations it is the one that the transport runs and writes to
(`Owned`). Each operation keeps that: it either leaves the process as it is, or ends it (`Ends`), or,
holding none, launches another (`spawn_cases`).
-/

namespace Switchboard

/-! ### The book of processes -/

def Milestone.begun? : Milestone → Option Nat
  | .spawned g => some g
  | _ => none

/-- The process that was ended: it had ended before, did so when it was told to, or was killed. -/
def Milestone.ended? : Milestone → Option Nat
  | .foundEnded g _ | .endedInGrace g _ | .killing g => some g
  | .spawning | .spawned _ | .stopping _ => none

def launchedIn (history : List Milestone) : List Nat := history.filterMap Milestone.begun?

def endedIn (history : List Milestone) : List Nat := history.filterMap Milestone.ended?

def unendedIn (history : List Milestone) : List Nat :=
  (launchedIn history).filter (· ∉ endedIn history)

/-- What is in the care of a transport: how many processes it has launched, and the one it holds. -/
structure Custody where
  launches : Nat
  held : Option Nat
  deriving DecidableEq, Repr

/-- The custody after a milestone, if it is in order: nothing is launched while a process is held,
the processes are numbered, and only the process that is held is ended. -/
def Custody.after (c : Custody) : Milestone → Option Custody
  | .spawning => if c.held = none then some c else none
  | .spawned g =>
    if c.held = none ∧ g = c.launches + 1 then some { launches := g, held := some g } else none
  | .stopping g => if c.held = some g then some c else none
  | .foundEnded g _ | .endedInGrace g _ | .killing g =>
    if c.held = some g then some { c with held := none } else none

/-- The custody at the end of a history that is in order. -/
def custody? (history : List Milestone) : Option Custody :=
  history.foldlM Custody.after { launches := 0, held := none }

theorem custody?_append (front rest : List Milestone) :
    custody? (front ++ rest) = (custody? front).bind (rest.foldlM Custody.after) :=
  List.foldlM_append

theorem custody?_concat (front : List Milestone) (m : Milestone) :
    custody? (front ++ [m]) = (custody? front).bind (·.after m) := by
  simp [custody?_append, List.foldlM_cons]

theorem custody?_of_front {front history : List Milestone} {c : Custody} (h : front <+: history)
    (hcustody : custody? history = some c) : ∃ c', custody? front = some c' := by
  obtain ⟨rest, rfl⟩ := h
  rw [custody?_append] at hcustody
  obtain ⟨c', hfront, -⟩ := Option.bind_eq_some_iff.mp hcustody
  exact ⟨c', hfront⟩

theorem Custody.after_of_ended {c : Custody} {m : Milestone} {g : Nat} (h : m.ended? = some g) :
    c.after m = if c.held = some g then some { c with held := none } else none := by
  cases m <;> cases h <;> rfl

theorem custody?_ending {history : List Milestone} {n g : Nat} {m : Milestone}
    (h : custody? history = some { launches := n, held := some g }) (hm : m.ended? = some g) :
    custody? (history ++ [.stopping g, m]) = some { launches := n, held := none } := by
  have hstopping : Custody.after { launches := n, held := some g } (.stopping g) =
      some { launches := n, held := some g } := if_pos rfl
  rw [List.append_cons, custody?_concat, custody?_concat, h, Option.bind_some, hstopping,
    Option.bind_some, Custody.after_of_ended hm, if_pos rfl]

theorem custody?_launching {history : List Milestone} {n : Nat}
    (h : custody? history = some { launches := n, held := none }) :
    custody? (history ++ [.spawning, .spawned (n + 1)]) =
      some { launches := n + 1, held := some (n + 1) } := by
  rw [List.append_cons, custody?_concat, custody?_concat, h]
  simp only [Custody.after, ↓reduceIte, Option.bind_some, and_self]

theorem endedIn_concat (history : List Milestone) (m : Milestone) :
    endedIn (history ++ [m]) = endedIn history ++ m.ended?.toList := by
  cases h : m.ended? <;> simp [endedIn, h]

theorem launchedIn_concat (history : List Milestone) (m : Milestone) :
    launchedIn (history ++ [m]) = launchedIn history ++ m.begun?.toList := by
  cases h : m.begun? <;> simp [launchedIn, h]

/-- What a history in order says: the processes are numbered as they were launched, and those that
are ended are among them, all but the one that is held. -/
structure Custody.Books (c : Custody) (history : List Milestone) : Prop where
  launched : launchedIn history = List.range' 1 c.launches
  ended : ∀ g ∈ endedIn history, g ≤ c.launches
  unended : unendedIn history = c.held.toList

theorem Custody.Books.of_begun {c : Custody} {history : List Milestone} (h : c.Books history)
    (hheld : c.held = none) :
    Books { launches := c.launches + 1, held := some (c.launches + 1) }
      (history ++ [.spawned (c.launches + 1)]) := by
  have hlaunched := launchedIn_concat history (.spawned (c.launches + 1))
  have hended := endedIn_concat history (.spawned (c.launches + 1))
  simp only [Milestone.begun?, Option.toList_some, h.launched] at hlaunched
  simp only [Milestone.ended?, Option.toList_none, List.append_nil] at hended
  have hfresh : c.launches + 1 ∉ endedIn history := fun hmem => by
    have := h.ended _ hmem
    omega
  refine ⟨by rw [hlaunched, List.range'_1_concat, Nat.add_comm 1], fun g hg => ?_, ?_⟩
  · rw [hended] at hg
    exact Nat.le_succ_of_le (h.ended g hg)
  · calc unendedIn (history ++ [.spawned (c.launches + 1)])
        = unendedIn history ++ [c.launches + 1] := by
          rw [unendedIn, hlaunched, hended, List.filter_append, ← h.launched]
          simp [unendedIn, hfresh]
      _ = [c.launches + 1] := by simp [h.unended, hheld]

theorem Custody.Books.of_ended {c : Custody} {history : List Milestone} {m : Milestone} {g : Nat}
    (h : c.Books history) (hheld : c.held = some g) (hm : m.ended? = some g) :
    Books { c with held := none } (history ++ [m]) := by
  have hbegun : m.begun? = none := by cases m <;> cases hm <;> rfl
  have hlaunched := launchedIn_concat history m
  have hended := endedIn_concat history m
  simp only [hbegun, Option.toList_none, List.append_nil] at hlaunched
  simp only [hm, Option.toList_some] at hended
  have hone := h.unended
  rw [hheld] at hone
  refine ⟨hlaunched.trans h.launched, fun g' hg' => ?_, ?_⟩
  · rw [hended, List.mem_append, List.mem_singleton] at hg'
    rcases hg' with hg' | rfl
    · exact h.ended g' hg'
    · have hmem : g' ∈ unendedIn history := by simp [hone]
      have := (List.mem_filter.mp hmem).1
      rw [h.launched, List.mem_range'_1] at this
      show g' ≤ c.launches
      omega
  · -- Of those that were not ended, the one that was held is ended now.
    calc unendedIn (history ++ [m])
        = (unendedIn history).filter (· ≠ g) := by
          simp [unendedIn, hlaunched, hended, List.filter_filter, and_comm]
      _ = [] := by simp [hone]

theorem Custody.Books.of_idle {c : Custody} {history : List Milestone} {m : Milestone}
    (h : c.Books history) (hbegun : m.begun? = none) (hended : m.ended? = none) :
    c.Books (history ++ [m]) := by
  have hlaunched := launchedIn_concat history m
  have hended' := endedIn_concat history m
  simp only [hbegun, Option.toList_none, List.append_nil] at hlaunched
  simp only [hended, Option.toList_none, List.append_nil] at hended'
  refine ⟨hlaunched.trans h.launched, hended' ▸ h.ended, ?_⟩
  rw [← h.unended, unendedIn, hlaunched, hended', unendedIn]

theorem books_of_custody {history : List Milestone} {c : Custody} (h : custody? history = some c) :
    c.Books history := by
  induction history using List.reverseRecOn generalizing c with
  | nil =>
    cases h
    exact ⟨rfl, by simp [endedIn], rfl⟩
  | append_singleton history m ih =>
    rw [custody?_concat] at h
    obtain ⟨c', hbefore, hafter⟩ := Option.bind_eq_some_iff.mp h
    have hbooks := ih hbefore
    cases hm : m.ended? with
    | some g =>
      rw [Custody.after_of_ended hm] at hafter
      split at hafter
      · next hheld =>
        cases hafter
        exact hbooks.of_ended hheld hm
      · cases hafter
    | none =>
      cases m with
      | spawning | stopping =>
        simp only [Custody.after] at hafter
        split at hafter <;> cases hafter
        exact hbooks.of_idle rfl rfl
      | spawned g =>
        simp only [Custody.after] at hafter
        split at hafter
        · next hfree =>
          cases hafter
          rw [hfree.2]
          exact hbooks.of_begun hfree.1
        · cases hafter
      | foundEnded | endedInGrace | killing => cases hm

/-! ### Processes that were ended -/

/-- Nobody has told a process to end: its input is open and it was sent no signal. -/
structure Child.IsFree (c : Child) : Prop where
  inputEnd : c.stimuli.inputEnd = none
  signals : c.stimuli.signals = []

/-- A process, and the same process when it was ended: its input is closed, and it was seen to end
or was killed. -/
structure Child.EndsAs (c c' : Child) : Prop where
  behaviour : c'.behaviour = c.behaviour
  start : c'.start = c.start
  inputEnd : c'.stimuli.inputEnd.isSome = true
  gone : (∃ horizon, (c'.observe horizon).exit.isSome = true) ∨
    ∃ instant, (instant, Signal.kill) ∈ c'.stimuli.signals

namespace ProcessTransport

theorem ends_terminate (p : Running) (grace now : Nat) :
    p.child.EndsAs (terminate (p.stimulate (·.closeInput now)) grace now).process.child ∧
    ∃ m, (terminate (p.stimulate (·.closeInput now)) grace now).milestones = [m] ∧
      m.ended? = some p.generation := by
  have hclosed : (p.child.stimuli.closeInput now).inputEnd.isSome = true := by
    simp [Stimuli.closeInput]
  unfold terminate
  split
  · next status hstatus =>
    refine ⟨⟨rfl, rfl, hclosed, .inl ⟨now, ?_⟩⟩, _, rfl, rfl⟩
    simp only [Observation.exitBy?] at hstatus
    split at hstatus
    · next hexit => exact Option.isSome_of_eq_some hexit
    · cases hstatus
  · dsimp only
    split
    · next hexit =>
      exact ⟨⟨rfl, rfl, hclosed, .inl ⟨_, Option.isSome_of_eq_some hexit⟩⟩, _, rfl, rfl⟩
    · have hkilled (s : Stimuli) (t : Nat) : (t, Signal.kill) ∈ (s.signal t .kill).signals := by
        simp [Stimuli.signal]
      split <;> exact ⟨⟨rfl, rfl, hclosed, .inr ⟨_, hkilled _ _⟩⟩, _, rfl, rfl⟩

/-! ### What is left alone -/

def held (t : ProcessTransport) : Option (Nat × Child) :=
  match t.state with
  | .running p => some (p.generation, p.child)
  | .notStarted | .stopped => none

/-- The process that was ended last, as long as no other was launched. -/
def formerly (t : ProcessTransport) : Option Child := t.retired.map Running.child

variable {t t' t'' : ProcessTransport} {now limit : Nat}

theorem held_of_running {p : Running} (h : t.state = .running p) :
    t.held = some (p.generation, p.child) := by
  simp only [held, h]

theorem held_eq_none_iff : t.held = none ↔ ∀ p, t.state ≠ .running p := by
  cases h : t.state <;> simp [held, h]

theorem pid_eq_held : t.pid = t.held.map Prod.fst := by
  cases h : t.state <;> simp [pid, held, h]

/-- To read what processes write leaves them as they are, and the books too. -/
structure Reads (t t' : ProcessTransport) : Prop where
  held : t'.held = t.held
  formerly : t'.formerly = t.formerly
  writer : t'.writer = t.writer
  generation : t'.generation = t.generation
  history : t'.history = t.history

theorem Reads.refl (t : ProcessTransport) : t.Reads t := ⟨rfl, rfl, rfl, rfl, rfl⟩

theorem Reads.trans (h : t.Reads t') (h' : t'.Reads t'') : t.Reads t'' :=
  ⟨h'.held.trans h.held, h'.formerly.trans h.formerly, h'.writer.trans h.writer,
    h'.generation.trans h.generation, h'.history.trans h.history⟩

theorem reads_next {happening : Happening ProcessTransport} (h : t.next now = some happening) :
    t.Reads happening.transport := by
  obtain ⟨p, p', exitStatus, hstate, hgeneration, hchild, heq⟩ | ⟨p, p', hretired, hchild, heq⟩ :=
    next_cases h
  · rw [heq]
    refine ⟨?_, rfl, rfl, rfl, rfl⟩
    rw [held_of_running hstate, ← hgeneration, ← hchild]
    rfl
  · rw [heq]
    exact ⟨rfl, by simp [ProcessTransport.formerly, hretired, hchild], rfl, rfl, rfl⟩

theorem reads_drain (n : Nat) : t.Reads (t.drain now limit n).1 := by
  induction n generalizing t with
  | zero => exact .refl t
  | succ n ih =>
    unfold drain
    split
    · exact .refl t
    · next happening hnext =>
      split
      · exact (reads_next hnext).trans ih
      · exact .refl t

/-! ### Ending a process -/

/-- The process that was held, if there was one, was ended. -/
structure Ends (t t' : ProcessTransport) : Prop where
  held : t'.held = none
  writer : t'.writer = none
  generation : t'.generation = t.generation
  idle : t.held = none → t'.history = t.history
  busy : ∀ g child, t.held = some (g, child) → ∃ m child', m.ended? = some g ∧
    t'.history = t.history ++ [.stopping g, m] ∧ t'.formerly = some child' ∧ child.EndsAs child'

theorem Ends.reads (h : t.Ends t') (h' : t'.Reads t'') (exitStatus : Option ExitStatus) :
    t.Ends { t'' with exitStatus } := by
  refine ⟨h'.held.trans h.held, h'.writer.trans h.writer, h'.generation.trans h.generation,
    fun hidle => h'.history.trans (h.idle hidle), fun g child hheld => ?_⟩
  obtain ⟨m, child', hm, hhistory, hformerly, hends'⟩ := h.busy g child hheld
  exact ⟨m, child', hm, h'.history.trans hhistory, h'.formerly.trans hformerly, hends'⟩

theorem ends_shutdown {left : ProcessState} (hleft : held { t with state := left } = none) :
    t.Ends (t.shutdown now left).1 := by
  have hearly :
      Reads { t with writer := none } (drain { t with writer := none } now now patience).1 :=
    reads_drain patience
  unfold shutdown
  dsimp only
  generalize (drain { t with writer := none } now now patience).1 = drained at hearly ⊢
  have hheld : drained.held = t.held := hearly.held
  have hhistory : drained.history = t.history := hearly.history
  split
  · next p hstate =>
    rw [held_of_running hstate] at hheld
    obtain ⟨hends, m, hmilestones, hm⟩ := ends_terminate p drained.config.shutdownGrace.nanos now
    generalize terminate _ _ now = termination at hends hmilestones ⊢
    have hterminated : t.Ends ({ drained with
        state := left, retired := some termination.process }.record
          (.stopping p.generation :: termination.milestones)) := by
      refine ⟨hleft, hearly.writer, hearly.generation, fun hidle => ?_, fun g child hbusy => ?_⟩
      · rw [hidle] at hheld
        cases hheld
      · cases hheld.trans hbusy
        refine ⟨m, termination.process.child, hm, ?_, rfl, hends⟩
        rw [record, hmilestones, hhistory]
    split
    · exact hterminated.reads (.refl _) _
    · exact hterminated.reads (reads_drain _) _
  · next hstate =>
    have hnone : t.held = none := hheld.symm.trans (held_eq_none_iff.mpr hstate)
    refine ⟨hleft, hearly.writer, hearly.generation, fun _ => hhistory, fun g child hbusy => ?_⟩
    rw [hnone] at hbusy
    cases hbusy

/-! ### Launching a process -/

/-- To spawn is to try it once: the system refuses, or there is a new process, which is held. -/
theorem spawn_cases (t : ProcessTransport) (now : Nat) :
    (∃ e, t.system (t.attempts + 1) (t.remnants now) t.config = .error e ∧
      t.spawn now = ({ t with attempts := t.attempts + 1, history := t.history ++ [.spawning] },
        some (launchFailure t.config.commandLine e))) ∨
    (∃ behaviour t', t.system (t.attempts + 1) (t.remnants now) t.config = .ok behaviour ∧
      t.spawn now = (t', none) ∧ t'.held = some (t.generation + 1, .spawn behaviour now) ∧
      t'.writer = some (t.generation + 1) ∧ t'.generation = t.generation + 1 ∧
      t'.history = t.history ++ [.spawning, .spawned (t.generation + 1)]) := by
  unfold spawn
  dsimp only [record, remnants]
  split
  · next e hsystem => exact .inl ⟨e, hsystem, rfl⟩
  · next behaviour hsystem =>
    refine .inr ⟨behaviour, _, hsystem, rfl, rfl, rfl, rfl, ?_⟩
    rw [List.append_assoc, List.cons_append, List.nil_append]

/-! ### Custody between operations -/

/-- The process that a transport holds is the one that it has launched last, and nobody has told it
to end; what is written goes to it; and the history is in order. -/
structure Owned (t : ProcessTransport) : Prop where
  custody : custody? t.history = some { launches := t.generation, held := t.pid }
  writer : t.writer = t.pid
  held : ∀ g child, t.held = some (g, child) → g = t.generation ∧ child.IsFree

theorem owned_new (system : System) (config : ProcessConfig) :
    Owned (.new system config) := by
  refine ⟨rfl, rfl, fun g child h => ?_⟩
  cases h

theorem Owned.reads (h : t.Owned) (h' : t.Reads t') : t'.Owned := by
  have hpid : t'.pid = t.pid := by rw [pid_eq_held, h'.held, pid_eq_held]
  refine ⟨?_, ?_, ?_⟩
  · rw [h'.history, h'.generation, hpid]
    exact h.custody
  · rw [h'.writer, hpid]
    exact h.writer
  · rw [h'.held, h'.generation]
    exact h.held

theorem Owned.ends (h : t.Owned) (h' : t.Ends t') : t'.Owned := by
  have hpid : t'.pid = none := by rw [pid_eq_held, h'.held, Option.map_none]
  refine ⟨?_, by rw [h'.writer, hpid], fun g child hheld => ?_⟩
  · rw [hpid, h'.generation]
    cases hheld : t.held with
    | none =>
      rw [h'.idle hheld, h.custody, pid_eq_held, hheld, Option.map_none]
    | some process =>
      obtain ⟨g, child⟩ := process
      obtain ⟨m, child', hm, hhistory, -⟩ := h'.busy g child hheld
      have hcustody := h.custody
      rw [pid_eq_held, hheld, Option.map_some] at hcustody
      rw [hhistory]
      exact custody?_ending hcustody hm
  · rw [h'.held] at hheld
    cases hheld

theorem Owned.spawn (h : t.Owned) (hheld : t.held = none) (now : Nat) : (t.spawn now).1.Owned := by
  have hpid : t.pid = none := by rw [pid_eq_held, hheld, Option.map_none]
  have hcustody := h.custody
  rw [hpid] at hcustody
  obtain ⟨e, -, hspawn⟩ | ⟨behaviour, t', -, hspawn, hheld', hwriter, hgeneration, hhistory⟩ :=
    spawn_cases t now
  · rw [hspawn]
    refine ⟨?_, h.writer, h.held⟩
    show custody? (t.history ++ [.spawning]) = some { launches := t.generation, held := t.pid }
    rw [custody?_concat, hcustody, hpid]
    rfl
  · rw [hspawn]
    have hpid' : t'.pid = some (t.generation + 1) := by rw [pid_eq_held, hheld', Option.map_some]
    refine ⟨?_, by rw [hwriter, hpid'], fun g child hnew => ?_⟩
    · rw [hhistory, hgeneration, hpid']
      exact custody?_launching hcustody
    · cases hheld'.symm.trans hnew
      exact ⟨hgeneration.symm, rfl, rfl⟩

theorem Owned.generation_pos (h : t.Owned) {g : Nat} {child : Child}
    (hheld : t.held = some (g, child)) : 0 < t.generation := by
  have hunended := (books_of_custody h.custody).unended
  have hlaunched := (books_of_custody h.custody).launched
  rw [pid_eq_held, hheld, Option.map_some, Option.toList_some] at hunended
  have hmem : g ∈ unendedIn t.history := by rw [hunended]; exact List.mem_singleton_self g
  have hg := (List.mem_filter.mp hmem).1
  rw [hlaunched, List.mem_range'_1, (h.held g child hheld).1] at hg
  exact hg.1

theorem Owned.send_of_running (h : t.Owned) {p : Running} (hstate : t.state = .running p)
    (now : Nat) (line : String) :
    t.send now line =
      if (p.child.observe now).isDeaf now then (t, .refusal (.write .brokenPipe))
      else ({ t with state := .running (p.stimulate (·.write now (encodeText line ++ [newline]))) },
        .silent) := by
  have hwriter : t.writer = some p.generation := by
    rw [h.writer, pid_eq_held, held_of_running hstate, Option.map_some]
  simp only [ProcessTransport.send, hwriter, hstate, ne_eq, not_true_eq_false, ↓reduceIte]

theorem Owned.send_of_idle (h : t.Owned) (hheld : t.held = none) (now : Nat) (line : String) :
    t.send now line =
      (t, .refusal (if t.generation = 0 then .notStarted else inputClosed)) := by
  have hwriter : t.writer = none := by rw [h.writer, pid_eq_held, hheld, Option.map_none]
  simp only [ProcessTransport.send, hwriter]
  split <;> rfl

theorem Owned.send (h : t.Owned) (now : Nat) (line : String) : (t.send now line).1.Owned := by
  cases hstate : t.state with
  | running p =>
    rw [h.send_of_running hstate]
    split
    · exact h
    · have hpid : t.pid = some p.generation := by
        rw [pid_eq_held, held_of_running hstate, Option.map_some]
      have hp := h.held _ _ (held_of_running hstate)
      refine ⟨h.custody.trans (by rw [hpid]; rfl), h.writer.trans hpid, fun g child hheld => ?_⟩
      cases hheld
      exact ⟨hp.1, hp.2.inputEnd, hp.2.signals⟩
  | notStarted | stopped =>
    rw [h.send_of_idle (by simp [ProcessTransport.held, hstate])]
    exact h

theorem Owned.start (h : t.Owned) (now : Nat) : (t.start now).1.Owned := by
  unfold ProcessTransport.start
  split
  · next hstate => exact h.spawn (by simp [ProcessTransport.held, hstate]) now
  · split <;> exact h
  · exact h

theorem Owned.restart (h : t.Owned) (now : Nat) : (t.restart now).1.Owned :=
  have hends : t.Ends (t.shutdown now .notStarted).1 := ends_shutdown rfl
  (h.ends hends).spawn hends.held _

theorem Lived.owned {system : System} {config : ProcessConfig} {past : List Deed}
    (h : Lived system config past t) : t.Owned := by
  induction h with
  | new => exact owned_new system config
  | start _ now ih => exact ih.start now
  | restart _ now ih => exact ih.restart now
  | send _ now line ih => exact ih.send now line
  | close _ now ih => exact ih.ends (ends_shutdown rfl)
  | next _ hnext ih => exact ih.reads (reads_next hnext)

theorem Owned.books_of_front (h : t.Owned) {front : List Milestone} (hfront : front <+: t.history) :
    ∃ c : Custody, custody? front = some c ∧ c.Books front := by
  obtain ⟨c, hc⟩ := custody?_of_front hfront h.custody
  exact ⟨c, hc, books_of_custody hc⟩

/-- To try to launch a process is in order only if all are ended. -/
theorem Owned.ended_of_spawning (h : t.Owned) {front : List Milestone}
    (hfront : front ++ [.spawning] <+: t.history) : unendedIn front = [] := by
  obtain ⟨c', hc', -⟩ := h.books_of_front hfront
  rw [custody?_concat] at hc'
  obtain ⟨c, hc, hafter⟩ := Option.bind_eq_some_iff.mp hc'
  simp only [Custody.after] at hafter
  split at hafter
  · next hfree => rw [(books_of_custody hc).unended, hfree, Option.toList_none]
  · cases hafter

theorem Owned.unended_eq (h : t.Owned) : unendedIn t.history = t.pid.toList :=
  (books_of_custody h.custody).unended

theorem Owned.launched_eq (h : t.Owned) : launchedIn t.history = List.range' 1 t.generation :=
  (books_of_custody h.custody).launched

theorem history_spawn (t : ProcessTransport) (now : Nat) :
    (t.spawn now).1.history = t.history ++ .spawning ::
      if (t.spawn now).2 = none then [.spawned (t.generation + 1)] else [] := by
  obtain ⟨e, -, hspawn⟩ | ⟨behaviour, t', -, hspawn, -, -, -, hhistory⟩ := spawn_cases t now
  · rw [hspawn]
    rfl
  · rw [hspawn, if_pos rfl]
    exact hhistory

theorem launchedIn_append (front rest : List Milestone) :
    launchedIn (front ++ rest) = launchedIn front ++ launchedIn rest := List.filterMap_append

theorem launchedIn_ending {m : Milestone} {g g' : Nat} (hm : m.ended? = some g') :
    launchedIn [.stopping g, m] = [] := by
  cases m <;> first | rfl | cases hm

theorem launched_start (t : ProcessTransport) (now : Nat) :
    launchedIn (t.start now).1.history = launchedIn t.history ++
      if t.pid = none ∧ (t.start now).2.failure = none then [t.generation + 1] else [] := by
  unfold ProcessTransport.start
  split
  · next hstate =>
    have hpid : t.pid = none := by simp only [pid, hstate]
    dsimp only
    rw [history_spawn, launchedIn_append]
    by_cases hfailure : (t.spawn now).2 = none
    · rw [if_pos hfailure, if_pos ⟨hpid, hfailure⟩]
      rfl
    · rw [if_neg hfailure, if_neg fun h => hfailure h.2]
      rfl
  · next p hstate =>
    have hpid : t.pid ≠ none := by simp [pid, hstate]
    rw [if_neg fun h => hpid h.1, List.append_nil]
    split <;> rfl
  · have hrefused : (Reaction.refusal (.closed stoppedReason)).failure ≠ none := nofun
    rw [if_neg fun h => hrefused h.2, List.append_nil]

theorem Owned.history_ends (h : t.Owned) (h' : t.Ends t') : ∃ ending,
    t'.history = t.history ++ ending ∧ (∀ m ∈ ending, m ≠ .spawning) ∧ launchedIn ending = [] ∧
      unendedIn (t.history ++ ending) = [] := by
  have hunended : unendedIn t'.history = [] := by
    rw [(h.ends h').unended_eq, pid_eq_held, h'.held, Option.map_none, Option.toList_none]
  cases hheld : t.held with
  | none =>
    have hidle := h'.idle hheld
    refine ⟨[], by rw [hidle, List.append_nil], by simp, rfl, ?_⟩
    rw [List.append_nil, ← hidle]
    exact hunended
  | some process =>
    obtain ⟨m, child', hm, hhistory, -⟩ := h'.busy process.1 process.2 hheld
    refine ⟨_, hhistory, fun m' hm' => ?_, launchedIn_ending hm, hhistory ▸ hunended⟩
    rw [List.mem_cons, List.mem_singleton] at hm'
    rcases hm' with rfl | rfl
    · nofun
    · rintro rfl
      cases hm

theorem Owned.send_unlaunched (h : t.Owned) (now : Nat) (line : String) :
    (t.send now line).2.failure = some .notStarted ↔ t.generation = 0 := by
  cases hstate : t.state with
  | running p =>
    have hpos := h.generation_pos (held_of_running hstate)
    rw [h.send_of_running hstate]
    split <;> simp [Reaction.refusal, Reaction.silent] <;> omega
  | notStarted | stopped =>
    rw [h.send_of_idle (by simp [ProcessTransport.held, hstate])]
    split <;> simp_all [Reaction.refusal, inputClosed]

/-- A transport takes care of its processes, and of what is done with it at an instant. -/
structure TakesCare (t : ProcessTransport) (now : Nat) : Prop where
  /-- At no moment of the history is there more than one process that was not ended. -/
  one_at_most : ∀ front, front <+: t.history → (unendedIn front).length ≤ 1
  /-- Whenever a launch is tried, all processes were ended. -/
  ended_first : ∀ front, front ++ [.spawning] <+: t.history → unendedIn front = []
  /-- Between operations the process that was not ended is the one that runs. -/
  unended : unendedIn t.history = t.pid.toList
  writer : t.writer = t.pid
  /-- The generation counts the launches, which number the processes. -/
  launched : launchedIn t.history = List.range' 1 t.generation
  /-- The process that runs is the latest one, and nobody has told it to end. -/
  latest : ∀ p, t.state = .running p → p.generation = t.generation ∧ p.child.IsFree
  /-- A start launches a process if none runs and it does not fail. -/
  start : launchedIn (t.start now).1.history = launchedIn t.history ++
    if t.pid = none ∧ (t.start now).2.failure = none then [t.generation + 1] else []
  /-- A restart ends the process that runs, then tries to launch one, and does unless it fails. -/
  restart : ∃ ending, (∀ m ∈ ending, m ≠ .spawning) ∧ unendedIn (t.history ++ ending) = [] ∧
    (t.restart now).1.history = t.history ++ ending ++ .spawning ::
      if (t.restart now).2.failure = none then [.spawned (t.generation + 1)] else []
  /-- A line cannot be sent if no process was ever launched. -/
  send_unlaunched : ∀ line,
    (t.send now line).2.failure = some .notStarted ↔ launchedIn t.history = []
  /-- Nor if one was launched and none runs. -/
  send_idle : ∀ line, launchedIn t.history ≠ [] → t.pid = none →
    t.send now line = (t, .refusal inputClosed)
  /-- Else it is written to the process that runs, if that still reads, and to nothing else. -/
  send_running : ∀ line p, t.state = .running p → t.send now line =
    if (p.child.observe now).isDeaf now then (t, .refusal (.write .brokenPipe))
    else ({ t with state := .running (p.stimulate (·.write now (encodeText line ++ [newline]))) },
      .silent)
  /-- A transport that was closed or given up has no process, and the one that it had was ended. -/
  closed : ∀ t', t' = (t.close now).1 ∨ t' = t.giveUp now →
    t'.pid = none ∧ t'.writer = none ∧ launchedIn t'.history = launchedIn t.history ∧
      unendedIn t'.history = [] ∧
      ∀ g child, t.held = some (g, child) →
        ∃ child', t'.formerly = some child' ∧ child.EndsAs child'

end ProcessTransport

end Switchboard
