import Switchboard.Transport.Process

/-!
# Who launches processes

A process transport has no process yet, one that was launched, or none any more (`Standing`). What
happens by itself and what is sent leave it at that, and so does the end of the process: only
`start`, `restart` and `close` decide about it, and what they have decided last can be read off what
was done (`standingAfter`). A process that was launched is replaced by `restart` alone, with one
exception: when `restart` has stopped it and then fails to launch another, the transport is left as
if none had ever been launched, so that the next `start` launches one.
-/

namespace Switchboard

/-! ### Looking at a process -/

theorem Child.search_eq_some {α : Type} {c : Child} {find : Observation → Option α}
    {n horizon reach : Nat} {a : α} (h : c.search find n horizon reach = some a) :
    ∃ o, find o = some a := by
  induction n generalizing horizon reach with
  | zero => cases h
  | succ n ih =>
    simp only [search] at h
    split at h
    · rename_i hfind
      exact ⟨_, hfind.trans h⟩
    · split at h
      · exact ih h
      · cases h

theorem Running.next?_eq_some {p p' : Running} {now : Nat} {sight : Sight}
    (h : p.next? now = some (sight, p')) : p'.generation = p.generation ∧ p'.child = p.child := by
  obtain ⟨o, ho⟩ : ∃ o, (p.reader.sight? o).map (fun s => (s, { p with view := some o })) =
      some (sight, p') := by
    rcases Option.or_eq_some_iff.mp h with h | ⟨-, h⟩
    · obtain ⟨o, -, ho⟩ := Option.bind_eq_some_iff.mp h
      exact ⟨o, ho⟩
    · exact Child.search_eq_some h
  obtain ⟨_, -, hp'⟩ := Option.map_eq_some_iff.mp ho
  cases hp'
  exact ⟨rfl, rfl⟩

theorem Running.read_spec (p : Running) (limit : Nat) (sight : Sight) :
    (p.read limit sight).1.generation = p.generation ∧ (p.read limit sight).1.child = p.child := by
  cases sight <;> exact ⟨rfl, rfl⟩

namespace ProcessTransport

/-! ### What was done -/

/-- Something that was done with a transport, and how it failed if it did. -/
inductive Deed where
  | start (failure : Option TransportFailure)
  | restart (failure : Option TransportFailure)
  | send (line : String)
  | close

/-- The transports that come of operations, at any instants, with what was done, the last first. In
between a transport goes on by itself. -/
inductive Lived (system : System) (config : ProcessConfig) :
    List Deed → ProcessTransport → Prop where
  | new : Lived system config [] (.new system config)
  | start {past : List Deed} {t : ProcessTransport} (h : Lived system config past t) (now : Nat) :
      Lived system config (.start (t.start now).2.failure :: past) (t.start now).1
  | restart {past : List Deed} {t : ProcessTransport} (h : Lived system config past t) (now : Nat) :
      Lived system config (.restart (t.restart now).2.failure :: past) (t.restart now).1
  | send {past : List Deed} {t : ProcessTransport} (h : Lived system config past t) (now : Nat)
      (line : String) : Lived system config (.send line :: past) (t.send now line).1
  | close {past : List Deed} {t : ProcessTransport} (h : Lived system config past t) (now : Nat) :
      Lived system config (.close :: past) (t.close now).1
  | next {past : List Deed} {t : ProcessTransport} (h : Lived system config past t) {now : Nat}
      {happening : Happening ProcessTransport} (hnext : t.next now = some happening) :
      Lived system config past happening.transport

def Deed.Succeeds (d : Deed) : Prop := d = .start none ∨ d = .restart none

/-- What a transport has of a process. A process that has ended is still one that was launched. -/
inductive Standing where
  | unlaunched
  | launched
  | closed
  deriving DecidableEq

def standing (t : ProcessTransport) : Standing :=
  match t.state with
  | .notStarted => .unlaunched
  | .running _ => .launched
  | .stopped => .closed

/-- What there is of a process after what was done, the last first. -/
def standingAfter : List Deed → Standing
  | [] => .unlaunched
  | .start none :: _ | .restart none :: _ => .launched
  | .restart (some _) :: _ => .unlaunched
  | .close :: _ => .closed
  | .start (some _) :: past | .send _ :: past => standingAfter past

/-- The latest restart could not launch another process, and nothing has come of what was done since:
no start and no restart has succeeded, and the transport was not closed. -/
def FailedToReplace (past : List Deed) : Prop :=
  ∃ since failure before, past = since ++ .restart (some failure) :: before ∧
    ∀ d ∈ since, (∃ line, d = .send line) ∨ ∃ reason, d = .start (some reason)

theorem FailedToReplace.standingAfter_eq {past : List Deed} (h : FailedToReplace past) :
    standingAfter past = .unlaunched := by
  obtain ⟨since, failure, before, rfl, hsince⟩ := h
  induction since with
  | nil => rfl
  | cons d since ih =>
    have hrest := ih fun d' hd' => hsince d' (List.mem_cons_of_mem d hd')
    obtain ⟨line, rfl⟩ | ⟨reason, rfl⟩ := hsince d List.mem_cons_self <;> exact hrest

theorem FailedToReplace.cons {past : List Deed} (h : FailedToReplace past) {d : Deed}
    (hd : (∃ line, d = .send line) ∨ ∃ reason, d = .start (some reason)) :
    FailedToReplace (d :: past) := by
  obtain ⟨since, failure, before, rfl, hsince⟩ := h
  exact ⟨d :: since, failure, before, rfl, List.forall_mem_cons.mpr ⟨hd, hsince⟩⟩

/-- Once a process was launched, there is none to be launched only if one could not be replaced. -/
theorem failedToReplace_of_unlaunched {past : List Deed} (launched : ∃ d ∈ past, d.Succeeds)
    (h : standingAfter past = .unlaunched) : FailedToReplace past := by
  induction past with
  | nil => simp at launched
  | cons d past ih =>
    have hpast (hidle : ¬ d.Succeeds) : ∃ d ∈ past, d.Succeeds := by
      simpa [hidle] using launched
    match d, h with
    | .restart (some failure), _ => exact ⟨[], failure, past, rfl, by simp⟩
    | .start (some reason), h =>
      exact (ih (hpast (by simp [Deed.Succeeds])) h).cons (.inr ⟨reason, rfl⟩)
    | .send line, h => exact (ih (hpast (by simp [Deed.Succeeds])) h).cons (.inl ⟨line, rfl⟩)

/-! ### What leaves the process as it is -/

/-- Nothing is spawned, nor is it tried. -/
structure Spares (t t' : ProcessTransport) : Prop where
  system : t'.system = t.system
  config : t'.config = t.config
  attempts : t'.attempts = t.attempts
  generation : t'.generation = t.generation

theorem Spares.trans {t t' t'' : ProcessTransport} (h : t.Spares t') (h' : t'.Spares t'') :
    t.Spares t'' :=
  ⟨h'.system.trans h.system, h'.config.trans h.config, h'.attempts.trans h.attempts,
    h'.generation.trans h.generation⟩

variable {t : ProcessTransport} {now limit : Nat}

theorem standing_eq_unlaunched : t.standing = .unlaunched ↔ t.state = .notStarted := by
  unfold standing
  split <;> simp [*]

theorem standing_eq_closed : t.standing = .closed ↔ t.state = .stopped := by
  unfold standing
  split <;> simp [*]

theorem standing_eq_launched : t.standing = .launched ↔ ∃ p, t.state = .running p := by
  unfold standing
  split <;> simp [*]

theorem next_cases {happening : Happening ProcessTransport} (h : t.next now = some happening) :
    (∃ p p' exitStatus, t.state = .running p ∧ p'.generation = p.generation ∧ p'.child = p.child ∧
      happening.transport = { t with state := .running p', exitStatus }) ∨
    (∃ p p', t.retired = some p ∧ p'.child = p.child ∧
      happening.transport = { t with retired := some p' }) := by
  simp only [next] at h
  split at h
  · rename_i p hstate
    simp only [nextRunning, Option.map_eq_some_iff] at h
    obtain ⟨⟨sight, p'⟩, hnext, rfl⟩ := h
    obtain ⟨hgeneration, hchild⟩ := Running.next?_eq_some hnext
    obtain ⟨hgeneration', hchild'⟩ := p'.read_spec t.config.maxLineBytes sight
    refine .inl ⟨p, (p'.read t.config.maxLineBytes sight).1, ?_⟩
    cases sight with
    | piece =>
      exact ⟨_, hstate, hgeneration'.trans hgeneration, hchild'.trans hchild, rfl⟩
    | ending instant =>
      dsimp only
      split <;> exact ⟨_, hstate, hgeneration'.trans hgeneration, hchild'.trans hchild, rfl⟩
  · rename_i p hretired _
    simp only [nextRetired, Option.map_eq_some_iff] at h
    obtain ⟨⟨sight, p'⟩, hnext, rfl⟩ := h
    exact .inr ⟨p, _, hretired, (p'.read_spec _ sight).2.trans (Running.next?_eq_some hnext).2, rfl⟩
  · cases h

theorem spares_next {happening : Happening ProcessTransport} (h : t.next now = some happening) :
    t.Spares happening.transport ∧ happening.transport.standing = t.standing := by
  obtain ⟨p, p', _, hstate, -, -, heq⟩ | ⟨p, p', -, -, heq⟩ := next_cases h
  · rw [heq]
    exact ⟨⟨rfl, rfl, rfl, rfl⟩, by simp [standing, hstate]⟩
  · rw [heq]
    exact ⟨⟨rfl, rfl, rfl, rfl⟩, rfl⟩

theorem spares_drain (n : Nat) :
    t.Spares (t.drain now limit n).1 ∧ (t.drain now limit n).1.standing = t.standing := by
  induction n generalizing t with
  | zero => exact ⟨⟨rfl, rfl, rfl, rfl⟩, rfl⟩
  | succ n ih =>
    unfold drain
    split
    · exact ⟨⟨rfl, rfl, rfl, rfl⟩, rfl⟩
    · rename_i happening hnext
      split
      · have hfirst := spares_next hnext
        have hrest := ih (t := happening.transport)
        exact ⟨hfirst.1.trans hrest.1, hrest.2.trans hfirst.2⟩
      · exact ⟨⟨rfl, rfl, rfl, rfl⟩, rfl⟩

theorem Spares.drain {t t' : ProcessTransport} (h : t.Spares t') (now limit n : Nat)
    (exitStatus : Option ExitStatus) :
    t.Spares { (t'.drain now limit n).1 with exitStatus } := by
  obtain ⟨system, config, attempts, generation⟩ :=
    h.trans (spares_drain n).1
  exact ⟨system, config, attempts, generation⟩

theorem spares_shutdown (left : ProcessState) :
    t.Spares (t.shutdown now left).1 ∧
      (t.shutdown now left).1.standing = standing { t with state := left } := by
  obtain ⟨⟨system, config, attempts, generation⟩, -⟩ : Spares _ (drain _ now now patience).1 ∧ _ :=
    spares_drain (t := { t with writer := none }) patience
  unfold shutdown
  dsimp only
  split
  · split
    · exact ⟨⟨system, config, attempts, generation⟩, rfl⟩
    · refine ⟨Spares.drain ?_ .., (spares_drain patience).2⟩
      exact ⟨system, config, attempts, generation⟩
  · exact ⟨⟨system, config, attempts, generation⟩, rfl⟩

theorem spares_send (line : String) :
    t.Spares (t.send now line).1 ∧ (t.send now line).1.standing = t.standing := by
  unfold send
  split
  · rename_i hstate
    split
    · exact ⟨⟨rfl, rfl, rfl, rfl⟩, rfl⟩
    · split
      · exact ⟨⟨rfl, rfl, rfl, rfl⟩, rfl⟩
      · exact ⟨⟨rfl, rfl, rfl, rfl⟩, by simp [standing, hstate]⟩
  · split <;> exact ⟨⟨rfl, rfl, rfl, rfl⟩, rfl⟩

/-! ### Spawning -/

/-- It was tried once to spawn a process, given what the ones before have left behind: that failed,
and there is none, or there is a new one. -/
structure Tries (t : ProcessTransport) (remnants : Remnants) (t' : ProcessTransport)
    (failure : Option TransportFailure) : Prop where
  system : t'.system = t.system
  config : t'.config = t.config
  attempts : t'.attempts = t.attempts + 1
  fails : ∀ e, t.system (t.attempts + 1) remnants t.config = .error e →
    failure = some (launchFailure t.config.commandLine e) ∧ t'.generation = t.generation ∧
      t'.standing = .unlaunched
  launches : ∀ behaviour, t.system (t.attempts + 1) remnants t.config = .ok behaviour →
    failure = none ∧ t'.generation = t.generation + 1 ∧ t'.standing = .launched ∧
      ∃ p, t'.state = .running p ∧ p.generation = t'.generation ∧ p.child.behaviour = behaviour

theorem Spares.tries {t t' t'' : ProcessTransport} {remnants : Remnants}
    {failure : Option TransportFailure} (h : t.Spares t') (htries : t'.Tries remnants t'' failure) :
    t.Tries remnants t'' failure := by
  obtain ⟨system, config, attempts, fails, launches⟩ := htries
  rw [h.system, h.config, h.attempts, h.generation] at *
  exact ⟨system, config, attempts, fails, launches⟩

theorem Tries.standing_eq {t' : ProcessTransport} {remnants : Remnants}
    {failure : Option TransportFailure} (h : t.Tries remnants t' failure) :
    t'.standing = if failure = none then .launched else .unlaunched := by
  cases hsystem : t.system (t.attempts + 1) remnants t.config with
  | error e =>
    obtain ⟨rfl, -, hstanding⟩ := h.fails e hsystem
    simpa using hstanding
  | ok behaviour =>
    obtain ⟨rfl, -, hstanding, -⟩ := h.launches behaviour hsystem
    simpa using hstanding

theorem tries_spawn (h : t.standing = .unlaunched) :
    t.Tries (t.remnants now) (t.spawn now).1 (t.spawn now).2 := by
  have hstate := standing_eq_unlaunched.mp h
  unfold spawn
  dsimp only [record, remnants]
  split
  · rename_i e hsystem
    refine ⟨rfl, rfl, rfl, fun e' h' => ?_, fun behaviour h' => ?_⟩
    · cases hsystem.symm.trans h'
      exact ⟨rfl, rfl, h⟩
    · cases hsystem.symm.trans h'
  · rename_i behaviour hsystem
    refine ⟨rfl, rfl, rfl, fun e h' => ?_, fun behaviour' h' => ?_⟩
    · cases hsystem.symm.trans h'
    · cases hsystem.symm.trans h'
      exact ⟨rfl, rfl, rfl, _, rfl, rfl, rfl⟩

theorem tries_start (h : t.standing = .unlaunched) :
    t.Tries (t.remnants now) (t.start now).1 (t.start now).2.failure := by
  simp only [start, standing_eq_unlaunched.mp h]
  exact tries_spawn h

theorem tries_restart (t : ProcessTransport) (now : Nat) :
    ∃ remnants, t.Tries remnants (t.restart now).1 (t.restart now).2.failure := by
  obtain ⟨hspares, hstanding⟩ : t.Spares (t.shutdown now .notStarted).1 ∧ _ := spares_shutdown _
  exact ⟨_, hspares.tries (tries_spawn hstanding)⟩

/-! ### Starting when there was a process -/

theorem start_of_isRunning (h : t.isRunning now = true) : t.start now = (t, .silent) := by
  unfold isRunning at h
  unfold start
  split at h
  · rename_i p hstate
    rw [Option.isNone_iff_eq_none] at h
    simp only [hstate, h]
  · cases h

theorem start_of_closed (h : t.standing = .closed) :
    t.start now = (t, .refusal (.closed stoppedReason)) := by
  simp only [start, standing_eq_closed.mp h]

theorem start_of_ended (h : t.standing = .launched) (hended : t.isRunning now = false) :
    ∃ status, t.start now = (t, .refusal (.closed (exitedReason status))) := by
  obtain ⟨p, hstate⟩ := standing_eq_launched.mp h
  simp only [isRunning, hstate, Option.isNone_eq_false_iff, Option.isSome_iff_exists] at hended
  obtain ⟨status, hstatus⟩ := hended
  exact ⟨status, by simp only [start, hstate, hstatus]⟩

/-- What there is of a process was decided by what was done. -/
theorem Lived.standing_eq {system : System} {config : ProcessConfig} {past : List Deed}
    (h : Lived system config past t) : t.standing = standingAfter past := by
  induction h with
  | new => rfl
  | @start past t _ now ih =>
    -- A start decides only if there was nothing launched or closed before.
    cases hstanding : t.standing with
    | unlaunched =>
      rw [(tries_start hstanding).standing_eq]
      cases (t.start now).2.failure with
      | none => simp [standingAfter]
      | some _ => simpa [standingAfter] using hstanding.symm.trans ih
    | closed => rw [start_of_closed hstanding]; exact ih
    | launched =>
      cases hrunning : t.isRunning now with
      | true => rw [start_of_isRunning hrunning]; exact hstanding
      | false =>
        obtain ⟨status, hstart⟩ := start_of_ended hstanding hrunning
        rw [hstart]
        exact ih
  | @restart past t _ now _ =>
    obtain ⟨_, htries⟩ := tries_restart t now
    rw [htries.standing_eq]
    cases (t.restart now).2.failure <;> simp [standingAfter]
  | send _ now line ih => exact (spares_send line).2.trans ih
  | close => exact (spares_shutdown .stopped).2
  | next _ hnext ih => exact (spares_next hnext).2.trans ih

/-- **A process that was launched is replaced by `restart` alone, unless `restart` has failed to do
so.** Whatever was done since a process was launched: `start` has no effect as long as the process
runs. When it has ended or was closed, `start` says so and has no effect either. But when the latest
restart could not launch another process, and nothing has come of what was done since, `start` tries
to spawn one. Each restart tries to, and nothing else does. -/
theorem replaced_by_restart_unless_it_failed {system : System} {config : ProcessConfig}
    {past : List Deed} (lived : Lived system config past t) (launched : ∃ d ∈ past, d.Succeeds)
    (now : Nat) :
    (t.isRunning now = true → t.start now = (t, .silent)) ∧
    (t.isRunning now = false → ¬ FailedToReplace past → ∃ reason,
      (reason = stoppedReason ∨ ∃ status, reason = exitedReason status) ∧
        t.start now = (t, .refusal (.closed reason))) ∧
    (FailedToReplace past → t.isRunning now = false ∧
      t.Tries (t.remnants now) (t.start now).1 (t.start now).2.failure) ∧
    (∃ remnants, t.Tries remnants (t.restart now).1 (t.restart now).2.failure) ∧
    t.Spares (t.close now).1 ∧
    (∀ line, t.Spares (t.send now line).1) ∧
    ∀ happening, t.next now = some happening → t.Spares happening.transport := by
  refine ⟨start_of_isRunning, fun hended hreplaced => ?_, fun hfailed => ?_, tries_restart t now,
    (spares_shutdown .stopped).1, fun line => (spares_send line).1,
    fun _ hnext => (spares_next hnext).1⟩
  · cases hstanding : t.standing with
    | unlaunched =>
      -- A process was launched, so it was a restart that has left none.
      exact absurd (failedToReplace_of_unlaunched launched (lived.standing_eq.symm.trans hstanding))
        hreplaced
    | closed => exact ⟨_, .inl rfl, start_of_closed hstanding⟩
    | launched =>
      obtain ⟨status, hstart⟩ := start_of_ended hstanding hended
      exact ⟨_, .inr ⟨status, rfl⟩, hstart⟩
  · have hstanding := lived.standing_eq.trans hfailed.standingAfter_eq
    refine ⟨?_, tries_start hstanding⟩
    simp only [isRunning, standing_eq_unlaunched.mp hstanding]

def untilSignalled : Behaviour := fun _ stimuli _ =>
  let ended := stimuli.signals.head?.map Prod.fst
  { output := [], outputEnd := ended, inputEnd := ended, wake := none, remnants := []
    exit := stimuli.signals.head?.map fun (t, s) => (t, .signal s) }

def missingOnce : System := fun attempt _ _ =>
  if attempt = 2 then .error .notFound else .ok untilSignalled

/-- The restart stops the process and launches no other; the start after it launches one. -/
theorem start_replaces_after_failed_restart :
    ∃ past t, Lived missingOnce .default past t ∧ (∃ d ∈ past, d.Succeeds) ∧
      FailedToReplace past ∧ t.generation = 1 ∧ t.isRunning 0 = false ∧
      (t.start 0).2.failure = none ∧ (t.start 0).1.generation = 2 := by
  have lived₁ := (Lived.new : Lived missingOnce .default [] _).start 0
  have htries₁ : Tries _ _ (start (.new missingOnce .default) 0).1 _ := tries_start rfl
  obtain ⟨hlaunched, hgeneration₁, -⟩ := htries₁.launches untilSignalled rfl
  generalize start _ 0 = started at lived₁ htries₁ hlaunched hgeneration₁
  have lived₂ := lived₁.restart 0
  -- This is the second attempt, which does not find the program.
  obtain ⟨_, htries₂⟩ := tries_restart started.1 0
  obtain ⟨hfailed, hgeneration₂, -⟩ := htries₂.fails .notFound (by
    rw [htries₁.system, htries₁.config, htries₁.attempts]
    rfl)
  generalize restart _ 0 = restarted at lived₂ htries₂ hfailed hgeneration₂
  rw [hlaunched, hfailed] at lived₂
  generalize launchFailure _ _ = failure at lived₂
  have launched : ∃ d ∈ [Deed.restart (some failure), .start none], d.Succeeds :=
    ⟨.start none, by simp, .inl rfl⟩
  have hfailedToReplace : FailedToReplace [.restart (some failure), .start none] :=
    ⟨[], failure, [.start none], rfl, by simp⟩
  obtain ⟨hended, htries₃⟩ :=
    (replaced_by_restart_unless_it_failed lived₂ launched 0).2.2.1 hfailedToReplace
  obtain ⟨hreplaced, hgeneration₃, -⟩ := htries₃.launches untilSignalled (by
    rw [htries₂.system, htries₂.config, htries₂.attempts, htries₁.system, htries₁.config,
      htries₁.attempts]
    rfl)
  exact ⟨_, _, lived₂, launched, hfailedToReplace, hgeneration₂.trans hgeneration₁, hended, hreplaced,
    by rw [hgeneration₃, hgeneration₂, hgeneration₁]; rfl⟩

end ProcessTransport

end Switchboard
