import Switchboard.Proofs.Client.Draining
import Switchboard.Proofs.Client.Origins

/-!
# The restart policy

While the table is closed, and the client is not, a dispatch has the peer replaced if the policy says
so, once. If another peer can be started the call is opened under the next id, otherwise it is
refused and the client is what it was. No other dispatch has the peer replaced
(`State.ObeysPolicy`).

A restart that was asked for closes the table first. If no other peer can be started then the calls
that were open were told so, the table stays closed, and all else is as before
(`State.FailsToRestart`), as long as no callback does anything with the client.
-/

namespace Switchboard.Client

open Switchboard.Json

variable {σ : Type} [Transport σ]

/-! ### Which clients were closed -/

theorem shut_iff_wasClosed {m : Machine σ} {past : List (Machine σ)} (run : Run (m :: past))
    (hm : ¬ m.isClosing) : m.state.shut = true ↔ WasClosed past := by
  have h := closing_of_run run
  have hpast : WasClosed (m :: past) ↔ WasClosed past := by rw [wasClosed_cons, or_iff_right hm]
  rw [← hpast]
  refine ⟨h.closed, fun hwas => ?_⟩
  cases hshut : m.state.shut with
  | true => rfl
  | false => exact absurd (h.opened hshut hwas) hm

theorem restarting_of_single {s : State σ} {t : Task} {past : List (Machine σ)}
    (run : Run (⟨s, [t]⟩ :: past)) (ht : t.isFree = true) : s.restarting = false := by
  cases hlock : s.restarting with
  | false => rfl
  | true =>
    obtain ⟨front, rest, hagenda, -⟩ := (Held.isInvariant.holds run).front hlock
    have hmem : Task.unlock ∈ [t] := by
      rw [show [t] = front ++ .unlock :: rest from hagenda]
      simp
    rw [← List.mem_singleton.mp hmem] at ht
    cases ht

namespace State

variable {s s₁ s' : State (Logged σ)}

/-! ### Telling callbacks that leave the client alone -/

def marksOf (entries : List Entry) (o : Outcome) : Journal :=
  entries.reverse.flatMap fun e => e.marks o

def deliverAll (entries : List Entry) (o : Outcome) (mailboxes : List Mailbox) : List Mailbox :=
  entries.foldl (fun mailboxes e => e.deliver o mailboxes) mailboxes

theorem reaches_of_told (entries : List Entry) (o : Outcome) (rest : List Task)
    (idle : ∀ e ∈ entries, e.callback.actions = [])
    (held : ∀ e ∈ entries, e.callback.isOwner = true →
      entries.countP (·.callback.isOwner) < s.owners) :
    (Machine.mk s (entries.map (fun e => .complete e.id e.callback o) ++ rest)).Reaches
      ⟨{ s with
          mailboxes := deliverAll entries o s.mailboxes
          owners := s.owners - entries.countP (·.callback.isOwner)
          journal := marksOf entries o ++ s.journal }, rest⟩ := by
  induction entries generalizing s with
  | nil => exact .refl _
  | cons e entries ih =>
    have hfirst : e.callback.isOwner = true → 1 < s.owners := by
      intro howner
      have hlt := held e List.mem_cons_self howner
      rw [List.countP_cons, if_pos howner] at hlt
      omega
    have howners : (if e.callback.isOwner then s.owners - 1 else s.owners) -
        entries.countP (·.callback.isOwner) =
          s.owners - (e :: entries).countP (·.callback.isOwner) := by
      rw [List.countP_cons]
      split <;> omega
    have hmarks : marksOf entries o ++ (e.marks o ++ s.journal) =
        marksOf (e :: entries) o ++ s.journal := by simp [marksOf]
    obtain ⟨n, hn⟩ := State.run_complete (idle e List.mem_cons_self) hfirst o
      (entries.map (fun e => .complete e.id e.callback o) ++ rest)
    have hrest := ih (s := { s with
        mailboxes := e.deliver o s.mailboxes
        owners := if e.callback.isOwner then s.owners - 1 else s.owners
        journal := e.marks o ++ s.journal })
      (fun e' he' => idle e' (List.mem_cons_of_mem e he')) fun e' he' howner => by
        have hlt := held e' (List.mem_cons_of_mem e he') howner
        rw [List.countP_cons] at hlt
        simp only
        by_cases howns : e.callback.isOwner = true
        · rw [if_pos howns] at hlt ⊢
          omega
        · rw [if_neg howns, Nat.add_zero] at hlt
          rwa [if_neg howns]
    simp only [howners, hmarks] at hrest
    exact Machine.Reaches.trans ⟨n, hn⟩ hrest

/-! ### A restart that fails -/

omit [Transport σ] in
theorem told_closeTable (s : State (Logged σ)) (reason : String) :
    (s.closeTable reason).1.journal.told = s.journal.told ∧
      (s.closeTable reason).1.journal.registrations = s.journal.registrations := by
  unfold closeTable
  simp only
  split
  · exact ⟨rfl, rfl⟩
  · exact ⟨rfl, rfl⟩

omit [Transport σ] in
theorem told_marksOf (entries : List Entry) (o : Outcome) (j : Journal) :
    Journal.told (marksOf entries o ++ j) = marksOf entries o ++ j.told ∧
      Journal.registrations (marksOf entries o ++ j) = j.registrations := by
  have hall : ∀ m ∈ marksOf entries o, m.isTold = true := by
    intro m hm
    obtain ⟨e, -, hm⟩ := List.mem_flatMap.mp hm
    rw [← Entry.told_marks] at hm
    exact (List.mem_filter.mp hm).2
  constructor
  · rw [Journal.told_append, Journal.told, List.filter_eq_self.mpr hall]
  · rw [Journal.registrations, List.filterMap_append, List.filterMap_eq_nil_iff.mpr]
    · rfl
    · intro m hm
      have htold := hall m hm
      cases m <;> first | rfl | cases htold

def drainedTable (s : State (Logged σ)) : Table :=
  { s.table with entries := [], closed := s.table.closed.or (some "generator restarting") }

theorem reaches_of_drain (hopen : s.shut = false) (hfree : s.restarting = false)
    (quiet : s.LeftAlone) (rest : List Task) :
    ∃ s', (Machine.mk s (.restart :: rest)).Reaches ⟨s', .launch :: .unlock :: rest⟩ ∧
      s' = { s with
        restarting := true
        table := s.drainedTable
        mailboxes := deliverAll s.table.entries replaced s.mailboxes
        owners := s.owners - s.table.owners
        journal := s'.journal } ∧
      s'.journal.told = marksOf s.table.entries replaced ++ s.journal.told ∧
      s'.journal.registrations = s.journal.registrations := by
  obtain ⟨s₁, hs₁⟩ : ∃ s₁, s₁ = { s with restarting := true }.trace .info
    "restarting generator" [] := ⟨_, rfl⟩
  have hrestart : s.step .restart = some ({ s with restarting := true }, [.replace, .unlock]) := by
    simp [step, restart, hfree]
  have hreplace : State.step { s with restarting := true } .replace =
      some ((s₁.closeTable "generator restarting").1,
        (s₁.closeTable "generator restarting").2 ++ [.launch]) := by
    simp [step, replace, hopen, hs₁]
  obtain ⟨marks, -, hclose⟩ := s₁.closeTable_spec "generator restarting"
  have hnews := s₁.told_closeTable "generator restarting"
  rw [hclose] at hreplace hnews
  have htold := reaches_of_told (s := { s₁ with
      table := (s₁.table.close "generator restarting").2
      journal := marks ++ s₁.journal })
    s.table.entries replaced (.launch :: .unlock :: rest) quiet.idle
    (by rw [hs₁]; exact quiet.held)
  have hmarks := told_marksOf s.table.entries replaced (marks ++ s₁.journal)
  have hentries : s₁.table.entries = s.table.entries := by rw [hs₁]; rfl
  refine ⟨{ s₁ with
      table := (s₁.table.close "generator restarting").2
      mailboxes := deliverAll s.table.entries replaced s₁.mailboxes
      owners := s₁.owners - s.table.entries.countP (·.callback.isOwner)
      journal := marksOf s.table.entries replaced ++ (marks ++ s₁.journal) },
    (Machine.Reaches.of_step hrestart rest).trans
      ((Machine.Reaches.of_step hreplace _).trans ?_), ?_, ?_, ?_⟩
  · rw [hentries]
    simpa [replaced] using htold
  · rw [hs₁]
    rfl
  · rw [hmarks.1, hnews.1, hs₁]
    rfl
  · rw [hmarks.2, hnews.2, hs₁]
    rfl

/-- What a client comes to that was to have its peer replaced, if no other could be started. -/
structure FailsToRestart (s : State (Logged σ)) (failure : TransportFailure)
    (s' : State (Logged σ)) : Prop where
  rest : s' = { s with
    transport := s'.transport
    table := s.drainedTable
    tally := s'.tally
    mailboxes := deliverAll s.table.entries replaced s.mailboxes
    owners := s.owners - s.table.owners
    clock := s'.clock
    reply := .refused (.transport failure)
    journal := s'.journal }
  used : s'.transport.uses = s.transport.uses ++ [.restarted]
  /-- The callbacks of the calls that were open were told so, and no others were told anything. -/
  told : s'.journal.told = marksOf s.table.entries replaced ++ s.journal.told
  registered : s'.journal.registrations = s.journal.registrations

theorem reaches_of_failed_restart (hopen : s.shut = false) (hfree : s.restarting = false)
    (quiet : s.LeftAlone) {failure : TransportFailure}
    (hfailure : (Transport.restart s.transport s.clock).2.failure = some failure)
    (rest : List Task) :
    ∃ s', (Machine.mk s (.restart :: rest)).Reaches ⟨s', rest⟩ ∧ s.FailsToRestart failure s' := by
  obtain ⟨s₁, hdrain, hs₁, htold, hregistered⟩ := reaches_of_drain hopen hfree quiet rest
  obtain ⟨s₂, hlaunch, hpasses⟩ := reaches_of_launch (s := s₁)
    (by rw [hs₁]; simp [drainedTable]) (by rw [hs₁]; rfl) (.unlock :: rest)
  have hfails : (Transport.restart s₁.transport s₁.clock).2.failure = some failure := by
    rw [hs₁]
    exact hfailure
  rw [hfails] at hlaunch
  refine ⟨_, hdrain.trans (hlaunch.trans (reaches_of_failed_reopen s₂ failure rest)), ?_, ?_,
    hpasses.told.trans htold, hpasses.registered.trans hregistered⟩
  · rw [hpasses.rest, hs₁]
    simp [← hfree]
  · rw [hs₁] at hpasses
    exact hpasses.used

omit [Transport σ] in
/-- Each of the callbacks was told. -/
theorem FailsToRestart.completed {failure : TransportFailure} (h : s.FailsToRestart failure s')
    {e : Entry} (he : e ∈ s.table.entries) : .completed e.id replaced ∈ s'.journal := by
  have hmark : .completed e.id replaced ∈ e.marks replaced := by
    unfold Entry.marks
    split <;> simp
  have htold : .completed e.id replaced ∈ s'.journal.told := by
    rw [h.told]
    exact List.mem_append_left _ (List.mem_flatMap.mpr ⟨e, List.mem_reverse.mpr he, hmark⟩)
  exact List.mem_of_mem_filter htold

/-! ### Dispatches -/

omit [Transport σ] in
theorem transport_settle (s : State (Logged σ)) (id : Int) (method : String)
    (failure : Option TransportFailure) : (s.settle id method failure).1.transport = s.transport := by
  cases failure with
  | none => rfl
  | some failure =>
    simp only [settle]
    split <;> simp [refuse]

/-- What comes of a dispatch as far as the line of its call is sent, in a client that was closed or
not. What is left to do then is to deal with what arrived meanwhile, callbacks included, and to take
note of how the line was taken. -/
structure ObeysPolicy (s : State (Logged σ)) (ended : Prop) (method : String) (params : Value)
    (callback : Callback) (rest : List Task) : Prop where
  /-- While the table is open the call is sent, and the peer is not replaced. -/
  opens : s.table.closed = none → ∃ (s' : State (Logged σ)) (arrivals : List Arrival)
      (failure : Option TransportFailure),
    (Machine.mk s (.dispatch method params callback :: rest)).Reaches
      ⟨s', arrivals.map .arrive ++ .settle s.table.nextId method failure :: rest⟩ ∧
    s.Opens s.clock method params callback [] s'
  /-- Under the manual policy, and after the client was closed, all that comes of it is the refusal.
  -/
  refuses : ∀ reason, s.table.closed = some reason → ended ∨ s.options.restart = .manual →
    (Machine.mk s (.dispatch method params callback :: rest)).Reaches
      ⟨s.answer (.refused (.closed reason)), rest⟩
  /-- Otherwise the peer is replaced once. If that fails the call is refused for that reason. -/
  fails : s.table.closed ≠ none → ¬ ended → s.options.restart = .onDemand → s.restarting = false →
    ∀ failure, (Transport.restart s.transport s.clock).2.failure = some failure →
    ∃ s', (Machine.mk s (.dispatch method params callback :: rest)).Reaches ⟨s', rest⟩ ∧
      s.Passes [.restarted] s' ∧ s'.reply = .refused (.transport failure)
  /-- If it does not fail the call is sent to the other peer. -/
  starts : s.table.closed ≠ none → ¬ ended → s.options.restart = .onDemand → s.restarting = false →
    (Transport.restart s.transport s.clock).2.failure = none →
    ∃ (s' : State (Logged σ)) (arrivals : List Arrival) (failure : Option TransportFailure),
      (Machine.mk s (.dispatch method params callback :: rest)).Reaches
        ⟨s', arrivals.map .arrive ++ .settle s.table.nextId method failure :: rest⟩ ∧
      s.Opens s.clock method params callback [.restarted] s'

theorem obeysPolicy {method : String} {params : Value} {callback : Callback} {rest : List Task}
    {past : List (Machine (Logged σ))}
    (run : Run (⟨s, .dispatch method params callback :: rest⟩ :: past)) :
    s.ObeysPolicy (WasClosed past) method params callback rest := by
  have hshut : s.shut = true ↔ WasClosed past :=
    shut_iff_wasClosed run (by simp [Machine.isClosing])
  have hempty : s.table.closed ≠ none → s.table.entries = [] :=
    (Replacement.isInvariant.holds run).empty
  have howners := owners_pos_of_dispatch run
  constructor
  · intro hopen
    exact reaches_of_open hopen method params callback rest
  · intro reason hclosed hpolicy
    exact reaches_of_closed hclosed (hpolicy.imp_left hshut.mpr) howners method params callback rest
  · intro hclosed hover hdemand hfree failure hfailure
    obtain ⟨reason, hreason⟩ := Option.ne_none_iff_exists'.mp hclosed
    exact reaches_of_failed_demand hreason (hempty hclosed)
      (Bool.eq_false_iff.mpr fun h => hover (hshut.mp h)) hdemand hfree howners hfailure method
      params callback rest
  · intro hclosed hover hdemand hfree hstarted
    obtain ⟨reason, hreason⟩ := Option.ne_none_iff_exists'.mp hclosed
    exact reaches_of_met_demand hreason (hempty hclosed)
      (Bool.eq_false_iff.mpr fun h => hover (hshut.mp h)) hdemand hfree hstarted method params
      callback rest

end State

def failingTwice : Logged ScriptedPeer where
  transport := ScriptedPeer.idle
    [none, some { lines := [], ended := none, failure := some .notStarted },
      some { lines := [], ended := none, failure := some (.closed "no peer") }] none
  uses := []

def callsAndRestart : List Task :=
  [slowCall [], .restart, .dispatch "early" .null .mailbox, .dispatch "late" .null .mailbox, .close]

def clientAmid (n : Nat) : State (Logged ScriptedPeer) :=
  (newClient { requestTimeout := none, restart := .onDemand } failingTwice).performEach
    (callsAndRestart.take n)

theorem run_clientAmid {n : Nat} (hn : n ∈ List.range 6) {t : Task}
    (ht : t.isOperation (clientAmid n) = true) : ∃ past, Run (⟨clientAmid n, [t]⟩ :: past) := by
  have connected : Run [⟨newClient { requestTimeout := none, restart := .onDemand } failingTwice,
      []⟩] :=
    .connected (show connect { requestTimeout := none, restart := .onDemand } failingTwice =
      .ok _ from rfl)
  have hcan : ∀ n ∈ List.range 6, (newClient { requestTimeout := none, restart := .onDemand }
      failingTwice).CanPerform (callsAndRestart.take n) := by decide +kernel
  obtain ⟨past, run⟩ := connected.performEach _ (hcan n hn)
  exact ⟨_, run.begun_now ht⟩

end Switchboard.Client
