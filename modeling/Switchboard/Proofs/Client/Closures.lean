import Switchboard.Proofs.Client.Run
import Switchboard.Transport.Scripted

/-!
# Why the table is closed

The table keeps the first reason for which it was closed since it was reopened, and its journal says
which one that is (`Journal.closure?`). `Noting` lists what a step does about this: the table is
closed for a reason, or reopened, or another peer is started. So a closed table stays closed for its
reason until it is reopened (`closed_onward`), and an end of the peer leaves the table closed
(`Recorded`).

The reopening looks at nothing: the reasons before it are forgotten, whichever peer they are about.
An end that is heard between the start of another peer and the reopening is forgotten with them
(`Journal.EndForgotten`), though nothing will come from that peer any more.
-/

namespace Switchboard.Client

open Switchboard.Json

/-! ### Reasons in a journal -/

@[simp] def Mark.isReopening : Mark → Bool
  | .reopened => true
  | _ => false

@[simp] def Mark.isLaunch : Mark → Bool
  | .relaunched => true
  | _ => false

@[simp] def Mark.reason? : Mark → Option String
  | .closing reason => some reason
  | _ => none

/-- Whether a mark says nothing about the table being closed or reopened, or about its peer. -/
@[simp] def Mark.isQuiet : Mark → Bool
  | .closing _ | .reopened | .relaunched | .arrived (.ended _) => false
  | _ => true

namespace Journal

/-- The marks since the latest one of a kind. -/
def since (kind : Mark → Bool) (j : Journal) : Journal := j.takeWhile (!kind ·)

abbrev sinceReopening (j : Journal) : Journal := j.since Mark.isReopening

abbrev sinceLaunch (j : Journal) : Journal := j.since Mark.isLaunch

def reasons (j : Journal) : List String := j.filterMap Mark.reason?

/-- The first reason for which the table was closed since it was reopened. -/
def closure? (j : Journal) : Option String := j.sinceReopening.reasons.getLast?

theorem since_cons_of_kind {kind : Mark → Bool} {m : Mark} (h : kind m = true) (j : Journal) :
    since kind (m :: j) = [] := List.takeWhile_cons_of_neg (by simp [h])

theorem since_cons {kind : Mark → Bool} {m : Mark} (h : kind m = false) (j : Journal) :
    since kind (m :: j) = m :: j.since kind := List.takeWhile_cons_of_pos (by simp [h])

/-- A journal to which only quiet marks were added. -/
inductive Quietly (j : Journal) : Journal → Prop where
  | refl : Quietly j j
  | note {m : Mark} {j' : Journal} (quiet : m.isQuiet = true) (h : Quietly j j') :
      Quietly j (m :: j')

theorem Quietly.report {j j' : Journal} (h : Quietly j j') (events : List Event) :
    Quietly j ((events.map Mark.traced).reverse ++ j') := by
  induction events generalizing j' with
  | nil => exact h
  | cons e events ih =>
    rw [List.map_cons, List.reverse_cons, List.append_assoc]
    exact ih (.note rfl h)

theorem Quietly.closure?_eq {j j' : Journal} (h : Quietly j j') : j'.closure? = j.closure? := by
  induction h with
  | refl => rfl
  | @note m j' quiet _ ih =>
    have hkind : m.isReopening = false := by cases m <;> simp_all
    have hreason : m.reason? = none := by cases m <;> simp_all
    rw [← ih, closure?, sinceReopening, since_cons hkind, reasons, List.filterMap_cons_none hreason]
    rfl

@[simp] theorem closure?_closing (reason : String) (j : Journal) :
    closure? (.closing reason :: j) = j.closure?.or (some reason) := by
  have hcons : reasons (.closing reason :: j.sinceReopening) =
      reason :: j.sinceReopening.reasons := rfl
  rw [closure?, sinceReopening, since_cons rfl, hcons, List.getLast?_cons]
  unfold closure?
  cases j.sinceReopening.reasons.getLast? <;> rfl

@[simp] theorem closure?_reopened (j : Journal) : closure? (.reopened :: j) = none := by
  rw [closure?, sinceReopening, since_cons_of_kind rfl]
  rfl

@[simp] theorem closure?_relaunched (j : Journal) : closure? (.relaunched :: j) = j.closure? := by
  rw [closure?, sinceReopening, since_cons rfl]
  rfl

@[simp] theorem closure?_arrived (a : Arrival) (j : Journal) :
    closure? (.arrived a :: j) = j.closure? := by
  rw [closure?, sinceReopening, since_cons rfl]
  rfl

/-- Whenever the end of a peer was heard since some mark, the table was closed since that mark. -/
def EndsClose (j : Journal) : Prop :=
  ∀ kind : Mark → Bool, (∀ reason, kind (.closing reason) = false) →
    ∀ reason, .arrived (.ended reason) ∈ j.since kind → ∃ reason', .closing reason' ∈ j.since kind

theorem EndsClose.note {j : Journal} (h : j.EndsClose) {m : Mark}
    (hm : ∀ reason, m ≠ .arrived (.ended reason)) : EndsClose (m :: j) := by
  intro kind hkind reason hmem
  cases hk : kind m with
  | true =>
    rw [since_cons_of_kind hk] at hmem
    cases hmem
  | false =>
    rw [since_cons hk] at hmem ⊢
    rcases List.mem_cons.mp hmem with heq | hmem
    · exact absurd heq.symm (hm reason)
    · obtain ⟨reason', hmem'⟩ := h kind hkind reason hmem
      exact ⟨reason', List.mem_cons_of_mem m hmem'⟩

theorem EndsClose.closing (reason : String) (j : Journal) : EndsClose (.closing reason :: j) := by
  intro kind hkind reason' _
  rw [since_cons (hkind reason)]
  exact ⟨reason, List.mem_cons_self⟩

theorem EndsClose.quietly {j j' : Journal} (h : j.EndsClose) (quietly : j.Quietly j') :
    j'.EndsClose := by
  induction quietly with
  | refl => exact h
  | @note m j' quiet _ ih =>
    refine ih.note ?_
    rintro reason rfl
    cases quiet

theorem closure?_eq_none_iff {j : Journal} :
    j.closure? = none ↔ ∀ reason, .closing reason ∉ j.sinceReopening := by
  rw [closure?, List.getLast?_eq_none_iff, reasons, List.filterMap_eq_nil_iff]
  constructor
  · intro h reason hmem
    cases h _ hmem
  · intro h m hm
    cases m with
    | closing reason => exact absurd hm (h reason)
    | _ => rfl

/-- The end of the peer that was started last was heard, but only before the table was reopened for
that peer, and the table was not closed since. -/
def EndForgotten (j : Journal) : Prop :=
  (∃ reason, .arrived (.ended reason) ∈ j.sinceLaunch) ∧ .reopened ∈ j.sinceLaunch ∧
    (∀ reason, .arrived (.ended reason) ∉ j.sinceReopening) ∧
    ∀ reason, .closing reason ∉ j.sinceReopening

theorem mem_sinceReopening {j : Journal} {kind : Mark → Bool} {m : Mark} (h : m ∈ j.since kind)
    (unopened : .reopened ∉ j.since kind) : m ∈ j.sinceReopening := by
  induction j with
  | nil => cases h
  | cons m' j ih =>
    cases hkind : kind m' with
    | true =>
      rw [since_cons_of_kind hkind] at h
      cases h
    | false =>
      rw [since_cons hkind] at h unopened
      have hquiet : m'.isReopening = false := by
        cases m' with
        | reopened => exact absurd List.mem_cons_self unopened
        | _ => rfl
      rw [sinceReopening, since_cons hquiet]
      rcases List.mem_cons.mp h with rfl | h
      · exact List.mem_cons_self
      · exact List.mem_cons_of_mem m' (ih h fun h' => unopened (List.mem_cons_of_mem m' h'))

/-- If the end of a peer is on record and the table is open, then the end was forgotten. -/
theorem EndsClose.endForgotten_iff {j : Journal} (h : j.EndsClose)
    (ended : ∃ reason, .arrived (.ended reason) ∈ j.sinceLaunch) :
    j.EndForgotten ↔ j.closure? = none := by
  rw [closure?_eq_none_iff]
  constructor
  · exact fun hforgotten => hforgotten.2.2.2
  · intro hopen
    refine ⟨ended, ?_, fun reason hmem => ?_, hopen⟩
    · by_contra hunopened
      obtain ⟨reason, hended⟩ := ended
      obtain ⟨reason', hclosing⟩ := h Mark.isLaunch (fun _ => rfl) reason hended
      exact hopen reason' (mem_sinceReopening hclosing hunopened)
    · obtain ⟨reason', hclosing⟩ := h Mark.isReopening (fun _ => rfl) reason hmem
      exact hopen reason' hclosing

end Journal

/-! ### What a step notes -/

variable {σ : Type}

/-- What a task does about the table being closed, with what the journal says of it. -/
inductive Noting (s : State σ) : Task → State σ → Prop where
  | aside {t : Task} {s' : State σ} (journal : s.journal.Quietly s'.journal)
      (closed : s'.table.closed = s.table.closed) : Noting s t s'
  | closed {t : Task} {reason : String} {s' : State σ} {j : Journal} (closes : Closes s t reason)
      (before : Journal.Quietly (t.arrivalMarks ++ s.journal) j)
      (after : Journal.Quietly (.closing reason :: j) s'.journal)
      (closed : s'.table.closed = s.table.closed.or (some reason)) : Noting s t s'
  | launched {s' : State σ} {j : Journal} (before : s.journal.Quietly j)
      (journal : s'.journal = .relaunched :: j) (closed : s'.table.closed = s.table.closed) :
      Noting s .launch s'
  | reopened {s' : State σ} (journal : s'.journal = .reopened :: s.journal)
      (closed : s'.table.closed = none) : Noting s (.reopen none) s'

namespace State

theorem noting_closeTable {s : State σ} {t : Task} {reason : String} (closes : Closes s t reason)
    {s₁ : State σ} (before : Journal.Quietly (t.arrivalMarks ++ s.journal) s₁.journal)
    (closed : s₁.table.closed = s.table.closed) :
    Noting s t (s₁.closeTable reason).1 := by
  by_cases h : s₁.table.entries.isEmpty = true
  · refine .closed closes before ?_ (by simp [closeTable, Table.close, h, closed])
    simp only [closeTable, Table.close, h]
    exact .refl
  · refine .closed closes before ?_ (by simp [closeTable, Table.close, h, closed])
    simp only [closeTable, Table.close, h]
    exact .note rfl .refl

theorem noting_dispatch {s s' : State σ} {method : String} {params : Value} {callback : Callback}
    {ts : List Task} (h : s.dispatch method params callback = some (s', ts)) :
    Noting s (.dispatch method params callback) s' := by
  obtain ⟨s₁, hs₁, hcases⟩ := dispatch_cases h
  have hsame : s₁.journal = s.journal ∧ s₁.table = s.table := by
    rcases hs₁ with rfl | rfl <;> exact ⟨rfl, rfl⟩
  rcases hcases with ⟨rfl, -⟩ | ⟨rfl, -⟩ | ⟨-, -, event, rfl⟩
  · exact .aside (hsame.1 ▸ .refl) (by rw [hsame.2])
  · exact .aside (hsame.1 ▸ .refl) (by rw [hsame.2])
  · exact .aside (hsame.1 ▸ .note rfl .refl) (by simp only [hsame.2])

theorem noting_register [Transport σ] (s : State σ) (begun : Nat) (method : String) (params : Value)
    (callback : Callback) :
    Noting s (.register begun method params callback)
      (s.register begun method params callback).1 := by
  unfold register
  split
  · exact .aside .refl rfl
  · rename_i id table hregister
    obtain ⟨-, -, rfl⟩ := Table.register_eq_ok hregister
    refine .aside ?_ ?_
    · cases callback <;> simp only [openMailbox, note, trace, report_eq]
      · exact .note rfl (.report (.note rfl (.note rfl .refl)) _)
      · exact .note rfl (.report (.note rfl (.note rfl .refl)) _)
    · cases callback <;> simp [openMailbox]

theorem noting_settle (s : State σ) (id : Int) (method : String)
    (failure : Option TransportFailure) :
    Noting s (.settle id method failure) (s.settle id method failure).1 := by
  unfold settle
  split
  · exact .aside (.note rfl .refl) rfl
  · simp only
    split
    · rename_i e table h
      obtain ⟨-, -, rfl⟩ := Table.take_eq_some h
      exact .aside (.note rfl (.note rfl .refl)) rfl
    · exact .aside (.note rfl (.note rfl .refl)) rfl

theorem noting_cancel (s : State σ) (id : Int) : Noting s (.cancel id) (s.cancel id).1 := by
  unfold cancel
  simp only
  split
  · rename_i e table h
    obtain ⟨-, -, rfl⟩ := Table.take_eq_some h
    exact .aside (.note rfl (.note rfl .refl)) rfl
  · exact .aside (.note rfl .refl) rfl

theorem noting_abandon (s : State σ) (id : Int) : Noting s (.abandon id) (s.abandon id).1 := by
  unfold abandon
  simp only
  split
  · rename_i e table h
    obtain ⟨-, -, rfl⟩ := Table.take_eq_some h
    exact .aside (.note rfl .refl) rfl
  · exact .aside (.note rfl .refl) rfl

theorem noting_expire (s : State σ) (id : Int) (deadline : Nat) :
    Noting s (.expire id deadline) (s.expire id deadline).1 := by
  unfold expire
  simp only
  split
  · rename_i e table h
    obtain ⟨-, -, rfl⟩ := Table.take_eq_some h
    exact .aside (.note rfl .refl) rfl
  · exact .aside (.note rfl .refl) rfl

theorem noting_arrive [Transport σ] (s : State σ) (a : Arrival) :
    Noting s (.arrive a) (s.arrive a).1 := by
  cases a with
  | line text =>
    rcases (s.note (.arrived (.line text))).receive_cases text with
      ⟨e, table, payload, event, -, htake, heq⟩ | ⟨tally, event, -, heq⟩
    · obtain ⟨-, -, rfl⟩ := Table.take_eq_some htake
      simp only [arrive, heq]
      exact .aside (.note rfl (.note rfl .refl)) rfl
    · simp only [arrive, heq]
      exact .aside (.note rfl (.note rfl .refl)) rfl
  | discarded length => exact .aside (.note rfl .refl) rfl
  | ended reason => exact noting_closeTable (.ended reason) .refl rfl

theorem noting_complete (s : State σ) (id : Int) (callback : Callback) (outcome : Outcome) :
    Noting s (.complete id callback outcome) (s.complete id callback outcome).1 := by
  cases callback with
  | mailbox => exact .aside (.note rfl .refl) rfl
  | script label actions owner => exact .aside (.note rfl .refl) rfl

theorem noting_script (s : State σ) (label : String) (outcome : Outcome) (actions : List Action)
    (replies : List Reply) (owner : Bool) :
    Noting s (.script label outcome actions replies owner)
      (s.script label outcome actions replies owner).1 := by
  unfold script
  split
  · split
    · exact .aside (.note rfl .refl) rfl
    · exact .aside .refl rfl
  · split
    · exact .aside .refl rfl
    · exact .aside (.note rfl .refl) rfl

theorem noting_replace (s : State σ) : Noting s .replace s.replace.1 := by
  unfold replace
  split
  · exact .aside .refl rfl
  · rename_i h
    exact noting_closeTable (.replace (by simpa using h)) (.note rfl .refl) rfl

theorem noting_close (s : State σ) : Noting s .close s.close.1 := by
  unfold close
  split
  · exact .aside .refl rfl
  · rename_i h
    have closes : Closes s .close clientClosed := .close (by simpa using h)
    obtain ⟨events, heq⟩ := stopWatching_spec ({ s with shut := true }.note .shut)
    rw [heq]
    exact noting_closeTable closes (.report (.note rfl .refl) _) rfl

theorem noting_await [Transport σ] (s : State σ) (id : Int) (limit : Option Nat) :
    Noting s (.await id limit) (s.await id limit).1 := by
  rcases s.await_cases id limit with
    ⟨transport, clock, tasks, -, -, heq⟩ | ⟨deadline, -, heq⟩
  · rw [heq]
    exact .aside .refl rfl
  · rw [heq]
    exact .aside .refl rfl

end State

/-- **Every step notes one of these.** -/
theorem noting_of_step [Transport σ] {s s' : State σ} {t : Task} {ts : List Task}
    (h : s.step t = some (s', ts)) : Noting s t s' := by
  have key : ∀ {result : State σ × List Task}, some result = some (s', ts) →
      Noting s t result.1 → Noting s t s' := by
    rintro _ ⟨⟩ hnoting
    exact hnoting
  cases t with
  | dispatch method params callback => exact State.noting_dispatch h
  | restart =>
    simp only [State.step, State.restart] at h
    split at h
    · cases h
    · exact key h (.aside .refl rfl)
  | proceed begun method params callback =>
    refine key h ?_
    unfold State.proceed
    split <;> exact .aside .refl rfl
  | register begun method params callback =>
    exact key h (s.noting_register begun method params callback)
  | settle id method failure => exact key h (s.noting_settle id method failure)
  | cancel id => exact key h (s.noting_cancel id)
  | replace => exact key h s.noting_replace
  | launch =>
    refine key h ?_
    simp only [State.launch, State.report_eq, State.note]
    exact .launched (.report .refl _) rfl rfl
  | reopen failure =>
    cases failure with
    | some failure => exact key h (.aside .refl rfl)
    | none => exact key h (.reopened rfl rfl)
  | close => exact key h s.noting_close
  | closeTransport =>
    refine key h ?_
    simp only [State.closeTransport, State.report_eq]
    exact .aside (.report .refl _) rfl
  | arrive a => exact key h (s.noting_arrive a)
  | complete id callback outcome => exact key h (s.noting_complete id callback outcome)
  | script label outcome actions replies owner =>
    exact key h (s.noting_script label outcome actions replies owner)
  | sweep now =>
    refine key h ?_
    rcases s.sweep_cases now with ⟨-, heq⟩ | ⟨-, heq⟩
    · rw [heq]
      exact .aside (.note rfl .refl) rfl
    · rw [heq]
      exact .aside .refl rfl
  | timeOut e => exact key h (.aside (.note rfl .refl) rfl)
  | endSweep count =>
    refine key h ?_
    simp only [State.endSweep]
    split
    · exact .aside .refl rfl
    · exact .aside (.note rfl .refl) rfl
  | abandon id => exact key h (s.noting_abandon id)
  | await id limit => exact key h (s.noting_await id limit)
  | expire id deadline => exact key h (s.noting_expire id deadline)
  | take id =>
    refine key h ?_
    simp only [State.take]
    split
    · exact .aside .refl rfl
    · split
      · exact .aside .refl rfl
      · split <;> exact .aside .refl rfl
  | unlock | collect | release | answer | countPending | forget =>
    exact key h (.aside .refl rfl)

/-! ### The closed table -/

theorem Noting.kept {s s' : State σ} {t : Task} {reason : String} (noting : Noting s t s')
    (h : s.table.closed = some reason) (ht : t ≠ .reopen none) :
    s'.table.closed = some reason := by
  cases noting with
  | aside _ closed | launched _ _ closed => exact closed.trans h
  | closed _ _ _ closed =>
    rw [closed, h]
    rfl
  | reopened => exact absurd rfl ht

/-- What the journal says of the table, and of the peers that have ended. -/
structure Recorded (m : Machine σ) : Prop where
  closed : m.state.table.closed = m.state.journal.closure?
  ends : m.state.journal.EndsClose

theorem Journal.closure?_arrivalMarks (t : Task) (j : Journal) :
    Journal.closure? (t.arrivalMarks ++ j) = j.closure? := by
  cases t with
  | arrive a => exact Journal.closure?_arrived a j
  | _ => rfl

theorem Recorded.of_noting {s s' : State σ} {t : Task} {rest ts : List Task}
    (h : Recorded ⟨s, t :: rest⟩) (noting : Noting s t s') : Recorded ⟨s', ts⟩ := by
  have hclosed : s.table.closed = s.journal.closure? := h.closed
  have hends : s.journal.EndsClose := h.ends
  cases noting with
  | aside journal closed =>
    exact ⟨(closed.trans hclosed).trans journal.closure?_eq.symm, hends.quietly journal⟩
  | @closed _ reason _ _ _ before after closed =>
    refine ⟨?_, (Journal.EndsClose.closing reason _).quietly after⟩
    show s'.table.closed = s'.journal.closure?
    rw [closed, hclosed, after.closure?_eq, Journal.closure?_closing, before.closure?_eq,
      Journal.closure?_arrivalMarks]
  | launched before journal closed =>
    refine ⟨?_, ?_⟩
    · show s'.table.closed = s'.journal.closure?
      rw [closed, hclosed, journal, Journal.closure?_relaunched, before.closure?_eq]
    · show s'.journal.EndsClose
      rw [journal]
      exact (hends.quietly before).note (by simp)
  | reopened journal closed =>
    refine ⟨?_, ?_⟩
    · show s'.table.closed = s'.journal.closure?
      rw [closed, journal, Journal.closure?_reopened]
    · show s'.journal.EndsClose
      rw [journal]
      exact hends.note (by simp)

theorem Recorded.isInvariant [Transport σ] : IsInvariant (Recorded (σ := σ)) where
  opening options transport := by
    have hquietly : Journal.Quietly [] (opening options transport).state.journal := by
      simp only [opening, initial, State.report_eq]
      exact .report .refl _
    refine ⟨?_, Journal.EndsClose.quietly (by simp [Journal.EndsClose, Journal.since]) hquietly⟩
    rw [hquietly.closure?_eq]
    simp [opening, initial, Table.empty, Journal.closure?, Journal.since, Journal.reasons]
  trace {s level message fields} h := by
    have hquietly : s.journal.Quietly (s.trace level message fields).journal := .note rfl .refl
    exact ⟨h.closed.trans hquietly.closure?_eq.symm, h.ends.quietly hquietly⟩
  outer h _ _ := ⟨h.closed, h.ends⟩
  step hs h := h.of_noting (noting_of_step hs)
  reorder _ h := ⟨h.closed, h.ends⟩
  part _ h := ⟨h.closed, h.ends⟩
  resume _ _ h := ⟨h.closed, h.ends⟩

/-- **A closed table stays closed for its reason** in all that comes next, until it is reopened. -/
theorem closed_onward [Transport σ] {m m' : Machine σ} {later past : List (Machine σ)}
    {reason : String} (run : Run (m' :: (later ++ m :: past)))
    (closed : m.state.table.closed = some reason)
    (unopened : ∀ m₁ ∈ later ++ [m], m₁.agenda.head? ≠ some (.reopen none)) :
    m'.state.table.closed = some reason := by
  refine run.onward (P := fun m => m.state.table.closed = some reason) closed
    fun m₁ hm₁ m₂ past' _ hfollows h => ?_
  cases hfollows with
  | outer | reorder | part | resume => exact h
  | step hs =>
    refine (noting_of_step hs).kept h ?_
    rintro rfl
    exact unopened _ hm₁ rfl

/-- **When the end of a peer is forgotten.** Once the end of the peer that was started last was
heard, the table is open exactly if the end was heard only before the table was reopened for that
peer. If it is closed it stays closed for its reason until the next reopening. -/
theorem end_of_peer_is_forgotten_iff [Transport σ] {m : Machine σ} {past : List (Machine σ)}
    (run : Run (m :: past))
    (ended : ∃ reason, .arrived (.ended reason) ∈ m.state.journal.sinceLaunch) :
    (m.state.table.closed = none ↔ m.state.journal.EndForgotten) ∧
    ∀ reason, m.state.table.closed = some reason → ∀ later m', Run (m' :: (later ++ m :: past)) →
      (∀ m₁ ∈ later ++ [m], m₁.agenda.head? ≠ some (.reopen none)) →
      m'.state.table.closed = some reason := by
  have hrecorded := Recorded.isInvariant.holds run
  refine ⟨?_, fun reason hclosed later m' hlater => closed_onward hlater hclosed⟩
  rw [hrecorded.closed, hrecorded.ends.endForgotten_iff ended]

def crashingPeer : ScriptedPeer :=
  .idle [none, some { lines := [], ended := some "crashed on start", failure := none }] none

/-- A peer that ends after the reopening leaves the table closed. If it ends before, the table is
open though the peer does not run any more. -/
theorem crash_is_forgotten_or_kept :
    (∃ (s : State ScriptedPeer) (past : List (Machine ScriptedPeer)), Run (⟨s, []⟩ :: past) ∧
      s.table.closed = some "crashed" ∧ ¬ s.journal.EndForgotten) ∧
    ∃ (s : State ScriptedPeer) (past : List (Machine ScriptedPeer)), Run (⟨s, []⟩ :: past) ∧
      s.journal.EndForgotten ∧ s.table.closed = none ∧ s.transport.isRunning = false := by
  constructor
  · have connected : Run [⟨newClient .default (ScriptedPeer.idle [] none), []⟩] :=
      .connected (show connect .default (ScriptedPeer.idle [] none) = .ok _ from rfl)
    obtain ⟨past, run⟩ := connected.performEach [.restart, .arrive (.ended "crashed")]
      ⟨rfl, rfl, rfl, rfl, trivial⟩
    have heard := end_of_peer_is_forgotten_iff run
      ⟨"crashed", List.mem_cons_of_mem _ List.mem_cons_self⟩
    refine ⟨_, past, run, rfl, fun hforgotten => ?_⟩
    have hopen := heard.1.mpr hforgotten
    cases hopen
  · have connected : Run [⟨newClient .default crashingPeer, []⟩] :=
      .connected (show connect .default crashingPeer = .ok _ from rfl)
    obtain ⟨past, run⟩ := connected.performEach [.restart] ⟨rfl, rfl, trivial⟩
    have heard := end_of_peer_is_forgotten_iff run
      ⟨"crashed on start", List.mem_cons_of_mem _ (List.mem_cons_of_mem _ List.mem_cons_self)⟩
    exact ⟨_, past, run, heard.1.mp rfl, rfl, rfl⟩

end Switchboard.Client
