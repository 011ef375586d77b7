import Switchboard.Proofs.Client.Closing
import Switchboard.Proofs.Client.Order
import Switchboard.Proofs.Transport.Logged

/-!
# What becomes of a call that is dispatched

A dispatch refuses its call, registers it under the next id and sends it, or has the peer replaced
before. Nobody is told anything while the peer is replaced for a call: the table is closed, so it
holds no call, and of the client nothing changes but its transport, its counters, its clock and its
journal (`State.Passes`). The transport is logged, so that it can be said how often it was used and
for what.
-/

namespace Switchboard.Client

open Switchboard.Json

variable {σ : Type} [Transport σ]

/-! ### Reaching -/

def Machine.Reaches (m m' : Machine σ) : Prop := ∃ n, m.run n = m'

namespace Machine.Reaches

variable {m m₁ m' : Machine σ}

theorem refl (m : Machine σ) : m.Reaches m := ⟨0, rfl⟩

theorem trans (h : m.Reaches m₁) (h' : m₁.Reaches m') : m.Reaches m' := by
  obtain ⟨a, ha⟩ := h
  obtain ⟨b, hb⟩ := h'
  exact ⟨a + b, by rw [run_add, ha, hb]⟩

theorem of_step {s s' : State σ} {t : Task} {ts : List Task} (h : s.step t = some (s', ts))
    (rest : List Task) : (Machine.mk s (t :: rest)).Reaches ⟨s', ts ++ rest⟩ :=
  ⟨1, run_succ (step_cons h) 0⟩

theorem of_last {s s' : State σ} {t : Task} (h : s.step t = some (s', [])) (rest : List Task) :
    (Machine.mk s (t :: rest)).Reaches ⟨s', rest⟩ := of_step h rest

theorem run (h : m.Reaches m') {past : List (Machine σ)} (run : Run (m :: past)) :
    ∃ past', Run (m' :: past') := by
  obtain ⟨n, rfl⟩ := h
  exact run.run n

end Machine.Reaches

/-! ### Registrations -/

def Journal.registrations (j : Journal) : List Request :=
  (j.filterMap fun
    | .registered call => some call
    | _ => none).reverse

/-- Whether a mark is a registration or says what a callback was told. -/
def Mark.isNews (m : Mark) : Bool :=
  m.isTold || match m with
    | .registered _ => true
    | _ => false

namespace Journal

theorem told_of_no_news {marks : Journal} (h : ∀ m ∈ marks, m.isNews = false) (j : Journal) :
    told (marks ++ j) = told j := by
  rw [told_append, told, List.filter_eq_nil_iff.mpr, List.nil_append]
  exact fun m hm => by simp [(Bool.or_eq_false_iff.mp (h m hm)).1]

theorem registrations_of_no_news {marks : Journal} (h : ∀ m ∈ marks, m.isNews = false)
    (j : Journal) : registrations (marks ++ j) = registrations j := by
  rw [registrations, List.filterMap_append, List.filterMap_eq_nil_iff.mpr, List.nil_append]
  · rfl
  · intro m hm
    have := h m hm
    cases m <;> first | rfl | simp [Mark.isNews] at this

@[simp] theorem registrations_registered (call : Request) (j : Journal) :
    registrations (.registered call :: j) = registrations j ++ [call] := by
  simp [registrations]

end Journal

theorem isNews_of_mem_report {events : List Event} {m : Mark}
    (h : m ∈ (events.map Mark.traced).reverse) : m.isNews = false := by
  obtain ⟨e, _, rfl⟩ := List.mem_map.mp (List.mem_reverse.mp h)
  rfl

/-! ### Clients to which nothing happens -/

theorem Table.close_of_closed {t : Table} (hclosed : t.closed ≠ none) (hempty : t.entries = [])
    (reason : String) : t.close reason = ([], t) := by
  obtain ⟨nextId, entries, closed⟩ := t
  obtain ⟨former, rfl⟩ := Option.ne_none_iff_exists'.mp hclosed
  obtain rfl : entries = [] := hempty
  rfl

theorem State.closeTable_of_closed {σ : Type} {s : State σ} (hclosed : s.table.closed ≠ none)
    (hempty : s.table.entries = []) (reason : String) :
    s.closeTable reason = (s.note (.closing reason), []) := by
  simp [closeTable, Table.close_of_closed hclosed hempty]

namespace State

variable {s s₁ s' : State (Logged σ)} {uses uses' : List Use}

/-- What a client comes to while its transport is used in some way, if nothing happens to its calls
and nobody is told anything. -/
structure Passes (s : State (Logged σ)) (uses : List Use) (s' : State (Logged σ)) : Prop where
  rest : s' = { s with
    transport := s'.transport
    tally := s'.tally
    clock := s'.clock
    reply := s'.reply
    journal := s'.journal }
  used : s'.transport.uses = s.transport.uses ++ uses
  told : s'.journal.told = s.journal.told
  registered : s'.journal.registrations = s.journal.registrations

omit [Transport σ] in
theorem Passes.refl (s : State (Logged σ)) : s.Passes [] s := ⟨rfl, by simp, rfl, rfl⟩

omit [Transport σ] in
theorem Passes.trans (h : s.Passes uses s₁) (h' : s₁.Passes uses' s') :
    s.Passes (uses ++ uses') s' := by
  refine ⟨?_, ?_, h'.told.trans h.told, h'.registered.trans h.registered⟩
  · rw [h'.rest, h.rest]
  · rw [h'.used, h.used, List.append_assoc]

omit [Transport σ] in
theorem Passes.of_marks {transport : Logged σ} {tally : Tally} {clock : Nat} {reply : Reply}
    (marks : Journal) (used : transport.uses = s.transport.uses ++ uses)
    (news : ∀ m ∈ marks, m.isNews = false) :
    s.Passes uses { s with transport, tally, clock, reply, journal := marks ++ s.journal } :=
  ⟨rfl, used, Journal.told_of_no_news news _, Journal.registrations_of_no_news news _⟩

omit [Transport σ] in
theorem Passes.table (h : s.Passes uses s') : s'.table = s.table := by rw [h.rest]

/-! ### While the table is closed -/

theorem passes_arrive (hclosed : s.table.closed ≠ none) (hempty : s.table.entries = [])
    (a : Arrival) : s.Passes [] (s.arrive a).1 ∧ (s.arrive a).2 = [] := by
  refine ⟨?_, (s.arrive_of_entries_eq_nil hempty a).1⟩
  cases a with
  | line text =>
    have hnone : s.table.answered? text = none := by
      unfold Table.answered?
      split
      · simp [Table.find?, hempty]
      · rfl
    obtain ⟨event, heq⟩ := s.arrive_of_none hnone
    rw [heq]
    exact .of_marks [.traced event, .arrived (.line text)] (by simp)
      (by simp [Mark.isNews, Mark.isTold])
  | discarded length =>
    exact .of_marks [.arrived (.discarded length)] (by simp)
      (by simp [Mark.isNews, Mark.isTold])
  | ended reason =>
    have hclose := closeTable_of_closed (s := { s.note (.arrived (.ended reason)) with
      transport := Transport.ended s.transport }) hclosed hempty reason
    rw [show s.arrive (.ended reason) = _ from hclose]
    exact .of_marks [.closing reason, .arrived (.ended reason)]
      (by simp [Transport.ended]) (by simp [Mark.isNews, Mark.isTold])

theorem reaches_of_arrivals (hclosed : s.table.closed ≠ none) (hempty : s.table.entries = [])
    (arrivals : List Arrival) (rest : List Task) :
    ∃ s', (Machine.mk s (arrivals.map .arrive ++ rest)).Reaches ⟨s', rest⟩ ∧ s.Passes [] s' := by
  induction arrivals generalizing s with
  | nil => exact ⟨s, .refl _, .refl s⟩
  | cons a arrivals ih =>
    obtain ⟨hpasses, htasks⟩ := passes_arrive hclosed hempty a
    have hstep : s.step (.arrive a) = some ((s.arrive a).1, []) := by
      rw [← htasks]
      rfl
    obtain ⟨s', hreaches, hrest⟩ := ih (s := (s.arrive a).1) (by rwa [hpasses.table])
      (by rwa [hpasses.table])
    exact ⟨s', (Machine.Reaches.of_step hstep _).trans hreaches, hpasses.trans hrest⟩

/-! ### Replacing the peer while the table is closed -/

theorem reaches_of_launch (hclosed : s.table.closed ≠ none) (hempty : s.table.entries = [])
    (rest : List Task) :
    ∃ s', (Machine.mk s (.launch :: rest)).Reaches
        ⟨s', .reopen (Transport.restart s.transport s.clock).2.failure :: rest⟩ ∧
      s.Passes [.restarted] s' := by
  have hlaunch : s.Passes [.restarted] s.launch.1 := by
    simp only [launch, report_eq, note]
    exact .of_marks (.relaunched :: _) rfl fun m hm => by
      rcases List.mem_cons.mp hm with rfl | hm
      · rfl
      · exact isNews_of_mem_report hm
  obtain ⟨s', hreaches, hpasses⟩ := reaches_of_arrivals (s := s.launch.1)
    (by rwa [hlaunch.table]) (by rwa [hlaunch.table])
    (Transport.restart s.transport s.clock).2.arrivals
    (.reopen (Transport.restart s.transport s.clock).2.failure :: rest)
  have hstep : s.step .launch = some (s.launch.1, s.launch.2) := rfl
  refine ⟨s', (Machine.Reaches.of_step hstep rest).trans ?_, hlaunch.trans hpasses⟩
  simpa [launch] using hreaches

theorem reaches_of_failed_reopen (s : State (Logged σ)) (failure : TransportFailure)
    (rest : List Task) :
    (Machine.mk s (.reopen (some failure) :: .unlock :: rest)).Reaches
      ⟨{ s.answer (.refused (.transport failure)) with restarting := false }, rest⟩ := by
  have hreopen : s.step (.reopen (some failure)) =
      some (s, [.answer (.refused (.transport failure))]) := rfl
  exact (Machine.Reaches.of_step hreopen _).trans
    ((Machine.Reaches.of_last rfl _).trans (.of_last rfl rest))

theorem reaches_of_reopen (s : State (Logged σ)) (rest : List Task) :
    (Machine.mk s (.reopen none :: .unlock :: rest)).Reaches
      ⟨{ ({ s with table := s.table.reopen }.note .reopened).answer .done with
          restarting := false }, rest⟩ := by
  have hreopen : s.step (.reopen none) =
      some ({ s with table := s.table.reopen }.note .reopened, [.answer .done]) := rfl
  exact (Machine.Reaches.of_step hreopen _).trans
    ((Machine.Reaches.of_last rfl _).trans (.of_last rfl rest))

/-! ### Callbacks that hold the client -/

def holding {σ : Type} (s : State σ) (c : Callback) : State σ :=
  { s with owners := if c.isOwner then s.owners + 1 else s.owners }

theorem dispatch_eq {σ : Type} (s : State σ) (method : String) (params : Value)
    (callback : Callback) :
    s.dispatch method params callback =
      match s.table.closed with
      | none => some (s.holding callback, [.register s.clock method params callback])
      | some reason =>
        if s.shut then some ((s.holding callback).refuse callback (.closed reason))
        else match s.options.restart with
          | .manual => some ((s.holding callback).refuse callback (.closed reason))
          | .onDemand =>
            if s.restarting then none
            else some
              ({ s.holding callback with restarting := true }.trace .debug
                "restarting closed transport on demand" [("reason", .shown reason)],
                [.replace, .unlock, .proceed s.clock method params callback]) := by
  cases howner : callback.isOwner <;> simp only [dispatch, holding, howner] <;> rfl

theorem reaches_of_refused (howners : 0 < s.owners) (callback : Callback) (failure : CallFailure)
    (rest : List Task) :
    (Machine.mk (s.holding callback) (callback.drop ++ .answer (.refused failure) :: rest)).Reaches
      ⟨s.answer (.refused failure), rest⟩ := by
  have hanswer : (Machine.mk s (.answer (.refused failure) :: rest)).Reaches
      ⟨s.answer (.refused failure), rest⟩ := .of_last rfl rest
  cases howner : callback.isOwner with
  | false =>
    simp only [holding, Callback.drop, howner]
    exact hanswer
  | true =>
    have hrelease : State.step { s with owners := s.owners + 1 } .release = some (s, []) := by
      simp only [step, release, Nat.add_sub_cancel]
      rw [if_neg (by omega)]
    simp only [holding, Callback.drop, howner, if_true]
    exact (Machine.Reaches.of_step hrelease _).trans hanswer

theorem reaches_of_closed {reason : String} (hclosed : s.table.closed = some reason)
    (hpolicy : s.shut = true ∨ s.options.restart = .manual) (howners : 0 < s.owners)
    (method : String) (params : Value) (callback : Callback) (rest : List Task) :
    (Machine.mk s (.dispatch method params callback :: rest)).Reaches
      ⟨s.answer (.refused (.closed reason)), rest⟩ := by
  have hstep : s.step (.dispatch method params callback) =
      some (s.holding callback, callback.drop ++ [.answer (.refused (.closed reason))]) := by
    simp only [step, dispatch_eq, hclosed, refuse]
    rcases hpolicy with h | h <;> simp [h]
  have hrefused := reaches_of_refused howners callback (.closed reason) rest
  refine (Machine.Reaches.of_step hstep rest).trans ?_
  rwa [List.append_assoc]

/-! ### Another peer for a call -/

theorem reaches_of_demand {reason : String} (hclosed : s.table.closed = some reason)
    (hempty : s.table.entries = []) (hshut : s.shut = false)
    (hpolicy : s.options.restart = .onDemand) (hfree : s.restarting = false) (method : String)
    (params : Value) (callback : Callback) (rest : List Task) :
    ∃ s', (Machine.mk s (.dispatch method params callback :: rest)).Reaches
        ⟨s', .reopen (Transport.restart s.transport s.clock).2.failure :: .unlock ::
          .proceed s.clock method params callback :: rest⟩ ∧
      State.Passes { s.holding callback with restarting := true } [.restarted] s' := by
  have hstep : s.step (.dispatch method params callback) =
      some ({ s.holding callback with restarting := true }.trace .debug
        "restarting closed transport on demand" [("reason", .shown reason)],
        [.replace, .unlock, .proceed s.clock method params callback]) := by
    simp only [step, dispatch_eq, hclosed, hshut, hpolicy, hfree]
    rfl
  obtain ⟨s₁, hs₁⟩ : ∃ s₁, s₁ = { s.holding callback with restarting := true }.trace .debug
    "restarting closed transport on demand" [("reason", .shown reason)] := ⟨_, rfl⟩
  rw [← hs₁] at hstep
  have hreplace : s₁.step .replace = some ((s₁.trace .info "restarting generator" []).note
      (.closing "generator restarting"), [.launch]) := by
    have hclose := closeTable_of_closed (s := s₁.trace .info "restarting generator" [])
      (by simp [hs₁, holding, hclosed]) (by simp [hs₁, holding, hempty]) "generator restarting"
    have hopen : s₁.shut = false := by simp [hs₁, holding, hshut]
    simp only [step, replace, hopen, hclose]
    rfl
  obtain ⟨s', hlaunch, hpasses⟩ := reaches_of_launch
    (s := (s₁.trace .info "restarting generator" []).note (.closing "generator restarting"))
    (by simp [hs₁, holding, hclosed]) (by simp [hs₁, holding, hempty])
    (.unlock :: .proceed s.clock method params callback :: rest)
  refine ⟨s', ?_, ?_⟩
  · refine (Machine.Reaches.of_step hstep rest).trans
      ((Machine.Reaches.of_step hreplace _).trans ?_)
    have htransport : s₁.transport = s.transport ∧ s₁.clock = s.clock := by simp [hs₁, holding]
    simpa [htransport] using hlaunch
  · refine Passes.trans (?_ : Passes _ [] _) hpasses
    rw [hs₁]
    exact .of_marks [.closing _, .traced _, .traced _] (by simp)
      (by simp [Mark.isNews, Mark.isTold])

omit [Transport σ] in
theorem Passes.unlocked {callback : Callback}
    (h : State.Passes { s.holding callback with restarting := true } uses s')
    (hfree : s.restarting = false) : ∃ s₁, s.Passes uses s₁ ∧
      { s' with restarting := false } = s₁.holding callback := by
  refine ⟨{ s' with restarting := false, owners := s.owners }, ⟨?_, h.used, h.told, h.registered⟩, ?_⟩
  · rw [h.rest]
    simp [holding, ← hfree]
  · rw [h.rest]
    simp [holding]

/-- If no other peer can be started the call is refused for that reason, and nothing else comes of
it. -/
theorem reaches_of_failed_demand {reason : String} (hclosed : s.table.closed = some reason)
    (hempty : s.table.entries = []) (hshut : s.shut = false)
    (hpolicy : s.options.restart = .onDemand) (hfree : s.restarting = false)
    (howners : 0 < s.owners) {failure : TransportFailure}
    (hfailure : (Transport.restart s.transport s.clock).2.failure = some failure)
    (method : String) (params : Value) (callback : Callback) (rest : List Task) :
    ∃ s', (Machine.mk s (.dispatch method params callback :: rest)).Reaches ⟨s', rest⟩ ∧
      s.Passes [.restarted] s' ∧ s'.reply = .refused (.transport failure) := by
  obtain ⟨s₁, hdemand, hpasses⟩ :=
    reaches_of_demand hclosed hempty hshut hpolicy hfree method params callback rest
  rw [hfailure] at hdemand
  have hanswered : State.Passes { s.holding callback with restarting := true } [.restarted]
      (s₁.answer (.refused (.transport failure))) :=
    ⟨by rw [answer, hpasses.rest], hpasses.used, hpasses.told, hpasses.registered⟩
  obtain ⟨s₂, hunlocked, heq⟩ := hanswered.unlocked hfree
  have hreply : s₂.reply = .refused (.transport failure) :=
    (congrArg State.reply heq).symm
  have hproceed : (s₂.holding callback).step (.proceed s.clock method params callback) =
      some (s₂.holding callback, callback.drop ++ [.answer (.refused (.transport failure))]) := by
    simp only [step, proceed, show (s₂.holding callback).reply = _ from hreply, refuse]
  have howners₂ : 0 < s₂.owners := by
    rw [hunlocked.rest]
    exact howners
  refine ⟨s₂.answer (.refused (.transport failure)), ?_,
    ⟨by rw [answer, hunlocked.rest], hunlocked.used, hunlocked.told, hunlocked.registered⟩, rfl⟩
  have hreopen := reaches_of_failed_reopen s₁ failure (.proceed s.clock method params callback :: rest)
  have hrefused := reaches_of_refused howners₂ callback (.transport failure) rest
  rw [heq] at hreopen
  refine hdemand.trans (hreopen.trans ((Machine.Reaches.of_step hproceed rest).trans ?_))
  rwa [List.append_assoc]

/-! ### Calls that are opened -/

/-- What a client comes to that opens a call under the next id and sends it, after other uses of its
transport. The call was begun at some instant, and nobody is told anything. -/
structure Opens (s : State (Logged σ)) (begun : Nat) (method : String) (params : Value)
    (callback : Callback) (uses : List Use) (s' : State (Logged σ)) : Prop where
  rest : s' = { s.holding callback with
    transport := s'.transport
    table := s'.table
    tally := s'.tally
    mailboxes := (s.openMailbox s.table.nextId begun callback).mailboxes
    clock := s'.clock
    reply := s'.reply
    journal := s'.journal }
  table : ∃ createdAt, s'.table =
    { nextId := s.table.nextId + 1
      entries := s.table.entries ++ [
        { id := s.table.nextId
          method
          createdAt
          timeout := s.options.requestTimeout
          callback }]
      closed := none }
  used : s'.transport.uses = s.transport.uses ++ uses ++
    [.sent (Request.line { id := s.table.nextId, method, params })]
  told : s'.journal.told = s.journal.told
  registered : s'.journal.registrations =
    s.journal.registrations ++ [{ id := s.table.nextId, method, params }]

omit [Transport σ] in
theorem news_of_sent (j : Journal) (events : List Event) (event : Event) (call : Request)
    (line : String) :
    Journal.told (.transmitted line :: ((events.map Mark.traced).reverse ++
        .traced event :: .registered call :: j)) = j.told ∧
      Journal.registrations (.transmitted line :: ((events.map Mark.traced).reverse ++
        .traced event :: .registered call :: j)) = j.registrations ++ [call] := by
  have hnews : ∀ m ∈ .transmitted line :: ((events.map Mark.traced).reverse ++ [.traced event]),
      m.isNews = false := by
    intro m hm
    rcases List.mem_cons.mp hm with rfl | hm
    · rfl
    · rcases List.mem_append.mp hm with hm | hm
      · exact isNews_of_mem_report hm
      · rw [List.mem_singleton.mp hm]
        rfl
  have hsplit : .transmitted line :: ((events.map Mark.traced).reverse ++
      .traced event :: .registered call :: j) =
      (.transmitted line :: ((events.map Mark.traced).reverse ++ [.traced event])) ++
        .registered call :: j := by simp
  rw [hsplit, Journal.told_of_no_news hnews, Journal.registrations_of_no_news hnews,
    Journal.registrations_registered]
  exact ⟨rfl, rfl⟩

def nextTable (s : State (Logged σ)) (method : String) (callback : Callback) : Table :=
  { nextId := s.table.nextId + 1
    entries := s.table.entries ++ [
      { id := s.table.nextId
        method
        createdAt := s.clock
        timeout := s.options.requestTimeout
        callback }]
    closed := none }

theorem register_of_open (hopen : s.table.closed = none) (begun : Nat) (method : String)
    (params : Value) (callback : Callback) (call : Request)
    (hcall : call = { id := s.table.nextId, method, params }) :
    ∃ event, s.register begun method params callback =
      ({ s with
          table := s.nextTable method callback
          mailboxes := (s.openMailbox s.table.nextId begun callback).mailboxes
          transport := (Transport.send s.transport s.clock call.line).1
          clock := s.clock + (Transport.send s.transport s.clock call.line).2.duration
          journal := .transmitted call.line ::
            (((Transport.send s.transport s.clock call.line).2.events.map Mark.traced).reverse ++
              .traced event :: .registered call :: s.journal) },
        (Transport.send s.transport s.clock call.line).2.arrivals.map .arrive ++
          [.settle s.table.nextId method
            (Transport.send s.transport s.clock call.line).2.failure]) := by
  subst hcall
  refine ⟨{
    level := .debug
    target := clientTarget
    message := "sending request"
    fields := [("id", .int s.table.nextId), ("method", .str method)] }, ?_⟩
  simp only [register, Table.register, hopen, nextTable]
  cases callback <;> simp [openMailbox]

theorem opens_of_register (hopen : s.table.closed = none) (begun : Nat) (method : String)
    (params : Value) (callback : Callback) : ∃ (s' : State (Logged σ)) (arrivals : List Arrival)
      (failure : Option TransportFailure),
      (s.holding callback).step (.register begun method params callback) =
        some (s', arrivals.map .arrive ++ [.settle s.table.nextId method failure]) ∧
      s.Opens begun method params callback [] s' := by
  obtain ⟨event, heq⟩ := (s.holding callback).register_of_open hopen begun method params callback
    { id := s.table.nextId, method, params } rfl
  have hnews := news_of_sent s.journal (Transport.send s.transport s.clock
    (Request.line { id := s.table.nextId, method, params })).2.events event
    { id := s.table.nextId, method, params } (Request.line { id := s.table.nextId, method, params })
  refine ⟨_, _, _, congrArg some heq, ?_, ⟨s.clock, rfl⟩, ?_, hnews.1, hnews.2⟩
  · cases callback <;> rfl
  · simp [holding, Transport.send, Logged.log]

theorem reaches_of_open (hopen : s.table.closed = none) (method : String) (params : Value)
    (callback : Callback) (rest : List Task) : ∃ (s' : State (Logged σ)) (arrivals : List Arrival)
      (failure : Option TransportFailure),
      (Machine.mk s (.dispatch method params callback :: rest)).Reaches
        ⟨s', arrivals.map .arrive ++ .settle s.table.nextId method failure :: rest⟩ ∧
      s.Opens s.clock method params callback [] s' := by
  have hstep : s.step (.dispatch method params callback) =
      some (s.holding callback, [.register s.clock method params callback]) := by
    simp only [step, dispatch_eq, hopen]
  obtain ⟨s', arrivals, failure, hregister, hopens⟩ :=
    opens_of_register hopen s.clock method params callback
  refine ⟨s', arrivals, failure, (Machine.Reaches.of_step hstep rest).trans ?_, hopens⟩
  simpa using Machine.Reaches.of_step hregister rest

theorem reaches_of_met_demand {reason : String} (hclosed : s.table.closed = some reason)
    (hempty : s.table.entries = []) (hshut : s.shut = false)
    (hpolicy : s.options.restart = .onDemand) (hfree : s.restarting = false)
    (hstarted : (Transport.restart s.transport s.clock).2.failure = none)
    (method : String) (params : Value) (callback : Callback) (rest : List Task) :
    ∃ (s' : State (Logged σ)) (arrivals : List Arrival) (failure : Option TransportFailure),
      (Machine.mk s (.dispatch method params callback :: rest)).Reaches
        ⟨s', arrivals.map .arrive ++ .settle s.table.nextId method failure :: rest⟩ ∧
      s.Opens s.clock method params callback [.restarted] s' := by
  obtain ⟨s₁, hdemand, hpasses⟩ :=
    reaches_of_demand hclosed hempty hshut hpolicy hfree method params callback rest
  rw [hstarted] at hdemand
  -- The client after the replacement, without the reference of the callback.
  obtain ⟨s₂, hs₂⟩ : ∃ s₂ : State (Logged σ), s₂ = { s with
    transport := s₁.transport
    table := s.table.reopen
    tally := s₁.tally
    clock := s₁.clock
    reply := .done
    journal := .reopened :: s₁.journal } := ⟨_, rfl⟩
  have hreopened : { ({ s₁ with table := s₁.table.reopen }.note .reopened).answer .done with
      restarting := false } = s₂.holding callback := by
    rw [hs₂, hpasses.rest]
    simp [holding, ← hfree]
  obtain ⟨s', arrivals, failure, hregister, hopens⟩ :=
    opens_of_register (s := s₂) (by rw [hs₂]; rfl) s.clock method params callback
  have hproceed : (s₂.holding callback).step (.proceed s.clock method params callback) =
      some (s₂.holding callback, [.register s.clock method params callback]) := by
    simp only [step, proceed, hs₂, holding]
  have hnextId : s₂.table.nextId = s.table.nextId := by rw [hs₂]; rfl
  refine ⟨s', arrivals, failure, ?_, ?_⟩
  · have hreopen := reaches_of_reopen s₁ (.proceed s.clock method params callback :: rest)
    rw [hreopened] at hreopen
    refine hdemand.trans (hreopen.trans ((Machine.Reaches.of_step hproceed rest).trans ?_))
    rw [← hnextId]
    simpa using Machine.Reaches.of_step hregister rest
  · obtain ⟨createdAt, htable⟩ := hopens.table
    refine ⟨hopens.rest.trans ?_, ⟨createdAt, htable.trans ?_⟩, ?_, ?_, ?_⟩
    · rw [hs₂]
      cases callback <;> rfl
    · rw [hs₂]
      rfl
    · rw [hopens.used, hnextId, hs₂]
      simp [hpasses.used, holding]
    · rw [hopens.told, hs₂]
      exact hpasses.told
    · rw [hopens.registered, hnextId, hs₂]
      exact congrArg (· ++ _) hpasses.registered

end State

end Switchboard.Client
