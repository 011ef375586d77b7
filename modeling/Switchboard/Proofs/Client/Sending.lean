import Switchboard.Proofs.Client.Origins

/-!
# Calls are sent once and in order

A line is sent in the step that registers a call, and in no other, and it is the line of that call
(`Numbered`). So the lines that a client has sent in its life are those of the calls that it has
registered, in order, and the ids of these count from one.
-/

namespace Switchboard.Client

open Switchboard.Json

variable {σ : Type}

/-! ### Lines and calls -/

/-- What the client has sent, and the ids that it has given out. -/
structure Numbered (m : Machine (Logged σ)) : Prop where
  nextId : m.state.table.nextId = m.state.journal.registrations.length + 1
  ids : ∀ (n : Nat) call, m.state.journal.registrations[n]? = some call → call.id = n + 1
  lines : m.state.transport.lines = m.state.journal.registrations.map Request.line

namespace Numbered

variable [Transport σ] {s s' : State (Logged σ)} {t : Task} {ts rest tasks : List Task}

omit [Transport σ] in
theorem of_same (h : Numbered ⟨s, tasks⟩) (nextId : s'.table.nextId = s.table.nextId)
    (registered : s'.journal.registrations = s.journal.registrations)
    (lines : s'.transport.lines = s.transport.lines) : Numbered ⟨s', ts⟩ := by
  constructor
  · simpa only [nextId, registered] using h.nextId
  · simpa only [registered] using h.ids
  · simpa only [lines, registered] using h.lines

theorem lines_of_drifts {now : Nat} {transport transport' : Logged σ}
    (h : Transport.Drifts now transport transport') : transport'.lines = transport.lines := by
  cases h with
  | refl => rfl
  | next hnext =>
    obtain ⟨happening, -, rfl⟩ := Option.map_eq_some_iff.mp hnext
    rfl

theorem lines_of_contact (contact : Contact s t s') (ht : ∀ begun method params callback,
      t = .register begun method params callback → s.table.closed ≠ none) :
    s'.transport.lines = s.transport.lines := by
  have key : ∀ {outside : Outside (Logged σ)}, s'.outside = outside →
      outside.transport.lines = s.transport.lines → s'.transport.lines = s.transport.lines := by
    rintro _ rfl h
    exact h
  cases contact with
  | none outside | held outside | released outside | ended outside => exact key outside rfl
  | sent opened => exact absurd opened (ht _ _ _ _ rfl)
  | restarted outside | closed outside =>
    refine key outside ?_
    simp [Transport.restart, Transport.close, Logged.log, Logged.lines]
  | drifted drifts outside => exact key outside (lines_of_drifts drifts)

theorem lines_of_register (hopen : s.table.closed = none) {begun : Nat} {method : String}
    {params : Value} {callback : Callback}
    (hs : s.step (.register begun method params callback) = some (s', ts)) :
    s'.table.nextId = s.table.nextId + 1 ∧ s'.transport.lines =
      s.transport.lines ++ [Request.line { id := s.table.nextId, method, params }] := by
  obtain ⟨event, heq⟩ := s.register_of_open hopen begun method params callback _ rfl
  have hstate : (s.register begun method params callback).1 = s' :=
    congrArg Prod.fst (Option.some.inj hs)
  rw [heq] at hstate
  rw [← hstate]
  exact ⟨rfl, by simp [Transport.send, Logged.log, Logged.lines]⟩

theorem of_step (h : Numbered ⟨s, t :: rest⟩) (hs : s.step t = some (s', ts)) :
    Numbered ⟨s', ts ++ rest⟩ := by
  rcases registrations_of_effect (effect_of_step hs) with
    ⟨hnextId, hsame⟩ | ⟨begun, method, params, callback, rfl, hopen, hnextId, hnew⟩
  · refine h.of_same hnextId hsame (lines_of_contact (contact_of_step hs) ?_)
    rintro begun method params callback rfl hopen
    have hnext := (lines_of_register hopen hs).1
    omega
  · obtain ⟨hold, hids, hlines⟩ := h
    simp only at hold hids hlines
    refine ⟨?_, fun n call hcall => ?_, ?_⟩
    · simp only [hnextId, hnew, hold, List.length_append, List.length_singleton]
      omega
    · simp only [hnew] at hcall
      rcases Nat.lt_or_ge n s.journal.registrations.length with hn | hn
      · rw [List.getElem?_append_left hn] at hcall
        exact hids n call hcall
      · rw [List.getElem?_append_right hn, List.getElem?_singleton] at hcall
        split at hcall
        · rw [← Option.some.inj hcall]
          simp only [hold]
          omega
        · cases hcall
    · simp only [(lines_of_register hopen hs).2, hnew, hlines, List.map_append, List.map_singleton]

theorem isInvariant : IsInvariant (Numbered (σ := σ)) where
  opening options transport := by
    have hnone : (opening options transport).state.journal.registrations = [] := by
      simp only [opening, initial, State.report_eq]
      exact Journal.registrations_of_no_news (fun _ => isNews_of_mem_report) []
    refine ⟨?_, fun n call hcall => ?_, ?_⟩
    · rw [hnone]
      simp [opening, initial, Table.empty]
    · rw [hnone] at hcall
      cases hcall
    · rw [hnone]
      simp [opening, initial, Transport.start, Logged.log, Logged.lines]
  trace h := h.of_same rfl rfl rfl
  outer h drifts _ := h.of_same rfl rfl (lines_of_drifts drifts)
  step hs h := h.of_step hs
  reorder _ h := h.of_same rfl rfl rfl
  part _ h := h.of_same rfl rfl rfl
  resume _ _ h := h.of_same rfl rfl rfl

end Numbered

/-! ### Calls that are refused -/

variable [Transport σ]

omit [Transport σ] in
theorem State.Passes.lines {s s' : State (Logged σ)} {uses : List Use} (h : s.Passes uses s') :
    s'.transport.lines = s.transport.lines ++ Logged.lines { s.transport with uses } := by
  rw [Logged.lines, h.used, List.filterMap_append]
  rfl

/-- **Each call is sent once and in order.** At every moment of a run the lines that were sent are
those of the calls that were registered, in order. Their ids count from one, and each is a call that
was dispatched while its id was the next. A dispatch that is refused because the table is closed, or
because no other peer could be started, sends nothing. -/
theorem each_call_is_sent_once_in_order {m : Machine (Logged σ)} {past : List (Machine (Logged σ))}
    (run : Run (m :: past)) :
    m.state.transport.lines = m.state.journal.registrations.map Request.line ∧
    m.state.table.nextId = m.state.journal.registrations.length + 1 ∧
    (∀ (n : Nat) call, m.state.journal.registrations[n]? = some call → call.id = n + 1 ∧
      ∃ callback, IsDispatched past call.method call.params callback call.id) ∧
    ∀ method params callback rest reason, m.agenda = .dispatch method params callback :: rest →
      m.state.table.closed = some reason →
      (m.state.shut = true ∨ m.state.options.restart = .manual →
        m.Reaches ⟨m.state.answer (.refused (.closed reason)), rest⟩) ∧
      (m.state.shut = false → m.state.options.restart = .onDemand → m.state.restarting = false →
        ∀ failure, (Transport.restart m.state.transport m.state.clock).2.failure = some failure →
        ∃ s', m.Reaches ⟨s', rest⟩ ∧ s'.reply = .refused (.transport failure) ∧
          m.state.Passes [.restarted] s' ∧ s'.transport.lines = m.state.transport.lines) := by
  obtain ⟨hnextId, hids, hlines⟩ := Numbered.isInvariant.holds run
  have hasked := Asked.of_run run
  refine ⟨hlines, hnextId, fun n call hcall => ⟨hids n call hcall, ?_⟩,
    fun method params callback rest reason hagenda hclosed => ?_⟩
  · exact hasked.registered call (List.mem_of_getElem? hcall)
  · obtain ⟨s, agenda⟩ := m
    obtain rfl : agenda = _ := hagenda
    have howners := owners_pos_of_dispatch run
    refine ⟨fun hpolicy =>
      State.reaches_of_closed hclosed hpolicy howners method params callback rest,
      fun hshut hdemand hfree failure hfailure => ?_⟩
    have hempty : s.table.entries = [] :=
      (Replacement.isInvariant.holds run).empty (hclosed ▸ Option.some_ne_none reason)
    obtain ⟨s', hreaches, hpasses, hreply⟩ := State.reaches_of_failed_demand hclosed hempty hshut
      hdemand hfree howners hfailure method params callback rest
    exact ⟨s', hreaches, hreply, hpasses, by simpa [Logged.lines] using hpasses.lines⟩

def answeringOnce : Logged ScriptedPeer where
  transport :=
    { ScriptedPeer.idle [none, some { lines := [], ended := none, failure := some .notStarted }]
        none with
      sendPlans := [some
        { lines := ["\x7b\"jsonrpc\":\"2.0\",\"id\":$ID,\"result\":7\x7d"]
          ended := some "crashed"
          failure := none }] }
  uses := []

def callsOnDemand : List Task :=
  [slowCall [.dispatch "next" .null .mailbox], .dispatch "early" .null .mailbox,
    .dispatch "late" .null .mailbox]

def clientOnDemand (n : Nat) : State (Logged ScriptedPeer) :=
  (newClient { requestTimeout := none, restart := .onDemand } answeringOnce).performEach
    (callsOnDemand.take n)

/-- Four calls are dispatched, one of them by a callback, and three are sent: the peer cannot be
replaced for the third. After the client was closed a fifth is refused at once. -/
theorem three_of_five_calls_are_sent :
    (∃ past, Run (⟨clientOnDemand 3, []⟩ :: past) ∧
      (clientOnDemand 3).transport.uses =
        [.started, .sent (Request.line { id := 1, method := "slow", params := .null }),
          .sent (Request.line { id := 2, method := "next", params := .null }), .restarted,
          .restarted, .sent (Request.line { id := 3, method := "late", params := .null })] ∧
      (clientOnDemand 3).transport.lines =
        (clientOnDemand 3).journal.registrations.map Request.line ∧
      (clientOnDemand 3).table.nextId = (clientOnDemand 3).journal.registrations.length + 1 ∧
      ∃ call, (clientOnDemand 3).journal.registrations[1]? = some call ∧ call.id = 2 ∧
        ∃ callback, IsDispatched past call.method call.params callback call.id) ∧
    (∃ past, Run (⟨clientOnDemand 1, [.dispatch "early" .null .mailbox]⟩ :: past) ∧
      (clientOnDemand 1).table.closed = some "crashed" ∧
      ∃ s', Machine.Reaches ⟨clientOnDemand 1, [.dispatch "early" .null .mailbox]⟩ ⟨s', []⟩ ∧
        s'.reply = .refused (.transport .notStarted) ∧
        (clientOnDemand 1).Passes [.restarted] s' ∧
        s'.transport.lines = (clientOnDemand 1).transport.lines) ∧
    ∃ past, Run (⟨(clientOnDemand 3).performEach [.close],
        [.dispatch "last" .null .mailbox]⟩ :: past) ∧
      Machine.Reaches ⟨(clientOnDemand 3).performEach [.close], [.dispatch "last" .null .mailbox]⟩
        ⟨((clientOnDemand 3).performEach [.close]).answer (.refused (.closed clientClosed)),
          []⟩ := by
  have connected : Run [⟨newClient _ answeringOnce, []⟩] :=
    .connected (show connect { requestTimeout := none, restart := .onDemand } answeringOnce =
      .ok _ from rfl)
  have hsent : (clientOnDemand 3).transport.uses =
        [.started, .sent (Request.line { id := 1, method := "slow", params := .null }),
          .sent (Request.line { id := 2, method := "next", params := .null }), .restarted,
          .restarted, .sent (Request.line { id := 3, method := "late", params := .null })] ∧
      1 < (clientOnDemand 3).journal.registrations.length := by decide +kernel
  have hended : 0 < (clientOnDemand 1).owners ∧ (clientOnDemand 1).table.closed = some "crashed" ∧
      (clientOnDemand 1).shut = false ∧ (clientOnDemand 1).options.restart = .onDemand ∧
      (clientOnDemand 1).restarting = false ∧ (Transport.restart (clientOnDemand 1).transport
        (clientOnDemand 1).clock).2.failure = some .notStarted := by decide +kernel
  have hclosing : (clientOnDemand 3).CanPerform [.close] := by decide +kernel
  have hshut : 0 < ((clientOnDemand 3).performEach [.close]).owners ∧
      ((clientOnDemand 3).performEach [.close]).table.closed = some clientClosed ∧
      ((clientOnDemand 3).performEach [.close]).shut = true := by decide +kernel
  obtain ⟨past, run⟩ := connected.performEach (callsOnDemand.take 3) (by decide +kernel)
  obtain ⟨past', run'⟩ := connected.performEach (callsOnDemand.take 1) (by decide +kernel)
  change Run (⟨clientOnDemand 3, []⟩ :: past) at run
  change Run (⟨clientOnDemand 1, []⟩ :: past') at run'
  obtain ⟨past'', run''⟩ := run.performEach [.close] hclosing
  -- What the clients have come to is known by now, and not computed once more.
  generalize (clientOnDemand 3).performEach [.close] = s₂ at *
  generalize clientOnDemand 3 = s at *
  generalize clientOnDemand 1 = s₁ at *
  refine ⟨⟨past, run, hsent.1, ?_⟩, ?_, ?_⟩
  · obtain ⟨hlines, hnextId, hcalls, -⟩ := each_call_is_sent_once_in_order run
    have hsecond := List.getElem?_eq_getElem hsent.2
    have hcall := hcalls 1 _ hsecond
    exact ⟨hlines, hnextId, _, hsecond, by simpa using hcall.1, hcall.2⟩
  · obtain ⟨howners, hclosed, hopen, hpolicy, hfree, hfailure⟩ := hended
    have begun := run'.begun_now (t := .dispatch "early" .null .mailbox)
      (by simpa [Task.isOperation] using howners)
    have hrefused := (each_call_is_sent_once_in_order begun).2.2.2 _ _ _ _ _ rfl hclosed
    exact ⟨_, begun, hclosed, hrefused.2 hopen hpolicy hfree .notStarted hfailure⟩
  · obtain ⟨howners, hclosed, hshut⟩ := hshut
    have begun := run''.begun_now (t := .dispatch "last" .null .mailbox)
      (by simpa [Task.isOperation] using howners)
    have hrefused := (each_call_is_sent_once_in_order begun).2.2.2 _ _ _ _ _ rfl hclosed
    exact ⟨_, begun, hrefused.1 (.inl hshut)⟩

end Switchboard.Client
