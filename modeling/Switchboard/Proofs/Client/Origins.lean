import Switchboard.Proofs.Client.Dispatching

/-!
# Where registered calls come from

A registered call is that of a dispatch (`Asked`). Between a dispatch and the registration of its
call there is at most a replacement of the peer, for which the table is closed, so that nothing else
is registered meanwhile (`Before`). The next id at the time of the dispatch is therefore the id of
the call, and no two calls come from one dispatch. Whoever dispatches a call holds the client.
-/

namespace Switchboard.Client

open Switchboard.Json

variable {σ : Type}

/-! ### What registers a call -/

theorem Journal.registrations_calls (j : Journal) : j.calls.registrations = j.registrations := by
  rw [registrations, calls, List.filterMap_filter, registrations]
  refine congrArg List.reverse (List.filterMap_congr fun m _ => ?_)
  cases m <;> rfl

theorem Journal.registrations_of_arrivals {marks : Journal}
    (h : ∀ m ∈ marks, ∃ a, m = Mark.arrived a) (j : Journal) :
    Journal.registrations (marks ++ j) = j.registrations := by
  refine registrations_of_no_news (fun m hm => ?_) j
  obtain ⟨a, rfl⟩ := h m hm
  rfl

theorem registrations_of_effect {s s' : State σ} {t : Task} {ts : List Task}
    (effect : Effect s t s' ts) :
    (s'.table.nextId = s.table.nextId ∧ s'.journal.registrations = s.journal.registrations) ∨
    ∃ begun method params callback, t = .register begun method params callback ∧
      s.table.closed = none ∧ s'.table.nextId = s.table.nextId + 1 ∧
      s'.journal.registrations =
        s.journal.registrations ++ [{ id := s.table.nextId, method, params }] := by
  have key : ∀ {books : Books}, s'.books = books → books.table.nextId = s.table.nextId →
      books.calls.registrations = s.journal.calls.registrations →
      s'.table.nextId = s.table.nextId ∧ s'.journal.registrations = s.journal.registrations := by
    rintro _ rfl hnextId hcalls
    rw [← Journal.registrations_calls, ← Journal.registrations_calls s.journal]
    exact ⟨hnextId, hcalls⟩
  cases effect with
  | @opened begun method params callback id table _ _ _ registered books =>
    obtain ⟨hopen, rfl, rfl⟩ := Table.register_eq_ok registered
    have htable := congrArg Books.table books
    have hcalls := congrArg Books.calls books
    simp only [State.books] at htable hcalls
    refine .inr ⟨begun, method, params, callback, rfl, hopen, by rw [htable], ?_⟩
    rw [← Journal.registrations_calls, hcalls, ← Journal.registrations_calls s.journal]
    exact Journal.registrations_registered _ s.journal.calls
  | aside books | counted _ _ books | timedOut books | completed books | accepted _ books =>
    exact .inl (key books rfl rfl)
  | withdrew taken books => exact .inl (key books (by rw [(Table.take_eq_some taken).2.2]) rfl)
  | took _ taken books =>
    exact .inl (key books (by rw [(Table.take_eq_some taken).2.2])
      (Journal.registrations_of_arrivals (fun _ => Task.mem_arrivalMarks) _))
  | swept books => exact .inl (key books rfl rfl)
  | drained _ books =>
    exact .inl
      (key books rfl (Journal.registrations_of_arrivals (fun _ => Task.mem_arrivalMarks) _))
  | reopened books => exact .inl (key books rfl rfl)

/-! ### Tasks that open a call -/

def Task.isOpening : Task → Bool
  | .dispatch .. | .proceed .. | .register .. => true
  | _ => false

theorem isOpening_of_mem_arrivals {arrivals : List Arrival} {t : Task}
    (h : t ∈ arrivals.map Task.arrive) : t.isOpening = false := by
  obtain ⟨a, _, rfl⟩ := List.mem_map.mp h
  rfl

theorem Callback.isOpening_of_mem_refusal {c : Callback} {r : Reply} {t : Task}
    (h : t ∈ c.drop ++ [.answer r]) : t.isOpening = false := by
  rcases c.eq_of_mem_refusal h with rfl | rfl <;> rfl

/-- How a task takes part in the opening of a call, with the tasks that it puts in front. -/
inductive Undertaking (s : State σ) : Task → State σ → List Task → Prop where
  | aside {t : Task} {s' : State σ} {ts : List Task} (others : ∀ t' ∈ ts, t'.isOpening = false) :
      Undertaking s t s' ts
  | acted {label : String} {outcome : Outcome} {a : Action} {actions : List Action}
      {replies : List Reply} {owner : Bool} :
      Undertaking s (.script label outcome (a :: actions) replies owner)
        { s with owners := s.owners + 1 }
        [a.task, .collect label outcome actions replies owner]
  | looked {method : String} {params : Value} {callback : Callback} {s' : State σ}
      (table : s'.table = s.table) :
      Undertaking s (.dispatch method params callback) s' [.register s.clock method params callback]
  | demanded {method : String} {params : Value} {callback : Callback} {s' : State σ}
      (table : s'.table = s.table) (closed : s.table.closed ≠ none) :
      Undertaking s (.dispatch method params callback) s'
        [.replace, .unlock, .proceed s.clock method params callback]
  | proceeded {begun : Nat} {method : String} {params : Value} {callback : Callback} :
      Undertaking s (.proceed begun method params callback) s
        [.register begun method params callback]

theorem Undertaking.of_some {s s' : State σ} {t : Task} {ts : List Task}
    {result : State σ × List Task} (h : some result = some (s', ts))
    (undertaking : Undertaking s t result.1 result.2) : Undertaking s t s' ts := by
  obtain rfl := Option.some.inj h
  exact undertaking

namespace State

theorem undertaking_dispatch {s s' : State σ} {method : String} {params : Value}
    {callback : Callback} {ts : List Task} (h : s.dispatch method params callback = some (s', ts)) :
    Undertaking s (.dispatch method params callback) s' ts := by
  rw [dispatch_eq] at h
  split at h
  · cases h
    exact .looked rfl
  · rename_i reason hclosed
    split at h
    · cases h
      exact .aside fun _ => callback.isOpening_of_mem_refusal
    · split at h
      · cases h
        exact .aside fun _ => callback.isOpening_of_mem_refusal
      · split at h
        · cases h
        · cases h
          exact .demanded rfl (by simp [hclosed])

theorem isOpening_of_mem_closeTable {s : State σ} {reason : String} {t : Task}
    (h : t ∈ (s.closeTable reason).2) : t.isOpening = false := by
  rw [tasks_closeTable] at h
  obtain ⟨e, _, rfl⟩ := List.mem_map.mp h
  rfl

theorem isOpening_of_mem_close {s : State σ} {t : Task} (h : t ∈ s.close.2) :
    t.isOpening = false := by
  unfold close at h
  split at h
  · rw [List.mem_singleton.mp h]
    rfl
  · rcases List.mem_append.mp h with h | h
    · exact isOpening_of_mem_closeTable h
    · simp only [List.mem_cons, List.not_mem_nil, or_false] at h
      rcases h with rfl | rfl <;> rfl

theorem isOpening_of_mem_arrive [Transport σ] {s : State σ} {a : Arrival} {t : Task}
    (h : t ∈ (s.arrive a).2) : t.isOpening = false := by
  rcases s.arrive_cases a with ⟨text, e, table, payload, event, rfl, -, -, heq⟩ |
    ⟨tally, marks, -, -, -, heq⟩ | ⟨reason, marks, rfl, -, heq⟩
  · rw [heq] at h
    rw [List.mem_singleton.mp h]
    rfl
  · rw [heq] at h
    cases h
  · rw [heq] at h
    obtain ⟨e, _, rfl⟩ := List.mem_map.mp h
    rfl

theorem isOpening_of_mem_upcoming [Transport σ] {s s' : State σ} {instant : Nat}
    {tasks : List Task} (h : s.upcoming? = some (instant, s', tasks)) {t : Task} (ht : t ∈ tasks) :
    t.isOpening = false := by
  simp only [upcoming?] at h
  split at h
  · cases h
  · cases h
    rw [List.mem_singleton.mp ht]
    rfl
  · cases h
    exact isOpening_of_mem_arrivals ht
  · split at h
    · cases h
      rw [List.mem_singleton.mp ht]
      rfl
    · cases h
      exact isOpening_of_mem_arrivals ht

theorem isOpening_of_mem_stopWaiting {s : State σ} {id : Int} {deadline limit : Option Nat}
    {t : Task} (h : t ∈ (s.stopWaiting id deadline limit).2) : t.isOpening = false := by
  unfold stopWaiting at h
  cases deadline <;> cases limit <;> simp only at h <;> try split at h
  all_goals
    simp only [List.mem_cons, List.not_mem_nil, or_false] at h
    rcases h with rfl | rfl <;> rfl

theorem isOpening_of_mem_await [Transport σ] {s : State σ} {id : Int} {limit : Option Nat}
    {t : Task} (h : t ∈ (s.await id limit).2) : t.isOpening = false := by
  unfold await at h
  split at h
  · split at h
    · rename_i instant s' tasks hnext
      split at h
      · rcases List.mem_append.mp h with h | h
        · exact isOpening_of_mem_upcoming hnext h
        · rw [List.mem_singleton.mp h]
          rfl
      · exact isOpening_of_mem_stopWaiting h
    · exact isOpening_of_mem_stopWaiting h
  · rw [List.mem_singleton.mp h]
    rfl

end State

/-- **Every step takes part in one of these ways.** -/
theorem undertaking_of_step [Transport σ] {s s' : State σ} {t : Task} {ts : List Task}
    (h : s.step t = some (s', ts)) : Undertaking s t s' ts := by
  cases t with
  | dispatch method params callback => exact State.undertaking_dispatch h
  | proceed begun method params callback =>
    refine .of_some h ?_
    unfold State.proceed
    split
    · exact .aside fun _ => callback.isOpening_of_mem_refusal
    · exact .proceeded
  | register begun method params callback =>
    refine .of_some h ?_
    rcases s.register_cases begun method params callback with
      ⟨reason, heq⟩ | ⟨id, table, clock, marks, arrivals, failure, -, -, heq⟩
    · rw [heq]
      exact .aside fun _ => callback.isOpening_of_mem_refusal
    · rw [heq]
      refine .aside fun u hu => ?_
      rcases List.mem_append.mp hu with hu | hu
      · exact isOpening_of_mem_arrivals hu
      · rw [List.mem_singleton.mp hu]
        rfl
  | settle id method failure =>
    refine .of_some h ?_
    unfold State.settle
    split
    · exact .aside (by simp [Task.isOpening])
    · simp only
      split
      · exact .aside fun _ => Callback.isOpening_of_mem_refusal
      · exact .aside (by simp [Task.isOpening])
  | restart =>
    simp only [State.step, State.restart] at h
    split at h
    · cases h
    · exact .of_some h (.aside (by simp [Task.isOpening]))
  | replace =>
    refine .of_some h ?_
    unfold State.replace
    split
    · exact .aside (by simp [Task.isOpening])
    · refine .aside fun u hu => ?_
      rcases List.mem_append.mp hu with hu | hu
      · exact State.isOpening_of_mem_closeTable hu
      · rw [List.mem_singleton.mp hu]
        rfl
  | launch =>
    refine .of_some h (.aside fun u hu => ?_)
    rcases List.mem_append.mp hu with hu | hu
    · exact isOpening_of_mem_arrivals hu
    · rw [List.mem_singleton.mp hu]
      rfl
  | reopen failure =>
    refine .of_some h ?_
    cases failure <;> exact .aside (by simp [State.reopen, Task.isOpening])
  | close => exact .of_some h (.aside fun _ => State.isOpening_of_mem_close)
  | closeTransport => exact .of_some h (.aside fun _ => isOpening_of_mem_arrivals)
  | arrive a => exact .of_some h (.aside fun _ => State.isOpening_of_mem_arrive)
  | complete id callback outcome =>
    refine .of_some h ?_
    cases callback <;> exact .aside (by simp [State.complete, Task.isOpening])
  | script label outcome actions replies owner =>
    refine .of_some h ?_
    cases actions with
    | nil =>
      simp only [State.script]
      split <;> exact .aside (by simp [Task.isOpening])
    | cons a actions =>
      simp only [State.script]
      split
      · exact .aside (by simp)
      · exact .acted
  | release =>
    refine .of_some h (.aside fun u hu => ?_)
    simp only [State.release] at hu
    split at hu
    · rw [List.mem_singleton.mp hu]
      rfl
    · cases hu
  | cancel id | abandon id | expire id deadline =>
    refine .of_some h ?_
    simp only [State.cancel, State.abandon, State.expire]
    split <;> exact .aside (by simp [Task.isOpening])
  | sweep now =>
    refine .of_some h (.aside fun u hu => ?_)
    rcases State.eq_of_mem_sweep hu with ⟨e, rfl⟩ | ⟨count, rfl⟩ <;> rfl
  | await id limit => exact .of_some h (.aside fun _ => State.isOpening_of_mem_await)
  | unlock | collect | answer | countPending | timeOut | endSweep | forget | take =>
    exact .of_some h (.aside (by simp [Task.isOpening, State.timeOut, State.endSweep]))

/-! ### Where a call comes from -/

/-- Whether a call with an id was dispatched: among the machines is one that was about to dispatch
it while the id was the next to be given out. -/
def IsDispatched (machines : List (Machine σ)) (method : String) (params : Value)
    (callback : Callback) (id : Int) : Prop :=
  ∃ m ∈ machines, m.state.table.nextId = id ∧
    ∃ rest, m.agenda = .dispatch method params callback :: rest

theorem IsDispatched.cons {machines : List (Machine σ)} {method : String} {params : Value}
    {callback : Callback} {id : Int} (h : IsDispatched machines method params callback id)
    (m : Machine σ) : IsDispatched (m :: machines) method params callback id := by
  obtain ⟨m', hm', h⟩ := h
  exact ⟨m', List.mem_cons_of_mem m hm', h⟩

/-- What can stand before the task that goes on with a call after the peer was replaced for it. -/
inductive Before (s : State σ) : List Task → Prop where
  | replace (closed : s.table.closed ≠ none) : Before s [.replace, .unlock]
  | launch (closed : s.table.closed ≠ none) : Before s [.launch, .unlock]
  | reopen (closed : s.table.closed ≠ none) (arrivals : List Arrival)
      (failure : Option TransportFailure) :
      Before s (arrivals.map .arrive ++ [.reopen failure, .unlock])
  | answer (r : Reply) : Before s [.answer r, .unlock]
  | unlock : Before s [.unlock]
  | nil : Before s []

variable {s s' : State σ} {t : Task} {ts : List Task}

theorem Before.not_register {before : List Task} (h : Before s (t :: before)) (begun : Nat)
    (method : String) (params : Value) (callback : Callback) :
    t ≠ .register begun method params callback := by
  generalize hall : t :: before = all at h
  cases h with
  | reopen closed arrivals failure =>
    cases arrivals <;> (cases hall; simp)
  | nil => cases hall
  | _ =>
    cases hall
    simp

theorem Before.of_step [Transport σ] {before : List Task} (h : Before s (t :: before))
    (empty : s.table.closed ≠ none → s.table.entries = []) (hs : s.step t = some (s', ts)) :
    Before s' (ts ++ before) := by
  have key : ∀ {result : State σ × List Task}, some result = some (s', ts) →
      Before result.1 (result.2 ++ before) → Before s' (ts ++ before) := by
    rintro _ ⟨⟩ hnext
    exact hnext
  generalize hall : t :: before = all at h
  cases h with
  | replace closed =>
    cases hall
    refine key hs ?_
    unfold State.replace
    split
    · exact .answer _
    · have hclose := State.closeTable_of_closed
        (s := s.trace .info "restarting generator" []) closed (empty closed) "generator restarting"
      rw [hclose]
      exact .launch closed
  | launch closed =>
    cases hall
    refine key hs ?_
    simp only [State.launch, List.append_assoc]
    exact .reopen (by simpa using closed) _ _
  | reopen closed arrivals failure =>
    cases arrivals with
    | nil =>
      cases hall
      refine key hs ?_
      cases failure <;> exact .answer _
    | cons a arrivals =>
      cases hall
      have hclosed := closed_of_effect (s.effect_arrive a) closed (by simp)
      refine key hs ?_
      rw [(s.arrive_of_entries_eq_nil (empty closed) a).1]
      exact .reopen hclosed arrivals failure
  | answer r =>
    cases hall
    exact key hs .unlock
  | unlock =>
    cases hall
    exact key hs .nil
  | nil => cases hall

/-- What is true of a task that opens a call, of which the machines so far say where it comes from:
what stands before it, and which id the call will have. -/
def Placed (machines : List (Machine σ)) (s : State σ) (before : List Task) : Task → Prop
  | .dispatch .. => before = [] ∧ 0 < s.owners
  | .proceed _ method params callback =>
    Before s before ∧ IsDispatched machines method params callback s.table.nextId
  | .register _ method params callback =>
    before = [] ∧ IsDispatched machines method params callback s.table.nextId
  | _ => True

theorem Placed.of_not_isOpening {machines : List (Machine σ)} {before : List Task}
    (h : t.isOpening = false) : Placed machines s before t := by
  cases t <;> trivial

theorem Placed.of_table {machines : List (Machine σ)} {before : List Task} {m : Machine σ}
    (h : Placed machines s before t) (nextId : s'.table.nextId = s.table.nextId)
    (closed : s'.table.closed = s.table.closed) (owners : s'.owners = s.owners) :
    Placed (m :: machines) s' before t := by
  cases t with
  | dispatch => exact ⟨h.1, owners ▸ h.2⟩
  | register => exact ⟨h.1, nextId ▸ h.2.cons m⟩
  | proceed =>
    refine ⟨?_, nextId ▸ h.2.cons m⟩
    cases h.1 with
    | replace hclosed => exact .replace (closed ▸ hclosed)
    | launch hclosed => exact .launch (closed ▸ hclosed)
    | reopen hclosed arrivals failure => exact .reopen (closed ▸ hclosed) arrivals failure
    | answer r => exact .answer r
    | unlock => exact .unlock
    | nil => exact .nil
  | _ => trivial

/-- Whether the tasks of a machine that open calls are placed, and its calls were dispatched. -/
structure Asked (m : Machine σ) (machines : List (Machine σ)) : Prop where
  placed : ∀ before t rest, m.agenda = before ++ t :: rest → Placed machines m.state before t
  registered : ∀ call ∈ m.state.journal.registrations,
    ∃ callback, IsDispatched machines call.method call.params callback call.id

namespace Asked

variable {past : List (Machine σ)} {rest : List Task}

theorem placed_of_undertaking (h : Asked ⟨s, t :: rest⟩ past) (undertaking : Undertaking s t s' ts)
    {before after : List Task} {u : Task} (hts : ts = before ++ u :: after) :
    Placed (⟨s, t :: rest⟩ :: past) s' before u := by
  have hself := h.placed [] t rest rfl
  cases undertaking with
  | aside others => exact .of_not_isOpening (others u (hts ▸ by simp))
  | @acted label outcome a actions replies owner =>
    cases before with
    | nil =>
      obtain ⟨rfl, -⟩ := List.cons.inj hts
      cases a with
      | dispatch => exact ⟨rfl, Nat.succ_pos _⟩
      | _ => trivial
    | cons v before =>
      have hu : u ∈ [Task.collect label outcome actions replies owner] :=
        (List.cons.inj hts).2 ▸ by simp
      rw [List.mem_singleton.mp hu]
      trivial
  | @looked method params callback _ table =>
    cases before with
    | nil =>
      obtain ⟨rfl, -⟩ := List.cons.inj hts
      refine ⟨rfl, ?_⟩
      rw [table]
      exact ⟨_, List.mem_cons_self, rfl, rest, rfl⟩
    | cons v before => simp at hts
  | @demanded method params callback _ table closed =>
    match before with
    | [] | [_] =>
      simp only [List.nil_append, List.cons_append, List.cons.injEq] at hts
      obtain rfl : u = _ := by first | exact hts.1.symm | exact hts.2.1.symm
      trivial
    | [_, _] =>
      simp only [List.nil_append, List.cons_append, List.cons.injEq] at hts
      obtain ⟨rfl, rfl, rfl, -⟩ := hts
      refine ⟨.replace (by rwa [table]), ?_⟩
      rw [table]
      exact ⟨_, List.mem_cons_self, rfl, rest, rfl⟩
    | _ :: _ :: _ :: _ => simp at hts
  | proceeded =>
    cases before with
    | nil =>
      obtain ⟨rfl, -⟩ := List.cons.inj hts
      exact ⟨rfl, hself.2.cons _⟩
    | cons v before => simp at hts

theorem placed_of_rest [Transport σ] (h : Asked ⟨s, t :: rest⟩ past)
    (empty : s.table.closed ≠ none → s.table.entries = []) (hs : s.step t = some (s', ts))
    {before after : List Task} {u : Task} (hrest : rest = before ++ u :: after) :
    Placed (⟨s, t :: rest⟩ :: past) s' (ts ++ before) u := by
  have hold := h.placed (t :: before) u after (by rw [hrest]; rfl)
  cases u with
  | dispatch | register => cases hold.1
  | proceed begun method params callback =>
    obtain ⟨hbefore, hdispatched⟩ := hold
    rcases registrations_of_effect (effect_of_step hs) with ⟨hnextId, -⟩ | ⟨b, m, p, c, ht, -⟩
    · refine ⟨hbefore.of_step empty hs, ?_⟩
      rw [hnextId]
      exact hdispatched.cons _
    · exact absurd ht (hbefore.not_register b m p c)
  | _ => trivial

theorem registered_of_step [Transport σ] (h : Asked ⟨s, t :: rest⟩ past)
    (hs : s.step t = some (s', ts)) : ∀ call ∈ s'.journal.registrations,
      ∃ callback, IsDispatched (⟨s, t :: rest⟩ :: past) call.method call.params callback call.id := by
  have hold : ∀ call ∈ s.journal.registrations, ∃ callback,
      IsDispatched (⟨s, t :: rest⟩ :: past) call.method call.params callback call.id := by
    intro call hcall
    obtain ⟨callback, hdispatched⟩ := h.registered call hcall
    exact ⟨callback, hdispatched.cons _⟩
  rcases registrations_of_effect (effect_of_step hs) with
    ⟨-, hsame⟩ | ⟨begun, method, params, callback, rfl, -, -, hnew⟩
  · rw [hsame]
    exact hold
  · rw [hnew]
    intro call hcall
    rcases List.mem_append.mp hcall with hcall | hcall
    · exact hold call hcall
    · rw [List.mem_singleton.mp hcall]
      exact ⟨callback, (h.placed [] _ rest rfl).2.cons _⟩

theorem of_step [Transport σ] (h : Asked ⟨s, t :: rest⟩ past)
    (empty : s.table.closed ≠ none → s.table.entries = []) (hs : s.step t = some (s', ts)) :
    Asked ⟨s', ts ++ rest⟩ (⟨s, t :: rest⟩ :: past) := by
  refine ⟨fun before u after hagenda => ?_, h.registered_of_step hs⟩
  rcases List.append_eq_append_iff.mp hagenda with ⟨before', rfl, hrest⟩ | ⟨after', hts, hrest⟩
  · exact h.placed_of_rest empty hs hrest
  · cases after' with
    | nil =>
      obtain rfl : ts = before := by simpa using hts
      have hplaced : Placed _ s' (ts ++ []) u := h.placed_of_rest empty hs hrest.symm
      rwa [List.append_nil] at hplaced
    | cons v after' =>
      obtain ⟨rfl, rfl⟩ := List.cons.inj hrest
      exact h.placed_of_undertaking (undertaking_of_step hs) hts

theorem outer {m : Machine σ} {state : State σ} {tasks : List Task} (h : Asked m past)
    (journal : state.journal = m.state.journal)
    (single : ∀ t ∈ tasks, t.isOpening = true → tasks = [t] ∧ ∃ method params callback,
      t = .dispatch method params callback ∧ 0 < state.owners) :
    Asked ⟨state, tasks⟩ (m :: past) := by
  refine ⟨fun before u after hagenda => ?_, fun call hcall => ?_⟩
  · simp only at hagenda
    cases hu : u.isOpening with
    | false => exact .of_not_isOpening hu
    | true =>
      obtain ⟨hone, method, params, callback, rfl, howners⟩ := single u (hagenda ▸ by simp) hu
      rw [hone] at hagenda
      have hlength := congrArg List.length hagenda
      simp only [List.length_append, List.length_cons, List.length_nil] at hlength
      exact ⟨List.eq_nil_of_length_eq_zero (by omega), howners⟩
  · rw [journal] at hcall
    obtain ⟨callback, hdispatched⟩ := h.registered call hcall
    exact ⟨callback, hdispatched.cons _⟩

variable [Transport σ]

theorem registrations_of_connect {options : ClientOptions} {transport : σ}
    (h : connect options transport = .ok s) : s.journal.registrations = [] := by
  refine connect_induction (P := fun s => s.journal.registrations = []) h ?_ (fun s a _ hs => ?_)
    fun s level message fields hs => hs
  · simp only [opening, initial, State.report_eq]
    exact Journal.registrations_of_no_news (fun _ => isNews_of_mem_report) []
  · rcases registrations_of_effect (s.effect_arrive a) with ⟨-, hsame⟩ | ⟨_, _, _, _, ht, -⟩
    · exact hsame.trans hs
    · cases ht

theorem of_run {m : Machine σ} (run : Run (m :: past)) : Asked m past := by
  generalize hall : m :: past = all at run
  induction run generalizing m past with
  | connected h =>
    cases hall
    refine ⟨fun before u after hagenda => by simp at hagenda, fun call hcall => ?_⟩
    rw [registrations_of_connect h] at hcall
    cases hcall
  | @begun s past' t now run later h ih =>
    cases hall
    refine (ih rfl).outer rfl fun u hu hopening => ?_
    obtain rfl := List.mem_singleton.mp hu
    cases u with
    | dispatch method params callback =>
      exact ⟨rfl, method, params, callback, rfl, by simpa [Task.isOperation] using h⟩
    | proceed | register => cases h
    | _ => cases hopening
  | happened run h ih =>
    cases hall
    obtain ⟨transport, rfl, -, -⟩ := State.upcoming_spec h
    refine (ih rfl).outer rfl fun u hu hopening => ?_
    rw [State.isOpening_of_mem_upcoming h hu] at hopening
    cases hopening
  | @stepped m m' past run h ih =>
    cases hall
    obtain ⟨t, rest, s, ts, hagenda, hs, rfl⟩ := Machine.step_eq_some h
    obtain ⟨state, agenda⟩ := m
    subst hagenda
    exact (ih rfl).of_step (Replacement.isInvariant.holds run).empty hs
  | @reordered m past entries run h ih =>
    cases hall
    obtain ⟨hplaced, hregistered⟩ := ih rfl
    refine ⟨fun before u after hagenda => ?_, fun call hcall => ?_⟩
    · exact (hplaced before u after hagenda).of_table rfl rfl rfl
    · obtain ⟨callback, hdispatched⟩ := hregistered call hcall
      exact ⟨callback, hdispatched.cons _⟩
  | parted run waits ih =>
    cases hall
    exact (ih rfl).outer rfl fun u hu => by cases hu
  | resumed run later own due ih =>
    cases hall
    refine (ih rfl).outer rfl fun u hu hopening => ?_
    rw [List.mem_singleton.mp hu] at hopening
    cases hopening

end Asked

theorem owners_pos_of_dispatch [Transport σ] {past : List (Machine σ)} {rest : List Task}
    {method : String} {params : Value} {callback : Callback}
    (run : Run (⟨s, .dispatch method params callback :: rest⟩ :: past)) : 0 < s.owners :=
  ((Asked.of_run run).placed [] _ rest rfl).2

end Switchboard.Client
