import Switchboard.Proofs.Client.Tasks

/-!
# What a step does about calls

`Effect` lists everything that one task can do to the books of a client: its table, its counters and
the marks about calls. `effect_of_step` says that every step is of one of these kinds, so an
invariant of the books is proved by one case for each kind, and not for each task.

A call leaves the table in a step of the kinds `took`, `swept`, `drained` and `withdrew`. After the
first three its completion is owed: a task of the agenda names it until its callback is told the
outcome (`completed`).
-/

namespace Switchboard.Client

open Switchboard.Json

/-! ### Tasks -/

/-- The call whose callback a task is to tell an outcome. -/
def Task.owed : Task → List Int
  | .complete id _ _ => [id]
  | .timeOut e => [e.id]
  | _ => []

def Task.unsettled : Task → List Int
  | .settle id _ _ => [id]
  | _ => []

/-- Whether no call waits for a task. -/
def Task.isAside : Task → Bool
  | .complete .. | .timeOut _ | .settle .. => false
  | _ => true

def Task.arrivalMarks : Task → Journal
  | .arrive a => [.arrived a]
  | _ => []

theorem Task.owed_of_isAside {t : Task} (h : t.isAside = true) : t.owed = [] := by
  cases t <;> first | rfl | cases h

theorem Task.unsettled_of_isAside {t : Task} (h : t.isAside = true) : t.unsettled = [] := by
  cases t <;> first | rfl | cases h

theorem Task.isAside_of_isFree {t : Task} (h : t.isFree = true) : t.isAside = true := by
  cases t <;> first | rfl | cases h

theorem isAside_of_mem_arrivals {arrivals : List Arrival} {t : Task}
    (h : t ∈ arrivals.map Task.arrive) : t.isAside = true :=
  Task.isAside_of_isFree (isFree_of_mem_arrivals h)

theorem Callback.isAside_of_mem_refusal {c : Callback} {reply : Reply} {t : Task}
    (h : t ∈ c.drop ++ [.answer reply]) : t.isAside = true :=
  Task.isAside_of_isFree (c.isFree_of_mem_refusal h)

/-! ### The books -/

structure Books where
  table : Table
  tally : Tally
  calls : Journal

variable {σ : Type}

def State.books (s : State σ) : Books :=
  { table := s.table, tally := s.tally, calls := s.journal.calls }

/-- Why a task ends an open call, and with which outcome: the peer answered, the call was given up,
or its handle has waited long enough. -/
inductive Ends (e : Entry) : Task → Outcome → Prop where
  | response {text : String} {payload : Payload}
      (h : Message.parse text = .ok (.response (some e.id) payload)) :
      Ends e (.arrive (.line text)) (.ofPayload payload)
  | cancel : Ends e (.cancel e.id) (.error (.cancelled e.id))
  | abandon : Ends e (.abandon e.id) (.error (.cancelled e.id))
  | expire (deadline : Nat) : Ends e (.expire e.id deadline) (.error e.timeoutFailure)

/-- The tasks that close the table, with the reason that the open calls are told. -/
inductive Closes (s : State σ) : Task → String → Prop where
  | ended (reason : String) : Closes s (.arrive (.ended reason)) reason
  | replace (h : s.shut = false) : Closes s .replace "generator restarting"
  | close (h : s.shut = false) : Closes s .close clientClosed

/-- What a task does to the books, with the tasks that it puts in front. -/
inductive Effect (s : State σ) : Task → State σ → List Task → Prop where
  | aside {t : Task} {s' : State σ} {ts : List Task} (books : s'.books = s.books)
      (self : t.isAside = true) (others : ∀ t' ∈ ts, t'.isAside = true) : Effect s t s' ts
  | opened {begun : Nat} {method : String} {params : Value} {callback : Callback} {id : Int}
      {table : Table} {s' : State σ} {arrivals : List Arrival} {failure : Option TransportFailure}
      (registered : s.table.register method s.clock s.options.requestTimeout callback =
        .ok (id, table))
      (books : s'.books = { s.books with
        table
        calls := .transmitted (Request.line { id, method, params }) ::
          .registered { id, method, params } :: s.books.calls }) :
      Effect s (.register begun method params callback) s'
        (arrivals.map .arrive ++ [.settle id method failure])
  | accepted {id : Int} {method : String} {failure : Option TransportFailure} {s' : State σ}
      (reason : failure = none ∨ s.table.take id = none)
      (books : s'.books = { s.books with calls := .accepted id :: s.books.calls }) :
      Effect s (.settle id method failure) s' [.answer (.accepted id)]
  | withdrew {id : Int} {method : String} {failure : TransportFailure} {e : Entry} {table : Table}
      {s' : State σ} (taken : s.table.take id = some (e, table))
      (books : s'.books = { s.books with
        table
        calls := .withdrawn id (.transport failure) :: s.books.calls }) :
      Effect s (.settle id method (some failure)) s'
        (e.callback.drop ++ [.answer (.refused (.transport failure))])
  | took {t : Task} {e : Entry} {outcome : Outcome} {table : Table} {s' : State σ}
      {ts : List Task} (ends : Ends e t outcome) (taken : s.table.take e.id = some (e, table))
      (books : s'.books = { s.books with table, calls := t.arrivalMarks ++ s.books.calls })
      (others : ∀ t' ∈ ts, t'.isAside = true) :
      Effect s t s' (.complete e.id e.callback outcome :: ts)
  | counted {a : Arrival} {tally : Tally} {s' : State σ}
      (more : tally.total = s.tally.total + 1) (line : ∀ reason, a ≠ .ended reason)
      (books : s'.books = { s.books with tally, calls := .arrived a :: s.books.calls }) :
      Effect s (.arrive a) s' []
  | swept {now : Nat} {s' : State σ}
      (books : s'.books = { s.books with table := (s.table.splitOverdue now).2 }) :
      Effect s (.sweep now) s' ((s.table.splitOverdue now).1.map .timeOut ++
        [.endSweep (s.table.splitOverdue now).1.length])
  | timedOut {e : Entry} {s' : State σ} (books : s'.books = s.books) :
      Effect s (.timeOut e) s' [.complete e.id e.callback (.error e.timeoutFailure)]
  | drained {t : Task} {reason : String} {s' : State σ} {ts : List Task}
      (closes : Closes s t reason)
      (books : s'.books = { s.books with
        table := (s.table.close reason).2
        calls := t.arrivalMarks ++ s.books.calls })
      (others : ∀ t' ∈ ts, t'.isAside = true) :
      Effect s t s'
        (s.table.entries.map (fun e => .complete e.id e.callback (.error (.closed reason))) ++ ts)
  | completed {id : Int} {callback : Callback} {outcome : Outcome} {s' : State σ} {ts : List Task}
      (books : s'.books = { s.books with calls := .completed id outcome :: s.books.calls })
      (others : ∀ t' ∈ ts, t'.isAside = true) : Effect s (.complete id callback outcome) s' ts
  | reopened {s' : State σ} (books : s'.books = { s.books with table := s.table.reopen }) :
      Effect s (.reopen none) s' [.answer .done]

namespace State

/-! ### The steps, one by one -/

theorem effect_dispatch {s s' : State σ} {method : String} {params : Value} {callback : Callback}
    {ts : List Task} (h : s.dispatch method params callback = some (s', ts)) :
    Effect s (.dispatch method params callback) s' ts := by
  obtain ⟨s₁, hs₁, hcases⟩ := dispatch_cases h
  have hbooks : s₁.books = s.books := by rcases hs₁ with rfl | rfl <;> rfl
  rcases hcases with ⟨rfl, rfl⟩ | ⟨rfl, reason, rfl⟩ | ⟨-, rfl, event, rfl⟩
  · exact .aside hbooks rfl (by simp [Task.isAside])
  · exact .aside hbooks rfl fun _ => callback.isAside_of_mem_refusal
  · exact .aside (hbooks ▸ by simp [books]) rfl (by simp [Task.isAside])

theorem effect_proceed (s : State σ) (begun : Nat) (method : String) (params : Value)
    (callback : Callback) :
    Effect s (.proceed begun method params callback) (s.proceed begun method params callback).1
      (s.proceed begun method params callback).2 := by
  unfold proceed
  split
  · exact .aside rfl rfl fun _ => callback.isAside_of_mem_refusal
  · exact .aside rfl rfl (by simp [Task.isAside])

theorem effect_register [Transport σ] (s : State σ) (begun : Nat) (method : String) (params : Value)
    (callback : Callback) :
    Effect s (.register begun method params callback) (s.register begun method params callback).1
      (s.register begun method params callback).2 := by
  rcases s.register_cases begun method params callback with
    ⟨reason, heq⟩ | ⟨id, table, clock, marks, arrivals, failure, hregister, hmarks, heq⟩
  · rw [heq]
    exact .aside rfl rfl fun _ => callback.isAside_of_mem_refusal
  · rw [heq]
    exact .opened hregister (by simp [books, Journal.calls_append hmarks])

theorem effect_settle (s : State σ) (id : Int) (method : String)
    (failure : Option TransportFailure) :
    Effect s (.settle id method failure) (s.settle id method failure).1
      (s.settle id method failure).2 := by
  unfold settle
  split
  · exact .accepted (.inl rfl) (by simp [books])
  · simp only
    split
    · rename_i e table h
      exact .withdrew h (by simp [books, refuse])
    · rename_i h
      exact .accepted (.inr h) (by simp [books])

theorem effect_cancel (s : State σ) (id : Int) :
    Effect s (.cancel id) (s.cancel id).1 (s.cancel id).2 := by
  unfold cancel
  simp only
  split
  · rename_i e table h
    obtain ⟨-, rfl, -⟩ := Table.take_eq_some h
    exact .took .cancel h (by simp [books, Task.arrivalMarks]) (by simp [Task.isAside])
  · exact .aside (by simp [books]) rfl (by simp [Task.isAside])

theorem effect_abandon (s : State σ) (id : Int) :
    Effect s (.abandon id) (s.abandon id).1 (s.abandon id).2 := by
  unfold abandon
  simp only
  split
  · rename_i e table h
    obtain ⟨-, rfl, -⟩ := Table.take_eq_some h
    exact .took .abandon h (by simp [books, Task.arrivalMarks])
      (by simp [Task.isAside])
  · exact .aside (by simp [books]) rfl (by simp [Task.isAside])

theorem effect_expire (s : State σ) (id : Int) (deadline : Nat) :
    Effect s (.expire id deadline) (s.expire id deadline).1 (s.expire id deadline).2 := by
  unfold expire
  simp only
  split
  · rename_i e table h
    obtain ⟨-, rfl, -⟩ := Table.take_eq_some h
    exact .took (.expire deadline) h (by simp [books, Task.arrivalMarks]) (by simp)
  · exact .aside (by simp [books]) rfl (by simp)

theorem effect_replace (s : State σ) : Effect s .replace s.replace.1 s.replace.2 := by
  unfold replace
  split
  · exact .aside rfl rfl (by simp [Task.isAside])
  · rename_i h
    obtain ⟨marks, hmarks, heq⟩ :=
      (s.trace .info "restarting generator" []).closeTable_spec "generator restarting"
    simp only [heq]
    exact .drained (.replace (by simpa using h))
      (by simp [books, Journal.calls_append hmarks, Task.arrivalMarks]) (by simp [Task.isAside])

theorem effect_close (s : State σ) : Effect s .close s.close.1 s.close.2 := by
  unfold close
  split
  · exact .aside rfl rfl (by simp [Task.isAside])
  · rename_i h
    have key : ∀ s₁ : State σ, s₁.books = s.books →
        Effect s .close (s₁.closeTable clientClosed).1
          ((s₁.closeTable clientClosed).2 ++ [.closeTransport, .answer .done]) := by
      intro s₁ hbooks
      obtain ⟨marks, hmarks, heq⟩ := s₁.closeTable_spec clientClosed
      have htable : s₁.table = s.table := congrArg Books.table hbooks
      have htally : s₁.tally = s.tally := congrArg Books.tally hbooks
      have hcalls : s₁.journal.calls = s.journal.calls := congrArg Books.calls hbooks
      rw [heq, htable]
      exact .drained (.close (by simpa using h))
        (by simp [books, Journal.calls_append hmarks, htally, hcalls, Task.arrivalMarks])
        (by simp [Task.isAside])
    obtain ⟨events, heq⟩ := State.stopWatching_spec ({ s with shut := true }.note .shut)
    exact key _ (by rw [heq]; simp [books])

/-! ### Arrivals and callbacks -/

theorem effect_arrive [Transport σ] (s : State σ) (a : Arrival) :
    Effect s (.arrive a) (s.arrive a).1 (s.arrive a).2 := by
  rcases s.arrive_cases a with ⟨text, e, table, payload, event, rfl, hparse, htake, heq⟩ |
    ⟨tally, marks, hline, hmore, hmarks, heq⟩ | ⟨reason, marks, rfl, hmarks, heq⟩
  · rw [heq]
    exact .took (.response hparse) htake (by simp [books, Task.arrivalMarks]) (by simp)
  · rw [heq]
    exact .counted hmore hline (by simp [books, Journal.calls_append hmarks])
  · rw [heq, ← List.append_nil (List.map _ _)]
    exact .drained (.ended reason)
      (by simp [books, Journal.calls_append hmarks, Task.arrivalMarks]) (by simp)

theorem effect_complete (s : State σ) (id : Int) (callback : Callback) (outcome : Outcome) :
    Effect s (.complete id callback outcome) (s.complete id callback outcome).1
      (s.complete id callback outcome).2 := by
  cases callback with
  | mailbox => exact .completed (by simp [complete, books]) (by simp [complete])
  | script label actions owner =>
    exact .completed (by simp [complete, books]) (by simp [complete, Task.isAside])

theorem effect_script (s : State σ) (label : String) (outcome : Outcome) (actions : List Action)
    (replies : List Reply) (owner : Bool) :
    Effect s (.script label outcome actions replies owner)
      (s.script label outcome actions replies owner).1
      (s.script label outcome actions replies owner).2 := by
  unfold script
  split
  · rename_i a rest
    split
    · exact .aside (by simp [books]) rfl (by simp)
    · refine .aside rfl rfl fun u hu => ?_
      rcases List.mem_cons.mp hu with rfl | hu
      · exact Task.isAside_of_isFree a.isFree_task
      · rw [List.mem_singleton.mp hu]
        rfl
  · split
    · exact .aside rfl rfl (by simp [Task.isAside])
    · exact .aside (by simp [books]) rfl (by simp)

theorem effect_await [Transport σ] (s : State σ) (id : Int) (limit : Option Nat) :
    Effect s (.await id limit) (s.await id limit).1 (s.await id limit).2 := by
  rcases s.await_cases id limit with
    ⟨transport, clock, tasks, -, hfree, heq⟩ | ⟨deadline, -, heq⟩
  · rw [heq]
    exact .aside rfl rfl fun u hu => Task.isAside_of_isFree (hfree u hu)
  · rw [heq]
    exact .aside rfl rfl (by simp [Task.isAside])

theorem books_take (s : State σ) (id : Int) : (s.take id).books = s.books := by
  unfold take
  split
  · rfl
  · split
    · rfl
    · split <;> rfl

end State

/-! ### All steps -/

theorem Effect.of_some {s s' : State σ} {t : Task} {ts : List Task} {result : State σ × List Task}
    (h : some result = some (s', ts)) (effect : Effect s t result.1 result.2) :
    Effect s t s' ts := by
  obtain rfl := Option.some.inj h
  exact effect

theorem State.effect_launch [Transport σ] (s : State σ) :
    Effect s .launch s.launch.1 s.launch.2 := by
  refine .aside (by simp [launch, books]) rfl fun u hu => ?_
  rcases List.mem_append.mp hu with hu | hu
  · exact isAside_of_mem_arrivals hu
  · rw [List.mem_singleton.mp hu]
    rfl

theorem State.effect_reopen (s : State σ) (failure : Option TransportFailure) :
    Effect s (.reopen failure) (s.reopen failure).1 (s.reopen failure).2 := by
  cases failure with
  | some failure => exact .aside rfl rfl (by simp [reopen, Task.isAside])
  | none => exact .reopened (by simp [reopen, books])

theorem State.effect_closeTransport [Transport σ] (s : State σ) :
    Effect s .closeTransport s.closeTransport.1 s.closeTransport.2 :=
  .aside (by simp [closeTransport, books]) rfl fun _ => isAside_of_mem_arrivals

theorem State.effect_release (s : State σ) : Effect s .release s.release.1 s.release.2 := by
  refine .aside rfl rfl fun u hu => ?_
  unfold release at hu
  split at hu
  · rw [List.mem_singleton.mp hu]
    rfl
  · cases hu

theorem State.effect_endSweep (s : State σ) (count : Nat) :
    Effect s (.endSweep count) (s.endSweep count).1 (s.endSweep count).2 := by
  refine .aside ?_ rfl (by simp [endSweep])
  unfold endSweep
  simp only
  split
  · rfl
  · simp [books]

theorem State.effect_sweep (s : State σ) (now : Nat) :
    Effect s (.sweep now) (s.sweep now).1 (s.sweep now).2 := by
  rcases s.sweep_cases now with ⟨-, heq⟩ | ⟨-, heq⟩
  · rw [heq]
    exact .swept (by simp [books])
  · rw [heq]
    exact .aside rfl rfl (by simp)

/-- **Every step has one of these effects.** -/
theorem effect_of_step [Transport σ] {s s' : State σ} {t : Task} {ts : List Task}
    (h : s.step t = some (s', ts)) : Effect s t s' ts := by
  cases t with
  | dispatch method params callback => exact State.effect_dispatch h
  | restart =>
    simp only [State.step, State.restart] at h
    split at h
    · cases h
    · exact .of_some h (.aside rfl rfl (by simp [Task.isAside]))
  | proceed begun method params callback =>
    exact .of_some h (s.effect_proceed begun method params callback)
  | register begun method params callback =>
    exact .of_some h (s.effect_register begun method params callback)
  | settle id method failure => exact .of_some h (s.effect_settle id method failure)
  | cancel id => exact .of_some h (s.effect_cancel id)
  | replace => exact .of_some h s.effect_replace
  | launch => exact .of_some h s.effect_launch
  | reopen failure => exact .of_some h (s.effect_reopen failure)
  | close => exact .of_some h s.effect_close
  | closeTransport => exact .of_some h s.effect_closeTransport
  | arrive a => exact .of_some h (s.effect_arrive a)
  | complete id callback outcome => exact .of_some h (s.effect_complete id callback outcome)
  | script label outcome actions replies owner =>
    exact .of_some h (s.effect_script label outcome actions replies owner)
  | release => exact .of_some h s.effect_release
  | sweep now => exact .of_some h (s.effect_sweep now)
  | timeOut e => exact .of_some h (.timedOut (by simp [State.timeOut, State.books]))
  | endSweep count => exact .of_some h (s.effect_endSweep count)
  | abandon id => exact .of_some h (s.effect_abandon id)
  | await id limit => exact .of_some h (s.effect_await id limit)
  | expire id deadline => exact .of_some h (s.effect_expire id deadline)
  | take id => exact .of_some h (.aside (s.books_take id) rfl (by simp))
  | unlock | collect | answer | countPending | forget =>
    exact .of_some h (.aside rfl rfl (by simp [Task.isAside]))

end Switchboard.Client
