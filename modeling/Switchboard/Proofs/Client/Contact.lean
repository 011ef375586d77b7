import Switchboard.Proofs.Client.Run

/-!
# What a step does outside

A client is connected to two things outside: its transport and those who hold it. `Contact` lists
what a step does with either. Only five tasks do anything with the transport, a line is sent only
while the table is open, and nothing but a release gives the client back.
-/

namespace Switchboard.Client

open Switchboard.Json

variable {σ : Type}

/-- The transport of a client and the number of its owners. -/
structure Outside (σ : Type) where
  transport : σ
  owners : Nat

def State.outside (s : State σ) : Outside σ := { transport := s.transport, owners := s.owners }

variable [Transport σ]

/-- What a task does outside. -/
inductive Contact (s : State σ) : Task → State σ → Prop where
  | none {t : Task} {s' : State σ} (outside : s'.outside = s.outside) : Contact s t s'
  | held {t : Task} {s' : State σ}
      (outside : s'.outside = { s.outside with owners := s.owners + 1 }) : Contact s t s'
  | released {s' : State σ} (outside : s'.outside = { s.outside with owners := s.owners - 1 }) :
      Contact s .release s'
  | sent {begun : Nat} {method : String} {params : Value} {callback : Callback} {id : Int}
      {s' : State σ} (opened : s.table.closed = .none)
      (outside : s'.outside = { s.outside with
        transport :=
          (Transport.send s.transport s.clock (Request.line { id, method, params })).1 }) :
      Contact s (.register begun method params callback) s'
  | restarted {s' : State σ}
      (outside : s'.outside = { s.outside with
        transport := (Transport.restart s.transport s.clock).1 }) : Contact s .launch s'
  | closed {s' : State σ}
      (outside : s'.outside = { s.outside with
        transport := (Transport.close s.transport s.clock).1 }) : Contact s .closeTransport s'
  | ended {reason : String} {s' : State σ}
      (outside : s'.outside = { s.outside with transport := Transport.ended s.transport }) :
      Contact s (.arrive (.ended reason)) s'
  | drifted {id : Int} {limit : Option Nat} {s' : State σ} {transport : σ}
      (drifts : Transport.Drifts s.clock s.transport transport)
      (outside : s'.outside = { s.outside with transport }) : Contact s (.await id limit) s'

/-! ### The steps, one by one -/

namespace State

omit [Transport σ] in
theorem outside_closeTable (s : State σ) (reason : String) :
    (s.closeTable reason).1.outside = s.outside := by
  obtain ⟨marks, -, heq⟩ := s.closeTable_spec reason
  rw [heq]
  rfl

theorem contact_dispatch {s s' : State σ} {method : String} {params : Value} {callback : Callback}
    {ts : List Task} (h : s.dispatch method params callback = some (s', ts)) :
    Contact s (.dispatch method params callback) s' := by
  obtain ⟨s₁, hs₁, hcases⟩ := dispatch_cases h
  have houtside : s'.outside = s₁.outside := by
    rcases hcases with ⟨rfl, -⟩ | ⟨rfl, -⟩ | ⟨-, -, event, rfl⟩ <;> rfl
  rcases hs₁ with rfl | rfl
  · exact .none houtside
  · exact .held houtside

theorem contact_register (s : State σ) (begun : Nat) (method : String) (params : Value)
    (callback : Callback) :
    Contact s (.register begun method params callback)
      (s.register begun method params callback).1 := by
  rcases s.register_cases begun method params callback with
    ⟨reason, heq⟩ | ⟨id, table, clock, marks, arrivals, failure, hregister, -, heq⟩
  · rw [heq]
    exact .none rfl
  · rw [heq]
    exact .sent (Table.register_eq_ok hregister).1 rfl

theorem contact_arrive (s : State σ) (a : Arrival) : Contact s (.arrive a) (s.arrive a).1 := by
  rcases s.arrive_cases a with ⟨text, e, table, payload, event, rfl, -, -, heq⟩ |
    ⟨tally, marks, -, -, -, heq⟩ | ⟨reason, marks, rfl, -, heq⟩
  · rw [heq]
    exact .none rfl
  · rw [heq]
    exact .none rfl
  · rw [heq]
    exact .ended rfl

theorem contact_script (s : State σ) (label : String) (outcome : Outcome) (actions : List Action)
    (replies : List Reply) (owner : Bool) :
    Contact s (.script label outcome actions replies owner)
      (s.script label outcome actions replies owner).1 := by
  cases actions with
  | nil =>
    simp only [script]
    split <;> exact .none rfl
  | cons a rest =>
    simp only [script]
    split
    · exact .none rfl
    · exact .held rfl

theorem contact_await (s : State σ) (id : Int) (limit : Option Nat) :
    Contact s (.await id limit) (s.await id limit).1 := by
  rcases s.await_cases id limit with
    ⟨transport, clock, tasks, hdrifts, -, heq⟩ | ⟨deadline, -, heq⟩
  · rw [heq]
    exact .drifted hdrifts rfl
  · rw [heq]
    exact .none rfl

end State

/-! ### All steps -/

theorem Contact.of_some {s s' : State σ} {t : Task} {ts : List Task}
    {result : State σ × List Task} (h : some result = some (s', ts))
    (contact : Contact s t result.1) : Contact s t s' := by
  obtain rfl := Option.some.inj h
  exact contact

/-- **Every step has one of these contacts.** -/
theorem contact_of_step {s s' : State σ} {t : Task} {ts : List Task}
    (h : s.step t = some (s', ts)) : Contact s t s' := by
  cases t with
  | dispatch method params callback => exact State.contact_dispatch h
  | restart =>
    simp only [State.step, State.restart] at h
    split at h
    · cases h
    · exact .of_some h (.none rfl)
  | proceed begun method params callback =>
    refine .of_some h (.none ?_)
    unfold State.proceed
    split <;> rfl
  | register begun method params callback =>
    exact .of_some h (s.contact_register begun method params callback)
  | settle id method failure =>
    refine .of_some h (.none ?_)
    unfold State.settle
    split
    · rfl
    · simp only
      split <;> rfl
  | replace =>
    refine .of_some h (.none ?_)
    unfold State.replace
    split
    · rfl
    · exact State.outside_closeTable _ _
  | launch => exact .of_some h (.restarted (by simp [State.launch, State.outside]))
  | reopen failure => exact .of_some h (.none (by cases failure <;> rfl))
  | close =>
    refine .of_some h (.none ?_)
    unfold State.close
    split
    · rfl
    · obtain ⟨events, heq⟩ := State.stopWatching_spec ({ s with shut := true }.note .shut)
      rw [State.outside_closeTable, heq]
      rfl
  | closeTransport => exact .of_some h (.closed (by simp [State.closeTransport, State.outside]))
  | arrive a => exact .of_some h (s.contact_arrive a)
  | complete id callback outcome => exact .of_some h (.none (by cases callback <;> rfl))
  | script label outcome actions replies owner =>
    exact .of_some h (s.contact_script label outcome actions replies owner)
  | release => exact .of_some h (.released rfl)
  | await id limit => exact .of_some h (s.contact_await id limit)
  | cancel id | abandon id | expire id deadline =>
    refine .of_some h (.none ?_)
    simp only [State.cancel, State.abandon, State.expire]
    split <;> rfl
  | endSweep count =>
    refine .of_some h (.none ?_)
    simp only [State.endSweep]
    split <;> rfl
  | take id =>
    refine .of_some h (.none ?_)
    unfold State.take
    split
    · rfl
    · split
      · rfl
      · split <;> rfl
  | sweep now =>
    refine .of_some h (.none ?_)
    rcases s.sweep_cases now with ⟨-, heq⟩ | ⟨-, heq⟩ <;>
    · rw [heq]
      rfl
  | unlock | collect | answer | countPending | timeOut | forget => exact .of_some h (.none rfl)

theorem Contact.owners_le {s s' : State σ} {t : Task} (h : Contact s t s') (ht : t ≠ .release) :
    s.owners ≤ s'.owners := by
  have key : ∀ {outside : Outside σ}, s'.outside = outside → s'.owners = outside.owners :=
    fun heq => congrArg Outside.owners heq
  cases h with
  | released => exact absurd rfl ht
  | held outside =>
    rw [key outside]
    exact Nat.le_succ _
  | none outside | sent _ outside | restarted outside | closed outside | ended outside
  | drifted _ outside =>
    rw [key outside]
    exact Nat.le_refl _

end Switchboard.Client
