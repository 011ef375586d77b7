import Switchboard.Proofs.Client.Lines

/-!
# Retired ids

Ids are given out in ascending order, and only the next one ever enters the table
(`Table.Succeeds`). So an id whose call has left the table is retired for good, whatever ended the
call and however often the peer was replaced since. A response to a retired id, or to an id that was
not given out, finds no call: it is counted as unmatched and does nothing else.
-/

namespace Switchboard.Client

open Switchboard.Json

/-! ### The table after a step -/

namespace Table

/-- An id is retired if it was given out and its call is open no more. -/
def Retired (t : Table) (id : Int) : Prop := 1 ≤ id ∧ id < t.nextId ∧ id ∉ t.ids

/-- An id is unused if no call has had it so far. -/
def Unused (t : Table) (id : Int) : Prop := id < 1 ∨ t.nextId ≤ id

/-- What a table can become: the calls that it has gained have ids that were unused. -/
structure Succeeds (t' t : Table) : Prop where
  nextId_le : t.nextId ≤ t'.nextId
  mem_ids : ∀ id ∈ t'.ids, id ∈ t.ids ∨ t.nextId ≤ id

variable {t t' : Table}

theorem Succeeds.refl (t : Table) : t.Succeeds t := ⟨Int.le_refl _, fun _ => .inl⟩

theorem Succeeds.of_subset (nextId : t'.nextId = t.nextId) (entries : t'.entries ⊆ t.entries) :
    t'.Succeeds t := by
  refine ⟨Int.le_of_eq nextId.symm, fun id hid => .inl ?_⟩
  obtain ⟨e, he, rfl⟩ := Table.mem_ids.mp hid
  exact Table.mem_ids.mpr ⟨e, entries he, rfl⟩

theorem Succeeds.of_register {method : String} {createdAt : Nat} {timeout : Option Timespan}
    {callback : Callback} {id : Int}
    (h : t.register method createdAt timeout callback = .ok (id, t')) : t'.Succeeds t := by
  obtain ⟨-, rfl, rfl⟩ := register_eq_ok h
  refine ⟨Int.le_of_lt (Int.lt_succ _), fun id hid => ?_⟩
  obtain ⟨e, he, rfl⟩ := Table.mem_ids.mp hid
  rcases List.mem_append.mp he with he | he
  · exact .inl (Table.mem_ids.mpr ⟨e, he, rfl⟩)
  · rw [List.mem_singleton.mp he]
    exact .inr (Int.le_refl _)

theorem Succeeds.of_take {id : Int} {e : Entry} (h : t.take id = some (e, t')) : t'.Succeeds t := by
  obtain ⟨-, -, rfl⟩ := take_eq_some h
  exact .of_subset rfl (List.filter_subset_self _)

/-- **Retired ids stay retired** when the table changes. -/
theorem Succeeds.retired (h : t'.Succeeds t) {id : Int} (retired : t.Retired id) :
    t'.Retired id := by
  obtain ⟨hfirst, hnext, hout⟩ := retired
  refine ⟨hfirst, Int.lt_of_lt_of_le hnext h.nextId_le, fun hid => ?_⟩
  rcases h.mem_ids id hid with hold | hnew
  · exact hout hold
  · exact Int.not_le.mpr hnext hnew

end Table

variable {σ : Type}

theorem Effect.table_succeeds {s s' : State σ} {t : Task} {ts : List Task}
    (effect : Effect s t s' ts) : s'.table.Succeeds s.table := by
  have key : ∀ {table : Table}, s'.table = table → table.Succeeds s.table →
      s'.table.Succeeds s.table := by
    rintro _ rfl h
    exact h
  cases effect with
  | aside books | accepted _ books | counted _ _ books | timedOut books | completed books =>
    exact key (congrArg Books.table books) (.refl _)
  | opened registered books => exact key (congrArg Books.table books) (.of_register registered)
  | withdrew taken books | took _ taken books =>
    exact key (congrArg Books.table books) (.of_take taken)
  | swept books =>
    exact key (congrArg Books.table books) (.of_subset rfl (List.filter_subset_self _))
  | drained _ books => exact key (congrArg Books.table books) (.of_subset rfl (List.nil_subset _))
  | reopened books =>
    exact key (congrArg Books.table books) (.of_subset rfl (List.Subset.refl _))

variable [Transport σ]

theorem Machine.Follows.table_succeeds {m m' : Machine σ} (h : m.Follows m') :
    m'.state.table.Succeeds m.state.table := by
  cases h with
  | outer | part | resume => exact .refl _
  | step hs => exact (effect_of_step hs).table_succeeds
  | reorder hperm => exact .of_subset rfl hperm.subset

/-! ### Runs -/

theorem Run.run_of_mem {m m₀ : Machine σ} {past : List (Machine σ)} (run : Run (m :: past))
    (earlier : m₀ ∈ past) (n : Nat) : ∃ past', Run (m.run n :: past') ∧ m₀ ∈ past' :=
  Machine.run_invariant (P := fun m => ∃ past, Run (m :: past) ∧ m₀ ∈ past)
    (fun hstep ⟨_, run, h⟩ => ⟨_, .stepped run hstep, List.mem_cons_of_mem _ h⟩) n
    ⟨past, run, earlier⟩

theorem Run.perform_of_mem {s : State σ} {m₀ : Machine σ} {past : List (Machine σ)} {t : Task}
    (run : Run (⟨s, []⟩ :: past)) (h : t.isOperation s = true)
    (done : ((Machine.mk s [t]).run (Machine.mk s [t]).weight).agenda = []) (earlier : m₀ ∈ past) :
    ∃ past', Run (⟨s.perform [t], []⟩ :: past') ∧ m₀ ∈ past' := by
  obtain ⟨past', hrun, hmem⟩ := (run.begun_now h).run_of_mem (List.mem_cons_of_mem _ earlier)
    (Machine.mk s [t]).weight
  exact ⟨past', State.run_eq_perform done ▸ hrun, hmem⟩

theorem retired_onward {m m' : Machine σ} {past : List (Machine σ)} (run : Run (m' :: past))
    (earlier : m ∈ past) {id : Int} (retired : m.state.table.Retired id) :
    m'.state.table.Retired id := by
  obtain ⟨later, before, rfl⟩ := List.append_of_mem earlier
  exact run.onward (P := fun m => m.state.table.Retired id) retired
    fun _ _ _ _ _ hfollows h => hfollows.table_succeeds.retired h

theorem not_mem_ids_of_unused {m : Machine σ} {past : List (Machine σ)} (run : Run (m :: past))
    {id : Int} (unused : m.state.table.Unused id) : id ∉ m.state.table.ids := by
  have hbooked := (Accounts.isInvariant.holds run).booked id
  have hnone : ¬(1 ≤ id ∧ id < m.state.table.nextId) := by
    rcases unused with h | h <;> omega
  rw [Table.allotted, if_neg hnone, Books.booked] at hbooked
  refine List.count_eq_zero.mp ?_
  simp only [State.books] at hbooked
  omega

theorem State.hasEffect_unmatched {s : State σ} {line : String} {id : Int} {payload : Payload}
    (out : id ∉ s.table.ids) (h : Message.parse line = .ok (.response (some id) payload)) :
    s.HasEffect line .unmatched := by
  refine ⟨⟨some id, payload, h, fun i hi => ?_⟩, ?_⟩
  · rwa [← Option.some.inj hi]
  · have htake : s.table.take id = none := Table.take_eq_none_iff.mpr out
    simp only [OnlyCounts, arrive, receive, h, receiveResponse, note, Option.bind_some, htake]
    exact ⟨_, rfl⟩

/-- **A retired id is retired for good.** An id that was retired at any earlier moment of a run is
retired now, and an id that is unused belongs to no open call. So a line that answers a call with
such an id completes none, whoever sends it. It is counted as unmatched, and nothing else changes.
-/
theorem retired_ids_stay_retired {m' : Machine σ} {past : List (Machine σ)}
    (run : Run (m' :: past)) :
    (∀ m ∈ past, ∀ id, m.state.table.Retired id → m'.state.table.Retired id) ∧
    (∀ id, m'.state.table.Unused id → id ∉ m'.state.table.ids) ∧
    ∀ id, m'.state.table.Retired id ∨ m'.state.table.Unused id → ∀ line payload,
      Message.parse line = .ok (.response (some id) payload) →
      m'.state.HasEffect line .unmatched := by
  refine ⟨fun m hm id => retired_onward run hm, fun id => not_mem_ids_of_unused run,
    fun id hid line payload => State.hasEffect_unmatched ?_⟩
  rcases hid with hretired | hunused
  · exact hretired.2.2
  · exact not_mem_ids_of_unused run hunused

def responseTo (id : Int) : String :=
  "\x7b\"jsonrpc\":\"2.0\",\"id\":" ++ String.ofList (intChars id) ++ ",\"result\":null\x7d"

/-- A call is cancelled before the peer is replaced. When the next peer runs, a late answer to it is
unmatched like one with an id that no call has had. -/
theorem cancelled_call_is_retired :
    ∃ (m m' : Machine ScriptedPeer) (past : List (Machine ScriptedPeer)), Run (m' :: past) ∧
      m ∈ past ∧ m.state.table.Retired 1 ∧ m.state.transport.starts = 1 ∧
      m'.state.table.Retired 1 ∧ m'.state.transport.starts = 2 ∧ m'.state.table.nextId = 3 ∧
      m'.state.HasEffect (responseTo 1) .unmatched ∧
      m'.state.HasEffect (responseTo 0) .unmatched ∧
      m'.state.HasEffect (responseTo 3) .unmatched := by
  have connected : Run [⟨newClient .default (ScriptedPeer.idle [] none), []⟩] :=
    .connected (show connect .default (ScriptedPeer.idle [] none) = .ok _ from rfl)
  obtain ⟨past, run⟩ := connected.performEach
    [.dispatch "a" .null .mailbox, .dispatch "b" .null .mailbox, .cancel 1]
    ⟨rfl, rfl, rfl, rfl, rfl, rfl, trivial⟩
  obtain ⟨past', replaced, hearlier⟩ :=
    (run.begun_now (t := .restart) rfl).run_of_mem List.mem_cons_self 4
  obtain ⟨hstays, -, hunmatched⟩ := retired_ids_stay_retired replaced
  have hretired := hstays _ hearlier 1 ⟨by decide, by decide, by decide⟩
  exact ⟨_, _, past', replaced, hearlier, ⟨by decide, by decide, by decide⟩, rfl, hretired, rfl,
    rfl, hunmatched 1 (.inl hretired) _ _ rfl, hunmatched 0 (.inr (.inl (by decide))) _ _ rfl,
    hunmatched 3 (.inr (.inr (by decide))) _ _ rfl⟩

end Switchboard.Client
