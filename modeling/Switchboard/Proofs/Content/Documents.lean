import Switchboard.Content.Writer
import Switchboard.Proofs.Json.Reading
import Switchboard.Proofs.Json.Writing

/-!
# Written documents are read back

A session without doubles fails exactly when a failure stands in it, however deep, and then with the
first one. The document that it leaves otherwise has its records in order and holds no number but
integers of 64 bits (`HoldsPlain.writeAll`), so its text is read as that document again
(`IsPlain.parse_render`), if it does not nest too deep.
-/

namespace Switchboard.Content

open Switchboard.Json

/-! ### Sessions without doubles -/

/-- A datum that a text holds exactly: no double, and integers of 64 bits with a sign. -/
def Datum.IsExact : Datum → Prop
  | .int i => fitsInt64 i
  | .float _ => False
  | .string _ | .bool _ | .null | .strings _ => True

/-- A write whose data, and those within, are exact. -/
inductive Write.IsExact : Write → Prop where
  | value {key : Option String} {datum : Datum} (h : datum.IsExact) : IsExact (.value key datum)
  | object {key : Option String} {steps : List Write} (h : ∀ step ∈ steps, IsExact step) :
      IsExact (.object key steps)
  | fail (error : Error) : IsExact (.fail error)

mutual

/-- The failures that stand in a write, at any depth, in their order. -/
def Write.failures : Write → List Error
  | .value _ _ => []
  | .object _ steps => Write.allFailures steps
  | .fail error => [error]

def Write.allFailures : List Write → List Error
  | [] => []
  | step :: steps => step.failures ++ Write.allFailures steps

end

/-! ### Documents in order -/

/-- A document that a text holds as it is, if it does not nest too deep: its records are in order,
and its numbers are integers of 64 bits. -/
structure IsPlain (v : Value) : Prop where
  ordered : v.Ordered
  exact : ∀ n ∈ v.numbers, n.Exact

theorem IsPlain.array {items : List Value} (h : ∀ v ∈ items, IsPlain v) :
    IsPlain (.array items) where
  ordered := .array fun v hv => (h v hv).ordered
  exact n hn := by
    obtain ⟨v, hv, hn⟩ := Value.mem_numbers_array.mp hn
    exact (h v hv).exact n hn

theorem IsPlain.object {members : Members} (ascending : members.Ascending)
    (h : ∀ m ∈ members, IsPlain m.2) : IsPlain (.object members) where
  ordered := .object ascending fun m hm => (h m hm).ordered
  exact n hn := by
    obtain ⟨m, hm, hn⟩ := Value.mem_numbers_object.mp hn
    exact (h m hm).exact n hn

theorem IsPlain.parse_render {v : Value} (h : IsPlain v) (nested : v.depth ≤ maxDepth) :
    Value.parse v.render = .ok v := by
  have held := document_render h.exact nested
  rw [h.ordered.ordered_eq] at held
  exact Value.parse_eq_ok_iff.mpr held

namespace DocumentWriter

theorem exists_encode {datum : Datum} (h : datum.IsExact) :
    ∃ v, encode datum = .ok v ∧ IsPlain v := by
  have scalar {v : Value} (ordered : v.Ordered) (none : v.numbers = []) : IsPlain v :=
    ⟨ordered, by simp [none]⟩
  cases datum with
  | string s => exact ⟨_, rfl, scalar (.string s) rfl⟩
  | bool b => exact ⟨_, rfl, scalar (.bool b) rfl⟩
  | null => exact ⟨_, rfl, scalar .null rfl⟩
  | float x => exact h.elim
  | int i =>
    have fits : minInt64 ≤ i ∧ i ≤ maxInt64 := by simpa [Datum.IsExact, fitsInt64] using h
    refine ⟨_, rfl, .number _, fun n hn => ?_⟩
    obtain rfl : n = .int i := by simpa [Value.numbers, Value.fold] using hn
    exact ⟨i, rfl, fits.1, fits.2.trans (by decide)⟩
  | strings values =>
    refine ⟨_, rfl, .array fun v hv => ?_⟩
    obtain ⟨s, -, rfl⟩ := List.mem_map.mp hv
    exact scalar (.string s) rfl

/-- A writer whose document is plain, and stays so when something else is put. -/
structure HoldsPlain (w : DocumentWriter) : Prop where
  ascending : w.members.Ascending
  members : ∀ m ∈ w.members, IsPlain m.2
  root : ∀ v ∈ w.root, IsPlain v

theorem HoldsPlain.empty : empty.HoldsPlain := ⟨List.Pairwise.nil, List.forall_mem_nil _, nofun⟩

theorem HoldsPlain.document {w : DocumentWriter} (h : w.HoldsPlain) : IsPlain w.document := by
  unfold DocumentWriter.document
  cases root : w.root with
  | some v => exact h.root v root
  | none => exact .object h.ascending h.members

theorem HoldsPlain.put {w : DocumentWriter} (h : w.HoldsPlain) (key : Option String) {v : Value}
    (plain : IsPlain v) : (w.put key v).HoldsPlain := by
  cases key with
  | some name =>
    refine ⟨h.ascending.insert name v, fun m hm => ?_, h.root⟩
    obtain rfl | hm := Members.mem_insert hm
    · exact plain
    · exact h.members m hm
  | none => exact ⟨h.ascending, h.members, fun u hu => Option.some.inj hu ▸ plain⟩

/-! ### What a session comes to -/

/-- What a session leaves: it fails with the first of its failures, or leaves a plain document. -/
inductive Leaves : List Error → Except Error DocumentWriter → Prop where
  | failed (error : Error) (others : List Error) : Leaves (error :: others) (.error error)
  | done {w : DocumentWriter} (plain : w.HoldsPlain) : Leaves [] (.ok w)

mutual

theorem HoldsPlain.write {w : DocumentWriter} (h : w.HoldsPlain) :
    ∀ {step : Write}, step.IsExact → Leaves step.failures (w.write step)
  | .value key datum, .value exact => by
    obtain ⟨v, encoded, plain⟩ := exists_encode exact
    rw [DocumentWriter.write, encoded]
    exact .done (h.put key plain)
  | .object key steps, .object exact => by
    have nested := HoldsPlain.empty.writeAll exact
    rw [DocumentWriter.write, Write.failures]
    generalize Write.allFailures steps = failures, DocumentWriter.empty.writeAll steps = found
      at nested
    cases nested with
    | failed error others => exact .failed error others
    | done plain => exact .done (h.put key plain.document)
  | .fail error, _ => .failed error []

theorem HoldsPlain.writeAll {w : DocumentWriter} (h : w.HoldsPlain) :
    ∀ {steps : List Write}, (∀ step ∈ steps, step.IsExact) →
      Leaves (Write.allFailures steps) (w.writeAll steps)
  | [], _ => .done h
  | step :: steps, exact => by
    obtain ⟨first, others⟩ := List.forall_mem_cons.mp exact
    have one := h.write first
    rw [DocumentWriter.writeAll, Write.allFailures]
    generalize step.failures = failures, w.write step = found at one
    cases one with
    | failed error others => exact .failed error _
    | done plain => exact plain.writeAll others

end

end DocumentWriter

end Switchboard.Content
