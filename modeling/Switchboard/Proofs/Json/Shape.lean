import Mathlib.Order.Lattice
import Switchboard.Proofs.Json.Members

/-!
# The shape of documents

How deep a document nests, which numbers stand in it, and how it reads once its records are brought
into order: all three are folds, `Value.fold`, so that each has one equation for lists and one for
records. `Value.Ordered` says of a document that its records are in order already.
-/

namespace Switchboard.Json

namespace Value

/-- An induction over documents: lists by their items, records by the values of their members. -/
@[elab_as_elim, induction_eliminator]
theorem induct {motive : Value → Prop} (null : motive .null) (bool : ∀ b, motive (.bool b))
    (number : ∀ n, motive (.number n)) (string : ∀ s, motive (.string s))
    (array : ∀ items : List Value, (∀ v ∈ items, motive v) → motive (.array items))
    (object : ∀ members : Members, (∀ m ∈ members, motive m.2) → motive (.object members))
    (v : Value) : motive v :=
  @Value.rec motive (fun items => ∀ v ∈ items, motive v) (fun members => ∀ m ∈ members, motive m.2)
    (fun m => motive m.2) null bool number string array object (List.forall_mem_nil _)
    (fun _ _ head tail => List.forall_mem_cons.mpr ⟨head, tail⟩) (List.forall_mem_nil _)
    (fun _ _ head tail => List.forall_mem_cons.mpr ⟨head, tail⟩) (fun _ _ value => value) v

mutual

/-- What a document comes to, from its innermost parts outwards. -/
def fold {α : Type} (scalar : Value → α) (list : List α → α) (record : List (String × α) → α) :
    Value → α
  | .array items => list (foldItems scalar list record items)
  | .object members => record (foldMembers scalar list record members)
  | v => scalar v

def foldItems {α : Type} (scalar : Value → α) (list : List α → α)
    (record : List (String × α) → α) : List Value → List α
  | [] => []
  | v :: items => fold scalar list record v :: foldItems scalar list record items

def foldMembers {α : Type} (scalar : Value → α) (list : List α → α)
    (record : List (String × α) → α) : List (String × Value) → List (String × α)
  | [] => []
  | m :: members => foldMember scalar list record m :: foldMembers scalar list record members

def foldMember {α : Type} (scalar : Value → α) (list : List α → α)
    (record : List (String × α) → α) : String × Value → String × α
  | (k, v) => (k, fold scalar list record v)

end

variable {α : Type} (scalar : Value → α) (list : List α → α) (record : List (String × α) → α)

theorem fold_array (items : List Value) :
    fold scalar list record (.array items) = list (items.map (fold scalar list record)) := by
  have all : foldItems scalar list record items = items.map (fold scalar list record) := by
    induction items with
    | nil => rfl
    | cons v items ih => rw [foldItems, ih, List.map_cons]
  rw [fold, all]

theorem fold_object (members : Members) :
    fold scalar list record (.object members) =
      record (members.map fun m => (m.1, fold scalar list record m.2)) := by
  have all : foldMembers scalar list record members =
      members.map fun m => (m.1, fold scalar list record m.2) := by
    induction members with
    | nil => rfl
    | cons m members ih => rw [foldMembers, foldMember, ih, List.map_cons]
  rw [fold, all]

def depth : Value → Nat :=
  fold (fun _ => 0) (fun inner => inner.foldr max 0 + 1)
    (fun inner => (inner.map Prod.snd).foldr max 0 + 1)

def numbers : Value → List Number :=
  fold (fun | .number n => [n] | _ => []) List.flatten (fun inner => (inner.map Prod.snd).flatten)

/-- A document with its records as they are read: the names ascend, and under each the last value
is kept. -/
def ordered : Value → Value :=
  fold id .array (fun members => .object (Members.ofList members))

theorem foldr_max_le {ns : List Nat} {n : Nat} : ns.foldr max 0 ≤ n ↔ ∀ k ∈ ns, k ≤ n := by
  induction ns with
  | nil => simp
  | cons k ns ih => rw [List.foldr_cons, max_le_iff, ih, List.forall_mem_cons]

theorem depth_array_le {items : List Value} {n : Nat} :
    (Value.array items).depth ≤ n + 1 ↔ ∀ v ∈ items, v.depth ≤ n := by
  rw [depth, fold_array, Nat.add_le_add_iff_right, foldr_max_le, List.forall_mem_map]

theorem depth_object_le {members : Members} {n : Nat} :
    (Value.object members).depth ≤ n + 1 ↔ ∀ m ∈ members, m.2.depth ≤ n := by
  rw [depth, fold_object, Nat.add_le_add_iff_right, foldr_max_le, List.map_map,
    List.forall_mem_map]
  rfl

theorem depth_pos_of_array (items : List Value) : 0 < (Value.array items).depth := by
  rw [depth, fold_array]
  exact Nat.succ_pos _

theorem depth_pos_of_object (members : Members) : 0 < (Value.object members).depth := by
  rw [depth, fold_object]
  exact Nat.succ_pos _

theorem mem_numbers_array {items : List Value} {n : Number} :
    n ∈ (Value.array items).numbers ↔ ∃ v ∈ items, n ∈ v.numbers := by
  simp [numbers, fold_array]

theorem mem_numbers_object {members : Members} {n : Number} :
    n ∈ (Value.object members).numbers ↔ ∃ m ∈ members, n ∈ m.2.numbers := by
  simp [numbers, fold_object]

theorem ordered_array (items : List Value) :
    (Value.array items).ordered = .array (items.map ordered) := by
  rw [ordered, fold_array]

theorem ordered_object (members : Members) :
    (Value.object members).ordered =
      .object (Members.ofList (members.map fun m => (m.1, m.2.ordered))) := by
  rw [ordered, fold_object]

/-- The records of a document, and those within, have ascending names. -/
inductive Ordered : Value → Prop where
  | null : Ordered .null
  | bool (b : Bool) : Ordered (.bool b)
  | number (n : Number) : Ordered (.number n)
  | string (s : String) : Ordered (.string s)
  | array {items : List Value} (inner : ∀ v ∈ items, Ordered v) : Ordered (.array items)
  | object {members : Members} (ascending : members.Ascending)
      (inner : ∀ m ∈ members, Ordered m.2) : Ordered (.object members)

theorem Ordered.ordered_eq {v : Value} (h : v.Ordered) : v.ordered = v := by
  induction h with
  | null => rfl
  | bool b => rfl
  | number n => rfl
  | string s => rfl
  | array inner ih =>
    rw [ordered_array, List.map_congr_left ih, List.map_id']
  | object ascending inner ih =>
    have same := List.map_congr_left fun m hm => congrArg (Prod.mk m.1) (ih m hm)
    rw [ordered_object, same, List.map_id', Members.ofList_of_ascending ascending]

end Value

end Switchboard.Json
