import Switchboard.Proofs.Json.Shape
import Switchboard.Proofs.Json.Tokens

/-!
# What is written is in the grammar

The characters that `Value.chars` gives for a document whose numbers are integers of 64 bits spell
that document, with its records in order, and none of them is a control character.
-/

namespace Switchboard.Json

/-! ### Texts -/

theorem hexWord?_hexDigit : ∀ n < 32,
    hexWord? '0' '0' (hexDigit (n / 16)) (hexDigit (n % 16)) = some n := by decide

theorem spellsChar_escapeChar (c : Char) : SpellsChar c (escapeChar c) := by
  unfold escapeChar
  split_ifs with quote backslash line ret tab back feed control
  iterate 7
    · subst c
      exact .letter (by decide)
  · exact .code (hexWord?_eq_some_iff.mp (hexWord?_hexDigit c.toNat control))
  · exact .plain (by omega) quote backslash

theorem spellsText_escape (cs : List Char) : SpellsText cs (escape cs) := by
  induction cs with
  | nil => exact .nil
  | cons c cs ih => exact .cons (spellsChar_escapeChar c) ih

theorem spellsString_quoted (s : String) : SpellsString s (quoted s) :=
  ⟨escape s.toList, spellsText_escape s.toList, rfl⟩

/-! ### Integers -/

def decimal (i : Int) : Numeral where
  negative := i < 0
  whole := Nat.toDigits 10 i.natAbs
  fraction := []
  exponent := none

theorem wholeDigits_toDigits (n : Nat) : WholeDigits (Nat.toDigits 10 n) where
  digits := digits_iff.mpr fun _ h =>
    Nat.isDigit_of_mem_toDigits (by decide) (by decide) h
  some_digit := Nat.toDigits_ne_nil
  zero_alone := by
    induction n using Nat.strong_induction_on with
    | h n ih =>
      by_cases single : n < 10
      · rw [Nat.toDigits_of_lt_base single, List.head?_cons, Option.some.injEq]
        exact fun h => by rw [h]
      · -- A number with several digits does not start with a zero, else it would be its last digit.
        rw [Nat.toDigits_of_base_le (by decide) (by omega),
          List.head?_append_of_ne_nil _ Nat.toDigits_ne_nil]
        intro zero
        have front := congrArg (Nat.ofDigitChars 10 · 0) (ih (n / 10) (by omega) zero)
        simp only [Nat.ofDigitChars_ten_toDigits] at front
        have : n / 10 = 0 := front
        omega

theorem spellsNumeral_decimal (i : Int) : SpellsNumeral (decimal i) (intChars i) := by
  have whole := wholeDigits_toDigits i.natAbs
  unfold intChars decimal
  split
  · next negative =>
    simpa using SpellsNumeral.parts (.inl ⟨rfl, by simpa using negative⟩) whole .none .none
  · next negative =>
    simpa using SpellsNumeral.parts (.inr ⟨rfl, by simpa using negative⟩) whole .none .none

theorem integer_decimal (i : Int) : (decimal i).integer = i := by
  simp only [Numeral.integer, decimal, Nat.ofDigitChars_ten_toDigits, decide_eq_true_eq]
  split_ifs <;> omega

theorem stands_decimal {i : Int} (low : minInt64 ≤ i) (high : i ≤ maxWord64) :
    Stands (decimal i) (.int i) := by
  have whole := integer_decimal i
  have notMinusZero (h : (decimal i).negative) : (decimal i).integer ≠ 0 := by
    have negative : i < 0 := of_decide_eq_true h
    omega
  have exact := Stands.exact rfl rfl (whole.symm ▸ low) (whole.symm ▸ high) notMinusZero
  rwa [whole] at exact

/-! ### Documents -/

/-- An integer that fits 64 bits, with or without a sign. -/
def Number.Exact (n : Number) : Prop := ∃ i, n = .int i ∧ minInt64 ≤ i ∧ i ≤ maxWord64

def joined {α : Type} (chars : α → List Char) : List α → List Char
  | [] => []
  | a :: as => chars a ++ as.flatMap fun b => ',' :: chars b

theorem itemsChars_eq (items : List Value) : itemsChars items = joined Value.chars items := by
  have more (items : List Value) :
      moreItemsChars items = items.flatMap fun v => ',' :: v.chars := by
    induction items with
    | nil => rfl
    | cons v items ih => rw [moreItemsChars, ih, List.flatMap_cons]
  cases items with
  | nil => rfl
  | cons v items => rw [itemsChars, more, joined]

theorem membersChars_eq (members : Members) :
    membersChars members = joined memberChars members := by
  have more (members : Members) :
      moreMembersChars members = members.flatMap fun m => ',' :: memberChars m := by
    induction members with
    | nil => rfl
    | cons m members ih => rw [moreMembersChars, ih, List.flatMap_cons]
  cases members with
  | nil => rfl
  | cons m members => rw [membersChars, more, joined]

section Joined

variable {α β : Type} {Part : β → List Char → Prop} {chars : α → List Char} {f : α → β}

theorem further_flatMap {as : List α} (h : ∀ a ∈ as, Part (f a) (chars a)) :
    Further Part (as.map f) (as.flatMap fun a => ',' :: chars a) := by
  induction as with
  | nil => exact .none Blanks.nil
  | cons a as ih =>
    obtain ⟨first, others⟩ := List.forall_mem_cons.mp h
    simpa using Further.next Blanks.nil Blanks.nil first (ih others)

theorem separated_joined {as : List α} (h : ∀ a ∈ as, Part (f a) (chars a)) :
    Separated Part (as.map f) (joined chars as) := by
  cases as with
  | nil => exact .none Blanks.nil
  | cons a as =>
    obtain ⟨first, others⟩ := List.forall_mem_cons.mp h
    simpa [joined] using Separated.some Blanks.nil first (further_flatMap others)

end Joined

theorem spellsMember_memberChars {depth : Nat} {m : String × Value} {v : Value}
    (h : Spells depth v m.2.chars) : SpellsMember (Spells depth) (m.1, v) (memberChars m) := by
  obtain ⟨k, w⟩ := m
  simpa [memberChars] using SpellsMember.named (spellsString_quoted k) Blanks.nil Blanks.nil h

theorem Spells.of_scalar {depth : Nat} {v : Value} {cs : List Char} (h : SpellsScalar v cs) :
    Spells depth v cs := by
  cases depth with
  | zero => exact h
  | succ depth => exact .inl h

theorem spells_chars {v : Value} {depth : Nat} (exact : ∀ n ∈ v.numbers, n.Exact)
    (nested : v.depth ≤ depth) : Spells depth v.ordered v.chars := by
  induction v generalizing depth with
  | null => exact .of_scalar .null
  | bool b =>
    cases b with
    | true => exact .of_scalar .bool_true
    | false => exact .of_scalar .bool_false
  | number n =>
    obtain ⟨i, rfl, low, high⟩ := exact n (by simp [Value.numbers, Value.fold])
    exact .of_scalar (.number (spellsNumeral_decimal i) (stands_decimal low high))
  | string s => exact .of_scalar (.string (spellsString_quoted s))
  | array items ih =>
    obtain ⟨depth, rfl⟩ := Nat.exists_eq_succ_of_ne_zero
      (lt_of_lt_of_le (Value.depth_pos_of_array items) nested).ne'
    have nested := Value.depth_array_le.mp nested
    rw [Value.ordered_array, Value.chars, itemsChars_eq]
    exact .inr (.array (separated_joined fun v hv =>
      ih v hv (fun n hn => exact n (Value.mem_numbers_array.mpr ⟨v, hv, hn⟩)) (nested v hv)))
  | object members ih =>
    obtain ⟨depth, rfl⟩ := Nat.exists_eq_succ_of_ne_zero
      (lt_of_lt_of_le (Value.depth_pos_of_object members) nested).ne'
    have nested := Value.depth_object_le.mp nested
    rw [Value.ordered_object, Value.chars, membersChars_eq]
    exact .inr (.object (separated_joined fun m hm => spellsMember_memberChars
      (ih m hm (fun n hn => exact n (Value.mem_numbers_object.mpr ⟨m, hm, hn⟩)) (nested m hm))))

/-- The text of a document holds the document, with its records in order. -/
theorem document_render {v : Value} (exact : ∀ n ∈ v.numbers, n.Exact)
    (nested : v.depth ≤ maxDepth) : Document v.render v.ordered :=
  ⟨[], v.chars, [], Blanks.nil, spells_chars exact nested, Blanks.nil,
    by simp [Value.render]⟩

/-! ### Controls -/

def Printable (cs : List Char) : Prop := ∀ c ∈ cs, 32 ≤ c.toNat

@[simp]
theorem printable_nil : Printable [] := List.forall_mem_nil _

@[simp]
theorem printable_cons {c : Char} {cs : List Char} :
    Printable (c :: cs) ↔ 32 ≤ c.toNat ∧ Printable cs := List.forall_mem_cons

@[simp]
theorem printable_append {cs cs' : List Char} :
    Printable (cs ++ cs') ↔ Printable cs ∧ Printable cs' := List.forall_mem_append

theorem printable_hexDigit : ∀ n < 16, 32 ≤ (hexDigit n).toNat := by decide

theorem printable_escapeChar (c : Char) : Printable (escapeChar c) := by
  unfold escapeChar
  split_ifs with quote backslash line ret tab back feed control
  iterate 7 simp
  · have high := printable_hexDigit (c.toNat / 16) (by omega)
    have low := printable_hexDigit (c.toNat % 16) (by omega)
    simp [high, low]
  · simpa using control

theorem printable_quoted (s : String) : Printable (quoted s) := by
  have inner : Printable (escape s.toList) := fun c hc => by
    obtain ⟨x, -, hx⟩ := List.mem_flatMap.mp hc
    exact printable_escapeChar x c hx
  simp [quoted, inner]

theorem printable_intChars (i : Int) : Printable (intChars i) := by
  have digits : Printable (Nat.toDigits 10 i.natAbs) := fun c hc => by
    have digit := char_le_iff.mp ((wholeDigits_toDigits i.natAbs).digits c hc).1
    exact le_trans (by decide) digit
  unfold intChars
  split <;> simp [digits]

theorem printable_joined {α : Type} {chars : α → List Char} {as : List α}
    (h : ∀ a ∈ as, Printable (chars a)) : Printable (joined chars as) := by
  cases as with
  | nil => exact printable_nil
  | cons a as =>
    obtain ⟨first, others⟩ := List.forall_mem_cons.mp h
    refine printable_append.mpr ⟨first, fun c hc => ?_⟩
    obtain ⟨b, hb, hc⟩ := List.mem_flatMap.mp hc
    exact printable_cons.mpr ⟨by decide, others b hb⟩ c hc

theorem printable_memberChars {m : String × Value} (h : Printable m.2.chars) :
    Printable (memberChars m) := by
  obtain ⟨k, v⟩ := m
  simp only at h
  simp [memberChars, printable_quoted, h]

theorem printable_chars {v : Value} (exact : ∀ n ∈ v.numbers, n.Exact) : Printable v.chars := by
  induction v with
  | null => simp [Value.chars]
  | bool b => cases b <;> simp [Value.chars]
  | number n =>
    obtain ⟨i, rfl, -, -⟩ := exact n (by simp [Value.numbers, Value.fold])
    exact printable_intChars i
  | string s => exact printable_quoted s
  | array items ih =>
    have inner := printable_joined fun v hv =>
      ih v hv fun n hn => exact n (Value.mem_numbers_array.mpr ⟨v, hv, hn⟩)
    simp [Value.chars, itemsChars_eq, inner]
  | object members ih =>
    have inner := printable_joined fun m hm => printable_memberChars
      (ih m hm fun n hn => exact n (Value.mem_numbers_object.mpr ⟨m, hm, hn⟩))
    simp [Value.chars, membersChars_eq, inner]

end Switchboard.Json
