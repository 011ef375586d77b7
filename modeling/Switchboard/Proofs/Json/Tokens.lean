import Mathlib.Data.List.TakeWhile
import Switchboard.Proofs.Json.Grammar

/-!
# The readers of tokens accept the grammar of tokens

For blanks, words, texts and numbers: what a reader takes off the front is a spelling of what it
gives, and a spelling is taken off as a whole. Only a number has to know what stands behind it.
-/

namespace Switchboard.Json

open Switchboard.Number

theorem bind_eq_ok {α β : Type} {read : Except Stop (α × List Char)}
    {next : α × List Char → Except Stop (β × List Char)} {b : β × List Char} :
    (read >>= next) = .ok b ↔ ∃ a rest, read = .ok (a, rest) ∧ next (a, rest) = .ok b := by
  cases read with
  | error stop => simp [bind, Except.bind]
  | ok found =>
    refine ⟨fun h => ⟨found.1, found.2, rfl, h⟩, ?_⟩
    rintro ⟨a, rest, he, h⟩
    cases he
    exact h

@[simp]
theorem ok_bind {α β : Type} (found : α × List Char)
    (next : α × List Char → Except Stop (β × List Char)) :
    (Except.ok found >>= next) = next found := rfl

/-! ### Blanks -/

theorem isSpace_iff {c : Char} : isSpace c ↔ c ∈ [' ', '\n', '\t', '\r'] := by
  simp [isSpace, or_assoc]

theorem Blanks.nil : Blanks [] := by simp [Blanks]

theorem Blanks.append {before after : List Char} (h : Blanks before) (h' : Blanks after) :
    Blanks (before ++ after) :=
  fun c hc => (List.mem_append.mp hc).elim (h c) (h' c)

theorem skipSpace_append {before : List Char} (h : Blanks before) (cs : List Char) :
    skipSpace (before ++ cs) = skipSpace cs :=
  List.dropWhile_append_of_pos fun c hc => isSpace_iff.mpr (h c hc)

theorem skipSpace_of_blanks {cs : List Char} (h : Blanks cs) : skipSpace cs = [] := by
  simpa [skipSpace] using skipSpace_append h []

theorem skipSpace_cons {c : Char} (h : isSpace c = false) (cs : List Char) :
    skipSpace (c :: cs) = c :: cs := by
  simp [skipSpace, h]

theorem skipSpace_append_cons {before : List Char} (h : Blanks before) {c : Char}
    (hc : isSpace c = false) (cs : List Char) : skipSpace (before ++ c :: cs) = c :: cs := by
  rw [skipSpace_append h, skipSpace_cons hc]

theorem exists_blanks (cs : List Char) : ∃ before, Blanks before ∧ cs = before ++ skipSpace cs :=
  ⟨cs.takeWhile isSpace, fun _ h => isSpace_iff.mp (List.mem_takeWhile_imp h),
    (List.takeWhile_append_dropWhile).symm⟩

theorem exists_blanks_of_skipSpace_eq {cs rest : List Char} (h : skipSpace cs = rest) :
    ∃ before, Blanks before ∧ cs = before ++ rest :=
  h ▸ exists_blanks cs

/-! ### Words -/

theorem eq_of_readWord {α : Type} {value a : α} {word cs rest : List Char}
    (h : readWord value word cs = .ok (a, rest)) : a = value ∧ cs = word ++ rest := by
  induction word generalizing cs with
  | nil =>
    simp only [readWord, Except.ok.injEq, Prod.mk.injEq] at h
    exact ⟨h.1.symm, by simp [h.2]⟩
  | cons w ws ih =>
    cases cs with
    | nil => simp [readWord] at h
    | cons c cs =>
      simp only [readWord] at h
      split at h
      · next hc =>
        obtain ⟨rfl, rfl⟩ := ih h
        exact ⟨rfl, by rw [hc, List.cons_append]⟩
      · cases h

/-! ### Texts -/

theorem simpleEscape?_eq_some_iff {c x : Char} :
    simpleEscape? c = some x ↔ (c, x) ∈ letterEscapes := by
  unfold simpleEscape? letterEscapes
  split <;> simp_all [eq_comm]

theorem hexValue?_digitChar : ∀ v < 16,
    hexValue? v.digitChar = some v ∧ hexValue? v.digitChar.toUpper = some v := by decide

theorem hexDigit_ofNat :
    (∀ n < 58, 48 ≤ n → HexDigit (Char.ofNat n) (n - 48)) ∧
    (∀ n < 103, 97 ≤ n → HexDigit (Char.ofNat n) (n - 87)) ∧
    (∀ n < 71, 65 ≤ n → HexDigit (Char.ofNat n) (n - 55)) := by
  unfold HexDigit
  decide

theorem char_le_iff {c d : Char} : c ≤ d ↔ c.toNat ≤ d.toNat := by
  rw [Char.le_def, UInt32.le_iff_toNat_le]
  rfl

theorem hexValue?_eq_some_iff {c : Char} {v : Nat} : hexValue? c = some v ↔ HexDigit c v := by
  constructor
  · intro h
    obtain ⟨digit, small, capital⟩ := hexDigit_ofNat
    simp only [hexValue?, char_le_iff, Char.reduceToNat] at h
    rw [← Char.ofNat_toNat c]
    split_ifs at h with inDigits inSmall inCapital <;> cases h
    · exact digit _ (by omega) inDigits.1
    · exact small _ (by omega) inSmall.1
    · exact capital _ (by omega) inCapital.1
  · rintro ⟨small, rfl | rfl⟩
    · exact (hexValue?_digitChar v small).1
    · exact (hexValue?_digitChar v small).2

theorem hexWord?_eq_some_iff {a b c d : Char} {n : Nat} :
    hexWord? a b c d = some n ↔ HexWord [a, b, c, d] n := by
  simp only [hexWord?, Option.bind_eq_bind, Option.bind_eq_some_iff, Option.pure_def,
    Option.some.injEq, hexValue?_eq_some_iff]
  constructor
  · rintro ⟨x, first, y, second, z, third, w, fourth, rfl⟩
    convert HexWord.digits first second third fourth using 1
    omega
  · rintro ⟨first, second, third, fourth⟩
    exact ⟨_, first, _, second, _, third, _, fourth, by omega⟩

theorem HexWord.lt {word : List Char} {n : Nat} (h : HexWord word n) : n < 16 ^ 4 := by
  obtain ⟨first, second, third, fourth⟩ := h
  have := first.1
  have := second.1
  have := third.1
  have := fourth.1
  omega

theorem HexWord.eq_four {word : List Char} {n : Nat} (h : HexWord word n) :
    ∃ a b c d, word = [a, b, c, d] ∧ hexWord? a b c d = some n := by
  obtain ⟨first, second, third, fourth⟩ := h
  exact ⟨_, _, _, _, rfl, hexWord?_eq_some_iff.mpr (.digits first second third fourth)⟩

theorem isLeading_iff {n : Nat} : isLeading n ↔ 0xD800 ≤ n ∧ n ≤ 0xDBFF := by
  simp [isLeading]

theorem isTrailing_iff {n : Nat} : isTrailing n ↔ 0xDC00 ≤ n ∧ n ≤ 0xDFFF := by
  simp [isTrailing]

theorem not_trailing_of_leading {n : Nat} (h : isLeading n) : ¬ isTrailing n := by
  rw [isLeading_iff] at h
  rw [isTrailing_iff]
  omega

theorem not_surrogate_toNat (c : Char) : ¬ isTrailing c.toNat ∧ ¬ isLeading c.toNat := by
  rw [isTrailing_iff, isLeading_iff]
  have : c.toNat < 0xD800 ∨ 0xDFFF < c.toNat := c.valid.imp id And.left
  omega

theorem toNat_ofNat {n : Nat} (h : n.isValidChar) : (Char.ofNat n).toNat = n := by
  rw [Char.ofNat, dif_pos h]
  rfl

theorem toNat_ofNat_of_hexWord {word : List Char} {n : Nat} (h : HexWord word n)
    (noTrailing : ¬ isTrailing n) (noLeading : ¬ isLeading n) : (Char.ofNat n).toNat = n := by
  rw [isTrailing_iff] at noTrailing
  rw [isLeading_iff] at noLeading
  have := h.lt
  exact toNat_ofNat (by simp only [Nat.isValidChar]; omega)

theorem toNat_joinSurrogates {high low : Nat} (leading : 0xD800 ≤ high ∧ high ≤ 0xDBFF)
    (trailing : 0xDC00 ≤ low ∧ low ≤ 0xDFFF) :
    (joinSurrogates high low).toNat = 0x10000 + (high - 0xD800) * 0x400 + (low - 0xDC00) := by
  rw [joinSurrogates, toNat_ofNat (by simp only [Nat.isValidChar]; omega)]
  omega

theorem readStringFrom_char {c : Char} {cs : List Char} (h : SpellsChar c cs)
    (acc rest : List Char) :
    readStringFrom acc (cs ++ rest) = readStringFrom (c :: acc) rest := by
  cases h with
  | plain printable noQuote noBackslash =>
    rw [List.singleton_append, readStringFrom]
    · rw [if_neg (by omega)]
    all_goals grind
  | @letter x c escape =>
    have escape := simpleEscape?_eq_some_iff.mpr escape
    have hu : x ≠ 'u' := by rintro rfl; simp [simpleEscape?] at escape
    rw [List.cons_append, List.singleton_append, readStringFrom]
    · rw [escape]
    all_goals grind
  | code number =>
    obtain ⟨noTrailing, noLeading⟩ := not_surrogate_toNat c
    obtain ⟨x, y, z, w, rfl, read⟩ := number.eq_four
    simp [readStringFrom, read, noTrailing, noLeading]
  | @surrogates _ _ _ high low leading trailing inLeading inTrailing joined =>
    rw [← toNat_joinSurrogates inLeading inTrailing, Char.toNat_inj] at joined
    rw [← isLeading_iff] at inLeading
    rw [← isTrailing_iff] at inTrailing
    obtain ⟨x, y, z, w, rfl, read⟩ := leading.eq_four
    obtain ⟨x', y', z', w', rfl, read'⟩ := trailing.eq_four
    simp [readStringFrom, read, read', not_trailing_of_leading inLeading, inLeading, inTrailing,
      joined]

theorem readStringFrom_append {text cs : List Char} (h : SpellsText text cs)
    (acc rest : List Char) :
    readStringFrom acc (cs ++ '"' :: rest) = .ok (acc.reverse ++ text, rest) := by
  induction h generalizing acc with
  | nil => simp [readStringFrom]
  | cons first others ih =>
    rw [List.append_assoc, readStringFrom_char first, ih]
    simp

theorem readString_append {s : String} {inner : List Char} (h : SpellsText s.toList inner)
    (rest : List Char) : readString (inner ++ '"' :: rest) = .ok (s, rest) := by
  simp [readString, readStringFrom_append h]

theorem spells_of_readStringFrom {acc cs text rest : List Char}
    (h : readStringFrom acc cs = .ok (text, rest)) :
    ∃ inner front, text = acc.reverse ++ inner ∧ SpellsText inner front ∧
      cs = front ++ '"' :: rest := by
  -- One more spelled character in front of what the rest of the run spells.
  have further {c : Char} {acc front cs : List Char} (first : SpellsChar c front)
      (ih : ∃ inner front, text = (c :: acc).reverse ++ inner ∧ SpellsText inner front ∧
        cs = front ++ '"' :: rest) :
      ∃ inner front', text = acc.reverse ++ inner ∧ SpellsText inner front' ∧
        front ++ cs = front' ++ '"' :: rest := by
    obtain ⟨inner, front', rfl, others, rfl⟩ := ih
    exact ⟨c :: inner, front ++ front', by simp, .cons first others, by simp⟩
  fun_induction readStringFrom acc cs with
  | case2 acc rest' =>
    simp only [Except.ok.injEq, Prod.mk.injEq] at h
    exact ⟨[], [], by simp [h.1], .nil, by simp [h.2]⟩
  | case7 acc a b c d high first _ leading e f g x rest low second trailing ih =>
    rw [isLeading_iff] at leading
    rw [isTrailing_iff] at trailing
    exact further (.surrogates (hexWord?_eq_some_iff.mp first) (hexWord?_eq_some_iff.mp second)
      leading trailing (toNat_joinSurrogates leading trailing)) (ih h)
  | case10 acc a b c d rest n word noTrailing noLeading ih =>
    have word := hexWord?_eq_some_iff.mp word
    have same := toNat_ofNat_of_hexWord word noTrailing noLeading
    exact further (.code (by rwa [same])) (ih h)
  | case12 acc c rest _ _ x escape ih =>
    exact further (.letter (simpleEscape?_eq_some_iff.mp escape)) (ih h)
  | case15 acc c rest noQuote noEnd _ _ noEscape printable ih =>
    have noBackslash : c ≠ '\\' := by
      rintro rfl
      cases rest with
      | nil => exact noEnd rfl rfl
      | cons x rest => exact noEscape x rest rfl rfl
    exact further (.plain (by omega) noQuote noBackslash) (ih h)
  | _ => cases h

theorem spells_of_readString {cs rest : List Char} {s : String}
    (h : readString cs = .ok (s, rest)) :
    ∃ inner, SpellsText s.toList inner ∧ cs = inner ++ '"' :: rest := by
  obtain ⟨text, rest', found, h⟩ := bind_eq_ok.mp h
  simp only [Except.ok.injEq, Prod.mk.injEq] at h
  obtain ⟨rfl, rfl⟩ := h
  obtain ⟨inner, front, rfl, spelled, rfl⟩ := spells_of_readStringFrom found
  exact ⟨front, by simpa using spelled, rfl⟩

/-! ### Numbers -/

theorem isDigit_iff {c : Char} : isDigit c ↔ '0' ≤ c ∧ c ≤ '9' := by
  simp [isDigit]

theorem digits_iff {ds : List Char} : Digits ds ↔ ∀ d ∈ ds, isDigit d := by
  simp only [Digits, isDigit_iff]

def continuesNumber (c : Char) : Bool := isDigit c || c == '.' || c == 'e' || c == 'E'

theorem continuesNumber_of_isSpace {c : Char} (h : isSpace c) : continuesNumber c = false := by
  simp only [isSpace, Bool.or_eq_true, beq_iff_eq] at h
  obtain ((rfl | rfl) | rfl) | rfl := h <;> decide

theorem Blanks.ends_number {blanks rest : List Char} (h : Blanks blanks)
    (hr : ∀ c ∈ rest.head?, continuesNumber c = false) :
    ∀ c ∈ (blanks ++ rest).head?, continuesNumber c = false := by
  cases blanks with
  | nil => exact hr
  | cons b blanks =>
    rintro c hc
    obtain rfl : b = c := by simpa using hc
    exact continuesNumber_of_isSpace (isSpace_iff.mpr (h b (by simp)))

theorem takeWhile_digits {ds rest : List Char} (h : Digits ds)
    (hr : ∀ c ∈ rest.head?, isDigit c = false) : (ds ++ rest).takeWhile isDigit = ds := by
  rw [List.takeWhile_append_of_pos (digits_iff.mp h)]
  cases rest with
  | nil => simp
  | cons c rest => simp [hr c rfl]

theorem dropWhile_digits {ds rest : List Char} (h : Digits ds)
    (hr : ∀ c ∈ rest.head?, isDigit c = false) : (ds ++ rest).dropWhile isDigit = rest := by
  rw [List.dropWhile_append_of_pos (digits_iff.mp h)]
  cases rest with
  | nil => simp
  | cons c rest => simp [hr c rfl]

theorem digits_takeWhile (cs : List Char) : Digits (cs.takeWhile isDigit) :=
  digits_iff.mpr fun _ h => List.mem_takeWhile_imp h

theorem readWhole_append (atEnd : NumberEnd) {ds rest : List Char} (h : WholeDigits ds)
    (hr : ∀ c ∈ rest.head?, isDigit c = false) :
    readWhole atEnd (ds ++ rest) = .ok (ds, rest) := by
  cases ds with
  | nil => exact absurd rfl h.some_digit
  | cons d ds =>
    by_cases hd : d = '0'
    · subst hd
      obtain rfl : ds = [] := by simpa using h.zero_alone rfl
      cases rest with
      | nil => rfl
      | cons c rest => simp [readWhole, hr c rfl]
    · have digit : isDigit d := isDigit_iff.mpr (h.digits d (by simp))
      have others : Digits ds := fun c hc => h.digits c (by simp [hc])
      rw [List.cons_append, readWhole.eq_4 _ _ _ hd, if_pos digit, ← List.cons_append,
        takeWhile_digits h.digits hr, dropWhile_digits others hr]

theorem digits_of_readWhole {atEnd : NumberEnd} {cs ds rest : List Char}
    (h : readWhole atEnd cs = .ok (ds, rest)) : WholeDigits ds ∧ cs = ds ++ rest := by
  have zero : WholeDigits ['0'] := ⟨by simp [Digits], by simp, by simp⟩
  fun_cases readWhole atEnd cs with
  | case3 c tail noDigit =>
    simp only [readWhole, if_neg noDigit, Except.ok.injEq, Prod.mk.injEq] at h
    obtain ⟨rfl, rfl⟩ := h
    exact ⟨zero, rfl⟩
  | case4 =>
    simp only [readWhole, Except.ok.injEq, Prod.mk.injEq] at h
    obtain ⟨rfl, rfl⟩ := h
    exact ⟨zero, rfl⟩
  | case5 c tail noZero digit =>
    rw [readWhole.eq_4 _ _ _ noZero, if_pos digit, Except.ok.injEq, Prod.mk.injEq] at h
    obtain ⟨rfl, rfl⟩ := h
    refine ⟨⟨digits_takeWhile _, ?_, ?_⟩, ?_⟩
    · simp [digit]
    · rw [List.takeWhile_cons_of_pos digit, List.head?_cons, Option.some.injEq]
      exact fun h => absurd h noZero
    · rw [List.takeWhile_cons_of_pos digit, List.cons_append, List.takeWhile_append_dropWhile]
  | case1 => simp [readWhole] at h
  | case2 c tail digit => simp [readWhole, digit] at h
  | case6 c tail noZero noDigit => simp [readWhole.eq_4 _ _ _ noZero, noDigit] at h

theorem readFraction_append (atEnd : NumberEnd) {ds fs rest : List Char}
    (h : SpellsFraction ds fs) (hr : ∀ c ∈ rest.head?, isDigit c = false ∧ c ≠ '.') :
    readFraction atEnd (fs ++ rest) = .ok (ds, rest) := by
  have noDigit : ∀ c ∈ rest.head?, isDigit c = false := fun c hc => (hr c hc).1
  cases h with
  | none =>
    rw [List.nil_append, readFraction.eq_4]
    rintro tail rfl
    exact (hr '.' rfl).2 rfl
  | some digits someDigit =>
    have taken := takeWhile_digits digits noDigit
    rw [List.cons_append, readFraction.eq_3 _ _ (by rwa [taken]) (by simp [taken, someDigit]),
      taken, dropWhile_digits digits noDigit]

theorem spells_of_readFraction {atEnd : NumberEnd} {cs ds rest : List Char}
    (h : readFraction atEnd cs = .ok (ds, rest)) :
    ∃ fs, SpellsFraction ds fs ∧ cs = fs ++ rest := by
  fun_cases readFraction atEnd cs with
  | case3 tail someDigit other =>
    rw [readFraction.eq_3 _ _ someDigit other, Except.ok.injEq, Prod.mk.injEq] at h
    obtain ⟨rfl, rfl⟩ := h
    exact ⟨_, .some (digits_takeWhile _) someDigit, by simp⟩
  | case4 cs noPoint =>
    rw [readFraction.eq_4 _ _ noPoint, Except.ok.injEq, Prod.mk.injEq] at h
    obtain ⟨rfl, rfl⟩ := h
    exact ⟨[], .none, rfl⟩
  | case1 => simp [readFraction] at h
  | case2 tail noDigit nonempty => simp [readFraction.eq_2 _ _ nonempty noDigit] at h

theorem readExponentDigits_append (atEnd : NumberEnd) (negative : Bool) {ds rest : List Char}
    (h : Digits ds) (nonempty : ds ≠ []) (hr : ∀ c ∈ rest.head?, isDigit c = false) :
    readExponentDigits atEnd negative (ds ++ rest) = .ok (some (negative, ds), rest) := by
  cases ds with
  | nil => exact absurd rfl nonempty
  | cons d ds =>
    have others : Digits ds := fun c hc => h c (by simp [hc])
    have digit : isDigit d := isDigit_iff.mpr (h d (by simp))
    rw [List.cons_append, readExponentDigits, if_pos digit, ← List.cons_append,
      takeWhile_digits h hr, dropWhile_digits others hr]

theorem digits_of_readExponentDigits {atEnd : NumberEnd} {negative : Bool} {cs rest : List Char}
    {exponent : Option (Bool × List Char)}
    (h : readExponentDigits atEnd negative cs = .ok (exponent, rest)) :
    ∃ ds, exponent = some (negative, ds) ∧ Digits ds ∧ ds ≠ [] ∧ cs = ds ++ rest := by
  fun_cases readExponentDigits atEnd negative cs with
  | case2 c tail digit =>
    rw [readExponentDigits, if_pos digit, Except.ok.injEq, Prod.mk.injEq] at h
    obtain ⟨rfl, rfl⟩ := h
    exact ⟨_, rfl, digits_takeWhile _, by simp [digit],
      by rw [List.takeWhile_cons_of_pos digit, List.cons_append, List.takeWhile_append_dropWhile]⟩
  | case1 => simp [readExponentDigits] at h
  | case3 c tail noDigit => simp [readExponentDigits, noDigit] at h

theorem readExponent_append (atEnd : NumberEnd) {exponent : Option (Bool × List Char)}
    {es rest : List Char} (h : SpellsExponent exponent es)
    (hr : ∀ c ∈ rest.head?, isDigit c = false ∧ c ≠ 'e' ∧ c ≠ 'E') :
    readExponent atEnd (es ++ rest) = .ok (exponent, rest) := by
  have noDigit : ∀ c ∈ rest.head?, isDigit c = false := fun c hc => (hr c hc).1
  cases h with
  | none =>
    cases rest with
    | nil => rfl
    | cons c rest =>
      have := hr c rfl
      simp [readExponent, this]
  | @some mark negative sign ds known signed digits someDigit =>
    obtain ⟨rfl, rfl⟩ | ⟨rfl | rfl, rfl⟩ := signed
    · simp only [List.cons_append, List.nil_append, readExponent, if_pos known]
      exact readExponentDigits_append atEnd true digits someDigit noDigit
    · simp only [List.cons_append, List.nil_append, readExponent, if_pos known]
      exact readExponentDigits_append atEnd false digits someDigit noDigit
    · -- Without a sign the next character is a digit.
      obtain ⟨d, ds, rfl⟩ := List.exists_cons_of_ne_nil someDigit
      have digit : isDigit d := isDigit_iff.mpr (digits d (by simp))
      have noSign {c : Char} (hc : isDigit c = false) :
          ∀ tail, d :: (ds ++ rest) = c :: tail → False := by
        rintro tail h
        obtain rfl : d = c := by simpa using congrArg List.head? h
        simp [hc] at digit
      change readExponent atEnd (mark :: d :: (ds ++ rest)) = _
      rw [readExponent.eq_3 _ _ _ (noSign rfl) (noSign rfl), if_pos known]
      exact readExponentDigits_append atEnd false digits someDigit noDigit

theorem spells_of_readExponent {atEnd : NumberEnd} {cs rest : List Char}
    {exponent : Option (Bool × List Char)} (h : readExponent atEnd cs = .ok (exponent, rest)) :
    ∃ es, SpellsExponent exponent es ∧ cs = es ++ rest := by
  fun_cases readExponent atEnd cs with
  | case1 c known tail =>
    rw [readExponent, if_pos known] at h
    obtain ⟨ds, rfl, digits, someDigit, rfl⟩ := digits_of_readExponentDigits h
    exact ⟨_, .some known (.inr ⟨.inl rfl, rfl⟩) digits someDigit, rfl⟩
  | case2 c known tail =>
    rw [readExponent, if_pos known] at h
    obtain ⟨ds, rfl, digits, someDigit, rfl⟩ := digits_of_readExponentDigits h
    exact ⟨_, .some known (.inl ⟨rfl, rfl⟩) digits someDigit, rfl⟩
  | case3 c known tail noPlus noMinus =>
    rw [readExponent.eq_3 _ _ _ noPlus noMinus, if_pos known] at h
    obtain ⟨ds, rfl, digits, someDigit, rfl⟩ := digits_of_readExponentDigits h
    exact ⟨_, .some known (.inr ⟨.inr rfl, rfl⟩) digits someDigit, by simp⟩
  | case4 c tail unknown =>
    unfold readExponent at h
    rw [if_neg unknown, Except.ok.injEq, Prod.mk.injEq] at h
    obtain ⟨rfl, rfl⟩ := h
    exact ⟨[], .none, rfl⟩
  | case5 =>
    simp only [readExponent, Except.ok.injEq, Prod.mk.injEq] at h
    obtain ⟨rfl, rfl⟩ := h
    exact ⟨[], .none, rfl⟩

def readUnsigned (atEnd : NumberEnd) (negative : Bool) : Reader Numeral := fun cs => do
  let (whole, cs) ← readWhole atEnd cs
  let (fraction, cs) ← readFraction atEnd cs
  let (exponent, cs) ← readExponent atEnd cs
  .ok ({ negative, whole, fraction, exponent }, cs)

theorem readNumeral_minus (atEnd : NumberEnd) (cs : List Char) :
    readNumeral atEnd ('-' :: cs) = readUnsigned atEnd true cs := rfl

theorem readNumeral_of_ne_minus (atEnd : NumberEnd) {cs : List Char} (h : cs.head? ≠ some '-') :
    readNumeral atEnd cs = readUnsigned atEnd false cs := by
  unfold readNumeral
  split
  next negative tail parted =>
    split at parted
    · exact absurd rfl h
    · obtain ⟨rfl, rfl⟩ := Prod.mk.inj parted
      rfl

theorem readUnsigned_append (atEnd : NumberEnd) (negative : Bool)
    {whole fraction fs es rest : List Char} {exponent : Option (Bool × List Char)}
    (wholeDigits : WholeDigits whole) (fractionDigits : SpellsFraction fraction fs)
    (exponentDigits : SpellsExponent exponent es)
    (hr : ∀ c ∈ rest.head?, continuesNumber c = false) :
    readUnsigned atEnd negative (whole ++ (fs ++ (es ++ rest))) =
      .ok ({ negative, whole, fraction, exponent }, rest) := by
  have behind : ∀ c ∈ rest.head?, isDigit c = false ∧ c ≠ '.' ∧ c ≠ 'e' ∧ c ≠ 'E' := by
    simpa [continuesNumber, and_assoc] using hr
  have behindFraction : ∀ c ∈ (es ++ rest).head?, isDigit c = false ∧ c ≠ '.' := by
    cases exponentDigits with
    | none => exact fun c hc => ⟨(behind c hc).1, (behind c hc).2.1⟩
    | some known =>
      rintro c hc
      obtain rfl : _ = c := by simpa using hc
      obtain rfl | rfl := known <;> decide
  have behindWhole : ∀ c ∈ (fs ++ (es ++ rest)).head?, isDigit c = false := by
    cases fractionDigits with
    | none => exact fun c hc => (behindFraction c hc).1
    | some =>
      rintro c hc
      obtain rfl : _ = c := by simpa using hc
      decide
  simp only [readUnsigned, readWhole_append atEnd wholeDigits behindWhole, ok_bind,
    readFraction_append atEnd fractionDigits behindFraction,
    readExponent_append atEnd exponentDigits fun c hc => ⟨(behind c hc).1, (behind c hc).2.2⟩]

theorem readNumeral_append (atEnd : NumberEnd) {numeral : Numeral} {cs rest : List Char}
    (h : SpellsNumeral numeral cs) (hr : ∀ c ∈ rest.head?, continuesNumber c = false) :
    readNumeral atEnd (cs ++ rest) = .ok (numeral, rest) := by
  obtain ⟨signed, wholeDigits, fractionDigits, exponentDigits⟩ := h
  simp only [List.append_assoc]
  obtain ⟨rfl, rfl⟩ | ⟨rfl, rfl⟩ := signed
  · exact readUnsigned_append atEnd true wholeDigits fractionDigits exponentDigits hr
  · rw [List.nil_append, readNumeral_of_ne_minus]
    · exact readUnsigned_append atEnd false wholeDigits fractionDigits exponentDigits hr
    · obtain ⟨d, ds, rfl⟩ := List.exists_cons_of_ne_nil wholeDigits.some_digit
      have digit : isDigit d := isDigit_iff.mpr (wholeDigits.digits d (by simp))
      rintro h
      obtain rfl : d = '-' := by simpa using h
      exact absurd digit (by decide)

theorem spells_of_readUnsigned {atEnd : NumberEnd} {negative : Bool} {cs rest : List Char}
    {numeral : Numeral} (h : readUnsigned atEnd negative cs = .ok (numeral, rest))
    {sign : List Char}
    (signed : sign = ['-'] ∧ negative = true ∨ sign = [] ∧ negative = false) :
    ∃ front, SpellsNumeral numeral front ∧ sign ++ cs = front ++ rest := by
  obtain ⟨whole, behindWhole, readWhole, parted⟩ := bind_eq_ok.mp h
  obtain ⟨fraction, behindFraction, readFraction, parted⟩ := bind_eq_ok.mp parted
  obtain ⟨exponent, behindExponent, readExponent, parted⟩ := bind_eq_ok.mp parted
  obtain ⟨rfl, rfl⟩ := Prod.mk.inj (Except.ok.inj parted)
  obtain ⟨wholeDigits, rfl⟩ := digits_of_readWhole readWhole
  obtain ⟨fs, fractionDigits, rfl⟩ := spells_of_readFraction readFraction
  obtain ⟨es, exponentDigits, rfl⟩ := spells_of_readExponent readExponent
  exact ⟨_, .parts signed wholeDigits fractionDigits exponentDigits, by simp⟩

theorem spells_of_readNumeral {atEnd : NumberEnd} {cs rest : List Char} {numeral : Numeral}
    (h : readNumeral atEnd cs = .ok (numeral, rest)) :
    ∃ front, SpellsNumeral numeral front ∧ cs = front ++ rest := by
  by_cases minus : cs.head? = some '-'
  · obtain ⟨tail, rfl⟩ := List.head?_eq_some_iff.mp minus
    rw [readNumeral_minus] at h
    exact spells_of_readUnsigned h (.inl ⟨rfl, rfl⟩)
  · rw [readNumeral_of_ne_minus atEnd minus] at h
    exact spells_of_readUnsigned h (.inr ⟨rfl, rfl⟩)

theorem SpellsNumeral.starts {numeral : Numeral} {cs : List Char} (h : SpellsNumeral numeral cs) :
    ∃ c tail, cs = c :: tail ∧ (c = '-' ∨ isDigit c) := by
  obtain ⟨signed, wholeDigits, -, -⟩ := h
  obtain ⟨rfl, rfl⟩ | ⟨rfl, rfl⟩ := signed
  · exact ⟨'-', _, rfl, .inl rfl⟩
  · obtain ⟨d, ds, rfl⟩ := List.exists_cons_of_ne_nil wholeDigits.some_digit
    exact ⟨d, _, rfl, .inr (isDigit_iff.mpr (wholeDigits.digits d (by simp)))⟩

theorem ne_of_startsNumber {c d : Char} (h : c = '-' ∨ isDigit c)
    (hd : ¬(d = '-' ∨ isDigit d)) : c ≠ d := by
  rintro rfl
  exact hd h

theorem isSpace_of_startsNumber {c : Char} (h : c = '-' ∨ isDigit c) : isSpace c = false := by
  by_contra space
  simp only [isSpace, Bool.not_eq_false, Bool.or_eq_true, beq_iff_eq] at space
  obtain ((rfl | rfl) | rfl) | rfl := space <;> exact absurd h (by decide)

theorem le_ofDigitChars (cs : List Char) (n : Nat) : n ≤ Nat.ofDigitChars 10 cs n := by
  rw [Nat.ofDigitChars_eq_ofDigitChars_zero]
  exact Nat.le_add_right_of_le (Nat.le_mul_of_pos_left n (Nat.pow_pos (by decide)))

theorem takeSignificand_eq_nil_iff {cs : List Char} {n s : Nat} (small : n ≤ maxWord64) :
    takeSignificand n cs = (s, []) ↔
      s = Nat.ofDigitChars 10 cs n ∧ Nat.ofDigitChars 10 cs n ≤ maxWord64 := by
  induction cs generalizing n with
  | nil => simp [takeSignificand, small, eq_comm]
  | cons c cs ih =>
    rw [Nat.ofDigitChars_cons, Nat.mul_comm, takeSignificand]
    by_cases fits : n * 10 + (c.toNat - 48) ≤ maxWord64
    · rw [if_pos fits]
      exact ih fits
    · rw [if_neg fits]
      have := le_ofDigitChars cs (n * 10 + (c.toNat - 48))
      simp only [Prod.mk.injEq, reduceCtorEq, and_false, false_iff, not_and, not_le]
      intro _
      exact lt_of_lt_of_le (by omega) this

theorem Numeral.takeSignificand_whole {n : Numeral} (low : minInt64 ≤ n.integer)
    (high : n.integer ≤ maxWord64) : ∃ s, takeSignificand 0 n.whole = (s, []) := by
  refine ⟨_, (takeSignificand_eq_nil_iff (by decide)).mpr ⟨rfl, ?_⟩⟩
  simp only [Numeral.integer, minInt64, maxWord64] at low high ⊢
  split_ifs at low high <;> omega

theorem Numeral.number_ne_int {n : Numeral}
    (h : ¬(n.fraction = [] ∧ n.exponent = none ∧ (takeSignificand 0 n.whole).2 = [])) (i : Int) :
    n.number ≠ .ok (.int i) := by
  simp only [Numeral.number, if_neg h]
  repeat' split
  all_goals simp

/-- An integer is read exactly, from nothing but a sign and digits that fit 64 bits. -/
theorem number_eq_int_iff {n : Numeral} {i : Int} :
    n.number = .ok (.int i) ↔ n.fraction = [] ∧ n.exponent = none ∧ minInt64 ≤ n.integer ∧
      n.integer ≤ maxWord64 ∧ (n.negative → n.integer ≠ 0) ∧ i = n.integer := by
  by_cases whole : n.fraction = [] ∧ n.exponent = none ∧ (takeSignificand 0 n.whole).2 = []
  · obtain ⟨negative, digits, fraction, exponent⟩ := n
    obtain ⟨rfl, rfl, taken⟩ := whole
    obtain ⟨s, taken⟩ : ∃ s, takeSignificand 0 digits = (s, []) := ⟨_, Prod.ext rfl taken⟩
    obtain ⟨rfl, fits⟩ := (takeSignificand_eq_nil_iff (by decide)).mp taken
    simp only [Numeral.number, Numeral.integer, taken, and_self, if_true, true_and]
    have limits : minInt64 = -9223372036854775808 ∧ maxWord64 = 18446744073709551615 := ⟨rfl, rfl⟩
    cases negative with
    | false =>
      simp only [Bool.false_eq_true, if_false, Except.ok.injEq, Number.int.injEq, false_implies,
        true_and]
      omega
    | true =>
      simp only [if_true, true_implies]
      split_ifs with double
      · simp only [Except.ok.injEq, reduceCtorEq, false_iff]
        omega
      · simp only [Except.ok.injEq, Number.int.injEq]
        omega
  · refine iff_of_false (n.number_ne_int whole i) ?_
    rintro ⟨noFraction, noExponent, low, high, -⟩
    obtain ⟨s, taken⟩ := n.takeSignificand_whole low high
    exact whole ⟨noFraction, noExponent, by rw [taken]⟩

theorem number_eq_ok_iff {numeral : Numeral} {n : Number} :
    numeral.number = .ok n ↔ Stands numeral n := by
  cases n with
  | int i =>
    rw [number_eq_int_iff]
    constructor
    · rintro ⟨noFraction, noExponent, low, high, notMinusZero, rfl⟩
      exact .exact noFraction noExponent low high notMinusZero
    · rintro ⟨noFraction, noExponent, low, high, notMinusZero⟩
      exact ⟨noFraction, noExponent, low, high, notMinusZero, rfl⟩
  | float x =>
    refine ⟨.rounded, ?_⟩
    rintro ⟨⟩
    assumption

theorem readNumber_append {numeral : Numeral} {n : Number} {cs rest : List Char}
    (h : SpellsNumeral numeral cs) (stands : Stands numeral n)
    (hr : ∀ c ∈ rest.head?, continuesNumber c = false) :
    readNumber (cs ++ rest) = .ok (n, rest) := by
  simp only [readNumber, readNumeral_append .reported h hr, ok_bind,
    number_eq_ok_iff.mpr stands]

theorem spells_of_readNumber {cs rest : List Char} {n : Number}
    (h : readNumber cs = .ok (n, rest)) :
    ∃ numeral front, SpellsNumeral numeral front ∧ Stands numeral n ∧ cs = front ++ rest := by
  obtain ⟨numeral, behind, read, number⟩ := bind_eq_ok.mp h
  obtain ⟨front, spelled, rfl⟩ := spells_of_readNumeral read
  cases stands : numeral.number with
  | error behind => simp [stands] at number
  | ok m =>
    simp only [stands, Except.ok.injEq, Prod.mk.injEq] at number
    obtain ⟨rfl, rfl⟩ := number
    exact ⟨numeral, front, spelled, number_eq_ok_iff.mp stands, rfl⟩

end Switchboard.Json
