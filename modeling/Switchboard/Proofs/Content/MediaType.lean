import Mathlib
import Switchboard.Content.MediaType
import Switchboard.Proofs.Text.Trimming

/-!
# Keys of content types

A type is bare if it has no parameters and no blanks around it. Whatever a type looks like, what is
left when it is stripped is bare, and so is what is left when its subtype is reduced to a suffix:
all keys that are looked up are bare. A bare type is its own key but for its capitals. A key that
was reduced has nothing more to reduce.
-/

namespace Switchboard.Text

/-! ### Small letters -/

theorem toLower_cases (c : Char) :
    c.toLower = c ∨ c.isUpper = true ∧ c.toLower.isLower = true := by
  by_cases h : c.isUpper = true
  · refine .inr ⟨h, ?_⟩
    rw [Char.isLower_toLower_eq_isAlpha, Char.isAlpha, h, Bool.true_or]
  · exact .inl (Char.toLower_eq_of_not_isUpper h)

theorem apply_toLower {α : Type} {p : Char → α} {a : α}
    (hp : ∀ c : Char, c.isUpper = true ∨ c.isLower = true → p c = a) (c : Char) :
    p c.toLower = p c := by
  rcases toLower_cases c with hc | ⟨hupper, hlower⟩
  · rw [hc]
  · rw [hp _ (.inr hlower), hp _ (.inl hupper)]

theorem toNat_of_letter {c : Char} (h : c.isUpper = true ∨ c.isLower = true) :
    65 ≤ c.toNat ∧ c.toNat ≤ 90 ∨ 97 ≤ c.toNat ∧ c.toNat ≤ 122 := by
  simpa [Char.isUpper, Char.isLower, UInt32.le_iff_toNat_le] using h

theorem isBlank_toLower (c : Char) : isBlank c.toLower = isBlank c := by
  refine apply_toLower (a := false) (fun c hc => ?_) c
  have := toNat_of_letter hc
  simp only [isBlank, Bool.or_eq_false_iff, Bool.and_eq_false_iff, decide_eq_false_iff_not,
    beq_eq_false_iff_ne]
  omega

theorem trimmed_lower_iff {cs : List Char} : Trimmed (lower cs) ↔ Trimmed cs := by
  have key (o : Option Char) :
      (∀ c ∈ o.map Char.toLower, isBlank c = false) ↔ ∀ c ∈ o, isBlank c = false := by
    cases o <;> simp [isBlank_toLower]
  constructor
  · rintro ⟨hfirst, hlast⟩
    rw [lower, List.head?_map, key] at hfirst
    rw [lower, List.getLast?_map, key] at hlast
    exact ⟨hfirst, hlast⟩
  · rintro ⟨hfirst, hlast⟩
    refine ⟨?_, ?_⟩
    · rw [lower, List.head?_map, key]
      exact hfirst
    · rw [lower, List.getLast?_map, key]
      exact hlast

end Switchboard.Text

namespace Switchboard.Content.MediaType

open Switchboard.Text

/-! ### Bare types -/

/-- A type has no parameters, and no blanks around it. -/
structure Bare (cs : List Char) : Prop extends Trimmed cs where
  plain : ';' ∉ cs

theorem semicolon_mem_lower_iff {cs : List Char} : ';' ∈ lower cs ↔ ';' ∈ cs := by
  have htell (c : Char) : c.toLower = ';' ↔ c = ';' := by
    have hletter (c : Char) (h : c.isUpper = true ∨ c.isLower = true) :
        decide (c = ';') = false := by
      refine decide_eq_false ?_
      rintro rfl
      exact absurd h (by decide)
    have := apply_toLower hletter c
    simpa using this
  simp [lower, htell]

theorem bare_lower_iff {cs : List Char} : Bare (lower cs) ↔ Bare cs := by
  constructor
  · rintro ⟨htrimmed, hplain⟩
    exact ⟨trimmed_lower_iff.mp htrimmed, mt semicolon_mem_lower_iff.mpr hplain⟩
  · rintro ⟨htrimmed, hplain⟩
    exact ⟨trimmed_lower_iff.mpr htrimmed, mt semicolon_mem_lower_iff.mp hplain⟩

theorem bare_stripped (cs : List Char) : Bare (stripped cs) := by
  refine bare_lower_iff.mpr ⟨trimmed_trim _, fun hmem => ?_⟩
  have := List.mem_takeWhile_imp ((trim_sublist _).subset hmem)
  simp at this

theorem Bare.stripped_eq {cs : List Char} (h : Bare cs) : stripped cs = lower cs := by
  have hfront : cs.takeWhile (· != ';') = cs :=
    List.takeWhile_eq_self_iff.mpr fun c hc => by
      have : c ≠ ';' := fun heq => h.plain (heq ▸ hc)
      simpa using this
  rw [stripped, hfront, h.trim_eq]

/-! ### Suffixes -/

theorem suffix?_append {front suffix : List Char} (last : '+' ∉ suffix) :
    suffix? (front ++ '+' :: suffix) = some suffix := by
  have back : (suffix.reverse ++ '+' :: front.reverse).takeWhile (· != '+') = suffix.reverse := by
    rw [List.takeWhile_append_of_pos fun c hc => by
      have : c ≠ '+' := fun heq => last (heq ▸ List.mem_reverse.mp hc)
      simpa using this, List.takeWhile_cons_of_neg (by simp), List.append_nil]
  rw [suffix?, if_pos (by simp)]
  simp only [List.reverse_append, List.reverse_cons, List.append_assoc, List.singleton_append]
  rw [back, List.reverse_reverse]

/-- What a stripped type is reduced to: its kind, and what stands behind the last plus sign of its
subtype. Without a kind or a suffix it stays as it is. -/
inductive Reduces : List Char → List Char → Prop where
  | noSubtype {base : List Char} (noSlash : '/' ∉ base) : Reduces base base
  | noPlus {kind subtype : List Char} (first : '/' ∉ kind) (noPlus : '+' ∉ subtype) :
      Reduces (kind ++ '/' :: subtype) (kind ++ '/' :: subtype)
  | emptySuffix {kind front : List Char} (first : '/' ∉ kind) :
      Reduces (kind ++ '/' :: (front ++ ['+'])) (kind ++ '/' :: (front ++ ['+']))
  | suffix {kind front suffix : List Char} (first : '/' ∉ kind) (last : '+' ∉ suffix)
      (nonempty : suffix ≠ []) :
      Reduces (kind ++ '/' :: (front ++ '+' :: suffix)) (kind ++ '/' :: suffix)

theorem span_kind {kind : List Char} (first : '/' ∉ kind) (subtype : List Char) :
    (kind ++ '/' :: subtype).takeWhile (· != '/') = kind ∧
      (kind ++ '/' :: subtype).dropWhile (· != '/') = '/' :: subtype := by
  have others : ∀ c ∈ kind, (c != '/') = true := fun c hc => by
    have : c ≠ '/' := fun heq => first (heq ▸ hc)
    simpa using this
  rw [List.takeWhile_append_of_pos others, List.dropWhile_append_of_pos others,
    List.takeWhile_cons_of_neg (by simp), List.dropWhile_cons_of_neg (by simp), List.append_nil]
  exact ⟨rfl, rfl⟩

theorem Reduces.reduced_eq {base key : List Char} (h : Reduces base key) : reduced base = key := by
  cases h with
  | noSubtype noSlash =>
    have hdrop : base.dropWhile (· != '/') = [] := List.dropWhile_eq_nil_iff.mpr fun c hc => by
      have : c ≠ '/' := fun heq => noSlash (heq ▸ hc)
      simpa using this
    simp only [reduced, hdrop]
  | noPlus first noPlus => simp only [reduced, (span_kind first _).2, suffix?, if_neg noPlus]
  | emptySuffix first =>
    have last : '+' ∉ ([] : List Char) := List.not_mem_nil
    simp only [reduced, (span_kind first _).2, suffix?_append last]
  | @suffix kind front suffix first last nonempty =>
    obtain ⟨c, cs, rfl⟩ := List.exists_cons_of_ne_nil nonempty
    simp only [reduced, (span_kind first _).1, (span_kind first _).2, suffix?_append last]

theorem reduces_reduced (base : List Char) : Reduces base (reduced base) := by
  suffices h : ∃ key, Reduces base key by
    obtain ⟨key, h⟩ := h
    rwa [h.reduced_eq]
  by_cases slash : '/' ∈ base
  · obtain ⟨kind, subtype, rfl, first⟩ := List.eq_append_cons_of_mem slash
    by_cases plus : '+' ∈ subtype
    · -- The last plus sign of the subtype is the first one from its end.
      obtain ⟨back, front, split, last⟩ := List.eq_append_cons_of_mem (List.mem_reverse.mpr plus)
      obtain rfl : subtype = front.reverse ++ '+' :: back.reverse := by
        rw [← List.reverse_reverse subtype, split]
        simp
      by_cases empty : back.reverse = []
      · rw [empty]
        exact ⟨_, .emptySuffix first⟩
      · exact ⟨_, .suffix first (by simpa using last) empty⟩
    · exact ⟨_, .noPlus first plus⟩
  · exact ⟨_, .noSubtype slash⟩

theorem Reduces.sublist {base key : List Char} (h : Reduces base key) : key.Sublist base := by
  cases h with
  | noSubtype | noPlus | emptySuffix => exact List.Sublist.refl _
  | suffix =>
    refine (List.Sublist.refl _).append (.cons_cons _ ?_)
    exact (List.sublist_cons_self ..).trans (List.sublist_append_right ..)

theorem Bare.reduced {base : List Char} (h : Bare base) : Bare (reduced base) := by
  have reduces := reduces_reduced base
  generalize MediaType.reduced base = key at reduces
  refine ⟨⟨fun c hc => h.first c ?_, fun c hc => h.last c ?_⟩,
    fun hmem => h.plain (reduces.sublist.subset hmem)⟩
  · cases reduces with
    | noSubtype | noPlus | emptySuffix => exact hc
    | @suffix kind => cases kind <;> exact hc
  · cases reduces with
    | noSubtype | noPlus | emptySuffix => exact hc
    | @suffix kind front suffix first last nonempty =>
      -- Both end as the suffix does.
      have hend (front : List Char) : (front ++ suffix).getLast? = suffix.getLast? :=
        List.getLast?_append_of_ne_nil front nonempty
      have hlong := hend (kind ++ '/' :: (front ++ ['+']))
      have hshort := hend (kind ++ ['/'])
      simp only [List.append_assoc, List.cons_append, List.nil_append] at hlong hshort
      rw [hlong, ← hshort]
      exact hc

theorem Reduces.again {base key : List Char} (h : Reduces base key) : Reduces key key := by
  cases h with
  | noSubtype noSlash => exact .noSubtype noSlash
  | noPlus first noPlus => exact .noPlus first noPlus
  | emptySuffix first => exact .emptySuffix first
  | suffix first last => exact .noPlus first last

theorem reduced_reduced (base : List Char) : reduced (reduced base) = reduced base :=
  (reduces_reduced base).again.reduced_eq

/-! ### Looking up -/

theorem normalise_eq_error_iff {text : String} {fault : Error} :
    normalise text = .error fault ↔ fault = .emptyType ∧ stripped text.toList = [] := by
  unfold normalise
  split
  · next h => simp [h, eq_comm]
  · next h => simp [show stripped text.toList ≠ [] from h]

theorem normalise_eq_ok_iff {text key : String} :
    normalise text = .ok key ↔
      stripped text.toList ≠ [] ∧ Reduces (stripped text.toList) key.toList := by
  unfold normalise
  split
  · next h => simp [h]
  · next h =>
    rw [Except.ok.injEq]
    constructor
    · rintro rfl
      exact ⟨h, by rw [String.toList_ofList]; exact reduces_reduced _⟩
    · rintro ⟨-, reduces⟩
      rw [reduces.reduced_eq, String.ofList_toList]

end Switchboard.Content.MediaType
