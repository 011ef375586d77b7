import Switchboard.Proofs.Content.MediaType

/-!
# One key for each content type

A type can be spelled with blanks around it, with parameters behind it, and with letters of either
case (`Spells`, `Alike`); each text spells just one type without blanks around it. The key of a text
is what that type, in small letters, reduces to, so that all spellings of a type have one key. What
a key looks like (`Canonical`) is also what makes a text its own key.
-/

namespace Switchboard.Text

def SameLetter (c d : Char) : Prop :=
  c = d ∨ (c.isUpper = true ∧ d.toNat = c.toNat + 32) ∨ (d.isUpper = true ∧ c.toNat = d.toNat + 32)

instance (c d : Char) : Decidable (SameLetter c d) := inferInstanceAs (Decidable (_ ∨ _ ∨ _))

theorem SameLetter.toLower_eq {c d : Char} (h : SameLetter c d) : c.toLower = d.toLower := by
  have fold {c d : Char} (capital : c.isUpper = true) (small : d.toNat = c.toNat + 32) :
      c.toLower = d.toLower := by
    have hd : d = c.toLower := by
      rw [Char.toLower_eq_of_isUpper capital, ← small, Char.ofNat_toNat]
    rw [hd, Char.toLower_toLower_eq_toLower]
  rcases h with rfl | ⟨capital, small⟩ | ⟨capital, small⟩
  · rfl
  · exact fold capital small
  · exact (fold capital small).symm

theorem lower_eq_of_sameLetter {cs ds : List Char} (h : List.Forall₂ SameLetter cs ds) :
    lower cs = lower ds := by
  induction h with
  | nil => rfl
  | cons first _ ih => exact congrArg₂ List.cons first.toLower_eq ih

theorem trim_lower (cs : List Char) : trim (lower cs) = lower (trim cs) := by
  obtain ⟨before, behind, split, blank_before, blank_behind⟩ := exists_blanks cs
  have blank {cs : List Char} (h : ∀ c ∈ cs, isBlank c = true) :
      ∀ c ∈ lower cs, isBlank c = true := by
    simpa [lower, isBlank_toLower] using h
  have lowered : lower cs = lower before ++ lower (trim cs) ++ lower behind := by
    conv_lhs => rw [split]
    simp [lower]
  rw [lowered]
  exact trim_eq_of_trimmed (trimmed_lower_iff.mpr (trimmed_trim cs)) (blank blank_before)
    (blank blank_behind)

end Switchboard.Text

namespace Switchboard.Content.MediaType

open Switchboard.Text

/-! ### Spellings -/

/-- A text spells a type: it is the type, with blanks around it and parameters behind it. -/
inductive Spells (type : List Char) : List Char → Prop where
  | intro {before behind parameters : List Char} (plain : ';' ∉ type)
      (blank_before : ∀ c ∈ before, isBlank c = true)
      (blank_behind : ∀ c ∈ behind, isBlank c = true)
      (separated : ∀ c ∈ parameters.head?, c = ';') :
      Spells type (before ++ type ++ behind ++ parameters)

/-- Texts that differ at most in parameters, in the blanks around the type and in the case of its
letters. -/
def Alike (text other : List Char) : Prop :=
  ∃ type type', Spells type text ∧ Spells type' other ∧ List.Forall₂ SameLetter type type'

theorem exists_spells (text : List Char) : ∃ type, Trimmed type ∧ Spells type text := by
  obtain ⟨before, behind, split, blank_before, blank_behind⟩ :=
    exists_blanks (text.takeWhile (· != ';'))
  have plain : ';' ∉ trim (text.takeWhile (· != ';')) := fun hmem => by
    simpa using List.mem_takeWhile_imp ((trim_sublist _).subset hmem)
  have separated : ∀ c ∈ (text.dropWhile (· != ';')).head?, c = ';' := fun c hc => by
    simpa using head?_dropWhile (· != ';') text c hc
  have spells := Spells.intro plain blank_before blank_behind separated
  rw [← split, List.takeWhile_append_dropWhile] at spells
  exact ⟨_, trimmed_trim _, spells⟩

theorem Spells.trim_front {type text : List Char} (h : Spells type text) :
    trim (text.takeWhile (· != ';')) = trim type := by
  obtain @⟨before, behind, parameters, plain, blank_before, blank_behind, separated⟩ := h
  have others : ∀ c ∈ before ++ type ++ behind, (c != ';') = true := by
    intro c hc
    rw [bne_iff_ne]
    rintro rfl
    have visible : isBlank ';' ≠ true := by decide
    simp only [List.mem_append, plain, or_false] at hc
    exact hc.elim (fun h => visible (blank_before _ h)) fun h => visible (blank_behind _ h)
  have separate : parameters.takeWhile (· != ';') = [] := by
    cases parameters with
    | nil => rfl
    | cons c cs => rw [separated c rfl, List.takeWhile_cons_of_neg (by simp)]
  rw [List.takeWhile_append_of_pos others, separate, List.append_nil,
    trim_append blank_before blank_behind]

theorem Spells.stripped_eq {type text : List Char} (h : Spells type text) :
    stripped text = lower (trim type) := by
  rw [stripped, h.trim_front]

theorem Spells.unique {type type' text : List Char} (h : Spells type text) (trimmed : Trimmed type)
    (h' : Spells type' text) (trimmed' : Trimmed type') : type' = type := by
  rw [← trimmed.trim_eq, ← trimmed'.trim_eq, ← h.trim_front, h'.trim_front]

theorem stripped_eq_nil_iff {text : List Char} : stripped text = [] ↔ Spells [] text := by
  constructor
  · intro h
    obtain ⟨type, trimmed, spells⟩ := exists_spells text
    rw [spells.stripped_eq, trimmed.trim_eq, lower, List.map_eq_nil_iff] at h
    exact h ▸ spells
  · intro h
    rw [h.stripped_eq]
    rfl

theorem Alike.stripped_eq {text other : List Char} (h : Alike text other) :
    stripped text = stripped other := by
  obtain ⟨type, type', spells, spells', same⟩ := h
  rw [spells.stripped_eq, spells'.stripped_eq, ← trim_lower, ← trim_lower,
    lower_eq_of_sameLetter same]

/-! ### Keys -/

/-- What a key looks like. -/
structure Canonical (key : List Char) : Prop extends Bare key where
  nonempty : key ≠ []
  small : ∀ c ∈ key, c.isUpper = false
  /-- What stands behind the first slash has no plus sign in it, unless it ends with one. -/
  settled : '/' ∉ key ∨ ∃ kind subtype, key = kind ++ '/' :: subtype ∧ '/' ∉ kind ∧
    ('+' ∉ subtype ∨ subtype.getLast? = some '+')

theorem Canonical.reduces {key : List Char} (h : Canonical key) : Reduces key key := by
  rcases h.settled with noSlash | ⟨kind, subtype, rfl, first, noPlus | last⟩
  · exact .noSubtype noSlash
  · exact .noPlus first noPlus
  · obtain ⟨front, rfl⟩ := List.getLast?_eq_some_iff.mp last
    exact .emptySuffix first

theorem Reduces.settled {base key : List Char} (h : Reduces base key) :
    '/' ∉ key ∨ ∃ kind subtype, key = kind ++ '/' :: subtype ∧ '/' ∉ kind ∧
      ('+' ∉ subtype ∨ subtype.getLast? = some '+') := by
  cases h with
  | noSubtype noSlash => exact .inl noSlash
  | noPlus first noPlus => exact .inr ⟨_, _, rfl, first, .inl noPlus⟩
  | emptySuffix first => exact .inr ⟨_, _, rfl, first, .inr (by simp)⟩
  | suffix first last => exact .inr ⟨_, _, rfl, first, .inl last⟩

theorem Reduces.ne_nil {base key : List Char} (h : Reduces base key) (nonempty : base ≠ []) :
    key ≠ [] := by
  cases h with
  | noSubtype => exact nonempty
  | noPlus | emptySuffix | suffix => simp

theorem canonical_of_normalise {text key : String} (h : normalise text = .ok key) :
    Canonical key.toList := by
  obtain ⟨nonempty, reduces⟩ := normalise_eq_ok_iff.mp h
  have bare := (bare_stripped text.toList).reduced
  rw [reduces.reduced_eq] at bare
  refine ⟨bare, reduces.ne_nil nonempty, fun c hc => ?_, reduces.settled⟩
  obtain ⟨d, -, rfl⟩ := List.mem_map.mp (reduces.sublist.subset hc)
  exact Char.isUpper_toLower_eq_false d

theorem normalise_of_canonical {key : String} (h : Canonical key.toList) :
    normalise key = .ok key := by
  have small : lower key.toList = key.toList :=
    (List.map_congr_left fun c hc => Char.toLower_eq_of_not_isUpper (by simp [h.small c hc])).trans
      (List.map_id _)
  rw [normalise_eq_ok_iff, h.toBare.stripped_eq, small]
  exact ⟨h.nonempty, h.reduces⟩

/-- **Each content type has one key.** A text has no key exactly if the part before its first
semicolon is blank, and fails for just that reason. Any other text spells one type that is not empty
and has no blanks around it, and its key is what this type, in small letters, reduces to. All keys
are canonical and their own keys, and no other texts are their own keys. Texts that differ only in
parameters, in the blanks around the type and in the case of letters have the same key. -/
theorem each_type_has_one_key (text : String) :
    (∀ fault, normalise text = .error fault ↔ fault = .emptyType ∧ Spells [] text.toList) ∧
    (∃! type, Trimmed type ∧ Spells type text.toList) ∧
    (∀ type, Trimmed type → Spells type text.toList → type ≠ [] →
      ∃ key, normalise text = .ok key ∧ Reduces (lower type) key.toList ∧
        Canonical key.toList ∧ normalise key = .ok key) ∧
    (normalise text = .ok text ↔ Canonical text.toList) ∧
    ∀ other : String, Alike text.toList other.toList → normalise other = normalise text := by
  refine ⟨fun fault => ?_, ?_, fun type trimmed spells nonempty => ?_,
    ⟨canonical_of_normalise, normalise_of_canonical⟩, fun other alike => ?_⟩
  · rw [normalise_eq_error_iff, stripped_eq_nil_iff]
  · obtain ⟨type, trimmed, spells⟩ := exists_spells text.toList
    exact ⟨type, ⟨trimmed, spells⟩, fun type' h => spells.unique trimmed h.2 h.1⟩
  · have base : stripped text.toList = lower type := by
      rw [spells.stripped_eq, trimmed.trim_eq]
    have found : normalise text = .ok (String.ofList (reduced (lower type))) := by
      rw [normalise_eq_ok_iff, String.toList_ofList, base]
      exact ⟨by simpa [lower] using nonempty, reduces_reduced _⟩
    have canonical := canonical_of_normalise found
    refine ⟨_, found, ?_, canonical, normalise_of_canonical canonical⟩
    rw [String.toList_ofList]
    exact reduces_reduced _
  · rw [normalise, normalise, alike.stripped_eq]

/-- A vendor's type in capitals, with parameters, and its plain spelling. -/
theorem vendors_type_has_one_key :
    let type := "Text/Vnd+JSON".toList
    Trimmed type ∧ Spells type "\tText/Vnd+JSON ; v=+2".toList ∧ type ≠ [] ∧
      Alike "\tText/Vnd+JSON ; v=+2".toList "text/vnd+json".toList ∧
      normalise "\tText/Vnd+JSON ; v=+2" = .ok "text/json" ∧
      normalise "text/json" = .ok "text/json" ∧
      normalise "text/vnd+json" = .ok "text/json" := by
  intro type
  have trimmed : Trimmed type := ⟨by simp [type, isBlank], by simp [type, isBlank]⟩
  have spells : Spells type "\tText/Vnd+JSON ; v=+2".toList :=
    @Spells.intro type ['\t'] [' '] "; v=+2".toList (by decide) (by simp [isBlank])
      (by simp [isBlank]) (by simp)
  have plain : Spells "text/vnd+json".toList "text/vnd+json".toList :=
    @Spells.intro _ [] [] [] (by decide) (by simp) (by simp) (by simp)
  have alike : Alike "\tText/Vnd+JSON ; v=+2".toList "text/vnd+json".toList :=
    ⟨_, _, spells, plain, by decide⟩
  obtain ⟨-, -, hkey, -, hsame⟩ := each_type_has_one_key "\tText/Vnd+JSON ; v=+2"
  obtain ⟨key, found, reduces, -, again⟩ := hkey type trimmed spells (by decide)
  obtain rfl : key = "text/json" := by
    rw [← String.toList_inj, ← reduces.reduced_eq]
    decide
  exact ⟨trimmed, spells, by decide, alike, found, again, (hsame _ alike).trans found⟩

end Switchboard.Content.MediaType
