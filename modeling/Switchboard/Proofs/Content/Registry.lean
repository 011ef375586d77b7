import Switchboard.Content.Registry
import Switchboard.Proofs.Content.MediaType

/-!
# What a registry finds

A registry is what came of the factories that were registered, in their order
(`Registry.ofHistory`). Under each key it holds the factory that was registered last, so that what a
look-up finds can be said of the history alone (`Selects`), and what another registration changes as
well. A factory is found under the type that it announces exactly if that type is bare: its key is
made without stripping, so that parameters and blanks stay in it, which no key that is looked up has.
-/

namespace Switchboard.Content

def Factory.key (f : Factory) : String := MediaType.announcedKey f.contentType

namespace Registry

/-! ### Factories by their keys -/

variable (fs : List (String × Factory)) (key : String) (f : Factory)

theorem lookup_cons_eq (k : String) :
    ((key, f) :: fs).lookup k = if key = k then some f else fs.lookup k := by
  rw [List.lookup_cons]
  by_cases h : key = k
  · rw [if_pos h, h, beq_self_eq_true]
  · rw [if_neg h, beq_eq_false_iff_ne.mpr (Ne.symm h)]

theorem lookup_insertFactory (k : String) :
    (insertFactory fs key f).lookup k = if key = k then some f else fs.lookup k := by
  induction fs with
  | nil => exact lookup_cons_eq [] key f k
  | cons entry fs ih =>
    obtain ⟨k', g⟩ := entry
    simp only [insertFactory]
    split
    · next same =>
      rw [same, lookup_cons_eq, lookup_cons_eq]
      by_cases h : key = k
      · rw [if_pos h, if_pos h]
      · rw [if_neg h, if_neg h, if_neg h]
    · next other =>
      split
      · rw [lookup_cons_eq]
      · rw [lookup_cons_eq, ih, lookup_cons_eq]
        by_cases h : k' = k
        · rw [if_pos h, if_pos h, if_neg fun hk => other (h.trans hk.symm)]
        · rw [if_neg h, if_neg h]

theorem mem_keys_insertFactory {k : String} :
    k ∈ (insertFactory fs key f).map Prod.fst ↔ k = key ∨ k ∈ fs.map Prod.fst := by
  induction fs with
  | nil => simp [insertFactory]
  | cons entry fs ih =>
    obtain ⟨k', g⟩ := entry
    simp only [insertFactory]
    split
    · next same => subst same; simp
    · split
      · simp
      · rw [List.map_cons, List.mem_cons, ih, List.map_cons, List.mem_cons]
        tauto

theorem ascending_insertFactory {fs : List (String × Factory)}
    (h : (fs.map Prod.fst).Pairwise (· < ·)) :
    ((insertFactory fs key f).map Prod.fst).Pairwise (· < ·) := by
  induction fs with
  | nil => simp [insertFactory]
  | cons entry fs ih =>
    obtain ⟨k', g⟩ := entry
    obtain ⟨first, others⟩ := List.pairwise_cons.mp h
    simp only [insertFactory]
    split
    · exact List.pairwise_cons.mpr ⟨first, others⟩
    · next other =>
      split
      · next before =>
        refine List.pairwise_cons.mpr ⟨fun k hk => ?_, h⟩
        rcases List.mem_cons.mp hk with rfl | hk
        · exact before
        · exact String.lt_trans before (first k hk)
      · next notBefore =>
        refine List.pairwise_cons.mpr ⟨fun k hk => ?_, ih others⟩
        rcases (mem_keys_insertFactory ..).mp hk with rfl | hk
        · exact lt_of_le_of_ne (not_lt.mp notBefore) other
        · exact first k hk

/-! ### Registries and their history -/

def ofHistory (history : List Factory) : Registry := history.foldl add empty

@[simp]
theorem ofHistory_concat (history : List Factory) :
    ofHistory (history ++ [f]) = (ofHistory history).add f := by
  simp [ofHistory]

theorem factories_add (r : Registry) :
    (r.add f).factories = insertFactory r.factories f.key f := rfl

/-- A factory is the last one that was registered under a key. -/
def IsLatest (history : List Factory) (key : String) (f : Factory) : Prop :=
  ∃ before after, history = before ++ f :: after ∧ f.key = key ∧ ∀ g ∈ after, g.key ≠ key

def Unregistered (history : List Factory) (key : String) : Prop := ∀ f ∈ history, f.key ≠ key

variable {key} {f} {history : List Factory}

theorem lookup_ofHistory (history : List Factory) (key : String) :
    (ofHistory history).factories.lookup key = history.reverse.find? (·.key = key) := by
  induction history using List.reverseRecOn with
  | nil => rfl
  | append_singleton history f ih =>
    rw [ofHistory_concat, factories_add, lookup_insertFactory, ih, List.reverse_append,
      List.reverse_singleton, List.singleton_append, List.find?_cons]
    by_cases h : f.key = key
    · rw [if_pos h, decide_eq_true h]
    · rw [if_neg h, decide_eq_false h]

theorem lookup_eq_some_iff :
    (ofHistory history).factories.lookup key = some f ↔ IsLatest history key f := by
  rw [lookup_ofHistory, List.find?_eq_some_iff_append]
  constructor
  · rintro ⟨hkey, after, before, hsplit, hafter⟩
    refine ⟨before.reverse, after.reverse, ?_, by simpa using hkey, fun g hg => ?_⟩
    · rw [← List.reverse_reverse history, hsplit]
      simp
    · simpa using hafter g (List.mem_reverse.mp hg)
  · rintro ⟨before, after, rfl, hkey, hafter⟩
    exact ⟨by simpa using hkey, after.reverse, before.reverse, by simp, by simpa using hafter⟩

theorem lookup_eq_none_iff :
    (ofHistory history).factories.lookup key = none ↔ Unregistered history key := by
  rw [lookup_ofHistory, List.find?_eq_none]
  simp [Unregistered]

theorem mem_contentTypes_iff (history : List Factory) (key : String) :
    key ∈ (ofHistory history).contentTypes ↔ ∃ f ∈ history, f.key = key := by
  induction history using List.reverseRecOn with
  | nil => simp [ofHistory, empty, contentTypes]
  | append_singleton history f ih =>
    have hmem : key ∈ ((ofHistory history).add f).contentTypes ↔
        key = f.key ∨ key ∈ (ofHistory history).contentTypes := mem_keys_insertFactory ..
    rw [ofHistory_concat, hmem, ih]
    simp only [List.mem_append, List.mem_singleton, or_and_right, exists_or, exists_eq_left]
    rw [or_comm, eq_comm (a := key)]

theorem ascending_contentTypes (history : List Factory) :
    (ofHistory history).contentTypes.Pairwise (· < ·) := by
  induction history using List.reverseRecOn with
  | nil => exact List.Pairwise.nil
  | append_singleton history f ih =>
    rw [ofHistory_concat]
    exact ascending_insertFactory _ _ ih

/-! ### What is found -/

/-- What a content type is looked up by first: it is stripped. -/
def base (contentType : String) : String :=
  String.ofList (MediaType.stripped contentType.toList)

/-- What is found for a content type after factories were registered. -/
inductive Selects (history : List Factory) (contentType : String) :
    Except Error (String × Factory) → Prop where
  | blank (h : base contentType = "") : Selects history contentType (.error .emptyType)
  | exact {f : Factory} (hbase : base contentType ≠ "")
      (h : IsLatest history (base contentType) f) :
      Selects history contentType (.ok (base contentType, f))
  /-- One was registered for what the type is reduced to, and none for the very type. -/
  | reduced {key : String} {f : Factory} (hbase : base contentType ≠ "")
      (hnone : Unregistered history (base contentType))
      (hkey : MediaType.normalise contentType = .ok key) (h : IsLatest history key f) :
      Selects history contentType (.ok (key, f))
  | unsupported {key : String} (hbase : base contentType ≠ "")
      (hnone : Unregistered history (base contentType))
      (hkey : MediaType.normalise contentType = .ok key) (h : Unregistered history key) :
      Selects history contentType (.error (.unsupportedType key))

theorem base_eq_empty_iff {contentType : String} :
    base contentType = "" ↔ MediaType.stripped contentType.toList = [] :=
  String.ofList_eq_empty_iff

theorem normalise_eq {contentType : String} (h : base contentType ≠ "") :
    MediaType.normalise contentType =
      .ok (String.ofList (MediaType.reduced (MediaType.stripped contentType.toList))) := by
  rw [MediaType.normalise_eq_ok_iff, String.toList_ofList]
  exact ⟨mt base_eq_empty_iff.mpr h, MediaType.reduces_reduced _⟩

theorem resolve_eq (r : Registry) (contentType : String) :
    r.resolve contentType =
      if base contentType = "" then .error .emptyType
      else match r.factories.lookup (base contentType) with
        | some f => .ok (base contentType, f)
        | none => (MediaType.normalise contentType).bind fun key =>
          match r.factories.lookup key with
          | some f => .ok (key, f)
          | none => .error (.unsupportedType key) := rfl

theorem mem_of_lookup {fs : List (String × Factory)} (h : fs.lookup key = some f) :
    (key, f) ∈ fs := by
  obtain ⟨before, after, rfl, -⟩ := List.lookup_eq_some_iff.mp h
  simp

theorem mem_of_resolve {r : Registry} {contentType : String}
    (h : r.resolve contentType = .ok (key, f)) : (key, f) ∈ r.factories := by
  rw [Registry.resolve_eq] at h
  by_cases hbase : base contentType = ""
  · rw [if_pos hbase] at h
    cases h
  · rw [if_neg hbase] at h
    cases hfirst : r.factories.lookup (base contentType) with
    | some g =>
      rw [hfirst] at h
      cases h
      exact mem_of_lookup hfirst
    | none =>
      rw [hfirst, normalise_eq hbase] at h
      simp only [Except.bind] at h
      split at h
      · next g hsecond =>
        cases h
        exact mem_of_lookup hsecond
      · cases h

theorem Selects.resolve_eq {contentType : String} {outcome : Except Error (String × Factory)}
    (h : Selects history contentType outcome) :
    (ofHistory history).resolve contentType = outcome := by
  rw [Registry.resolve_eq]
  cases h with
  | blank h => rw [if_pos h]
  | exact hbase h => rw [if_neg hbase, lookup_eq_some_iff.mpr h]
  | reduced hbase hnone hkey h =>
    rw [if_neg hbase, lookup_eq_none_iff.mpr hnone, hkey]
    simp only [Except.bind, lookup_eq_some_iff.mpr h]
  | unsupported hbase hnone hkey h =>
    rw [if_neg hbase, lookup_eq_none_iff.mpr hnone, hkey]
    simp only [Except.bind, lookup_eq_none_iff.mpr h]

theorem exists_selects (history : List Factory) (contentType : String) :
    ∃ outcome, Selects history contentType outcome := by
  by_cases hbase : base contentType = ""
  · exact ⟨_, .blank hbase⟩
  · cases hfirst : (ofHistory history).factories.lookup (base contentType) with
    | some f => exact ⟨_, .exact hbase (lookup_eq_some_iff.mp hfirst)⟩
    | none =>
      have hnone := lookup_eq_none_iff.mp hfirst
      have hkey := normalise_eq hbase
      generalize String.ofList _ = key at hkey
      cases hsecond : (ofHistory history).factories.lookup key with
      | some f => exact ⟨_, .reduced hbase hnone hkey (lookup_eq_some_iff.mp hsecond)⟩
      | none => exact ⟨_, .unsupported hbase hnone hkey (lookup_eq_none_iff.mp hsecond)⟩

theorem resolve_eq_iff {contentType : String} {outcome : Except Error (String × Factory)} :
    (ofHistory history).resolve contentType = outcome ↔ Selects history contentType outcome := by
  constructor
  · rintro rfl
    obtain ⟨outcome, h⟩ := exists_selects history contentType
    rw [h.resolve_eq]
    exact h
  · exact Selects.resolve_eq

/-! ### What another registration changes -/

/-- The types for which a factory is found once it is registered: its own, and those that are
reduced to its own and were not registered themselves. -/
def Captures (history : List Factory) (f : Factory) (contentType : String) : Prop :=
  base contentType ≠ "" ∧ (base contentType = f.key ∨
    Unregistered history (base contentType) ∧ MediaType.normalise contentType = .ok f.key)

theorem resolve_of_captures {contentType : String} (h : Captures history f contentType) :
    (ofHistory (history ++ [f])).resolve contentType = .ok (f.key, f) := by
  have latest : IsLatest (history ++ [f]) f.key f := ⟨history, [], rfl, rfl, by simp⟩
  obtain ⟨hbase, hown | ⟨hnone, hkey⟩⟩ := h
  · have := Selects.exact hbase (hown ▸ latest)
    rw [this.resolve_eq, hown]
  · by_cases hown : base contentType = f.key
    · have := Selects.exact hbase (hown ▸ latest)
      rw [this.resolve_eq, hown]
    · have hnone' : Unregistered (history ++ [f]) (base contentType) := by
        intro g hg
        rcases List.mem_append.mp hg with hg | hg
        · exact hnone g hg
        · rw [List.mem_singleton.mp hg]
          exact Ne.symm hown
      exact (Selects.reduced hbase hnone' hkey latest).resolve_eq

theorem resolve_of_not_captures {contentType : String} (h : ¬ Captures history f contentType) :
    (ofHistory (history ++ [f])).resolve contentType = (ofHistory history).resolve contentType := by
  have hother {key : String} (hkey : key ≠ f.key) :
      (ofHistory (history ++ [f])).factories.lookup key =
        (ofHistory history).factories.lookup key := by
    rw [ofHistory_concat, factories_add, lookup_insertFactory, if_neg hkey.symm]
  rw [resolve_eq, resolve_eq]
  by_cases hbase : base contentType = ""
  · rw [if_pos hbase, if_pos hbase]
  · rw [if_neg hbase, if_neg hbase, hother fun hown => h ⟨hbase, .inl hown⟩]
    cases hfirst : (ofHistory history).factories.lookup (base contentType) with
    | some g => rfl
    | none =>
      have hkey := normalise_eq hbase
      generalize String.ofList _ = key at hkey
      have hne : key ≠ f.key := by
        rintro rfl
        exact h ⟨hbase, .inr ⟨lookup_eq_none_iff.mp hfirst, hkey⟩⟩
      rw [hkey]
      simp only [Except.bind, hother hne]

/-- A key is a vendor's own: it would be reduced to a suffix. -/
def IsVendors (key : String) : Prop := MediaType.reduced key.toList ≠ key.toList

instance : Decidable (IsVendors key) := inferInstanceAs (Decidable (_ ≠ _))

theorem normalise_ne_of_isVendors {contentType : String} (h : IsVendors key)
    (hbase : base contentType ≠ "") : MediaType.normalise contentType ≠ .ok key := by
  rw [normalise_eq hbase]
  intro heq
  apply h
  rw [← Except.ok.inj heq, String.toList_ofList, MediaType.reduced_reduced]

theorem Selects.bare {contentType : String} (h : Selects history contentType (.ok (key, f))) :
    f.key = key ∧ MediaType.Bare key.toList := by
  generalize hfound : Except.ok (key, f) = outcome at h
  cases h with
  | blank | unsupported => cases hfound
  | exact _ h =>
    obtain ⟨rfl, rfl⟩ := Prod.mk.inj (Except.ok.inj hfound)
    obtain ⟨_, _, -, hkey, -⟩ := h
    refine ⟨hkey, ?_⟩
    rw [base, String.toList_ofList]
    exact MediaType.bare_stripped _
  | reduced hbase _ hnormal h =>
    obtain ⟨rfl, rfl⟩ := Prod.mk.inj (Except.ok.inj hfound)
    obtain ⟨_, _, -, hkey, -⟩ := h
    refine ⟨hkey, ?_⟩
    rw [normalise_eq hbase] at hnormal
    rw [← Except.ok.inj hnormal, String.toList_ofList]
    exact (MediaType.bare_stripped _).reduced

theorem bare_key_iff : MediaType.Bare f.key.toList ↔ MediaType.Bare f.contentType.toList := by
  rw [Factory.key, MediaType.announcedKey, String.toList_ofList, MediaType.bare_lower_iff]

theorem base_of_bare (h : MediaType.Bare f.contentType.toList) : base f.contentType = f.key := by
  rw [base, h.stripped_eq, Factory.key, MediaType.announcedKey]

theorem key_eq_empty_iff : f.key = "" ↔ f.contentType = "" := by
  rw [Factory.key, MediaType.announcedKey, String.ofList_eq_empty_iff, Text.lower,
    List.map_eq_nil_iff, String.toList_eq_nil_iff]

/-- A registry finds a factory for a content type, and the factory makes a writer for it. -/
def Serves (r : Registry) (contentType : String) (f : Factory) (w : Writer) : Prop :=
  ∃ key, r.resolve contentType = .ok (key, f) ∧ f.openWriter key = .ok w

theorem Serves.openWriter_eq {r : Registry} {contentType : String} {w : Writer}
    (h : r.Serves contentType f w) :
    r.supports contentType = true ∧ r.openWriter contentType = .ok w := by
  obtain ⟨key, hresolve, hwriter⟩ := h
  refine ⟨by rw [supports, hresolve]; rfl, ?_⟩
  rw [openWriter, hresolve]
  exact hwriter

/-- **A factory serves the type that it announces exactly if that is bare and its key will do.**
Right after it was registered, it serves its type if there are no parameters and no blanks around it,
and if it makes a writer for the type in small letters, which is what it is asked for. If its type is
not bare, it is not found for any type at all. -/
theorem served_under_announced_type_iff (history : List Factory) (f : Factory) :
    (∀ w, (ofHistory (history ++ [f])).Serves f.contentType f w ↔
      f.contentType ≠ "" ∧ MediaType.Bare f.contentType.toList ∧ f.openWriter f.key = .ok w) ∧
    (∀ w, (ofHistory (history ++ [f])).Serves f.contentType f w →
      (ofHistory (history ++ [f])).supports f.contentType = true ∧
        (ofHistory (history ++ [f])).openWriter f.contentType = .ok w) ∧
    (¬ MediaType.Bare f.contentType.toList → ∀ contentType key g,
      (ofHistory (history ++ [f])).resolve contentType = .ok (key, g) → g ≠ f) := by
  have hbare {contentType key : String}
      (hresolve : (ofHistory (history ++ [f])).resolve contentType = .ok (key, f)) :
      f.key = key ∧ MediaType.Bare f.contentType.toList := by
    obtain ⟨rfl, h⟩ := (resolve_eq_iff.mp hresolve).bare
    exact ⟨rfl, bare_key_iff.mp h⟩
  refine ⟨fun w => ⟨?_, ?_⟩, fun w h => h.openWriter_eq, fun hnot contentType key g hresolve => ?_⟩
  · rintro ⟨key, hresolve, hwriter⟩
    obtain ⟨rfl, h⟩ := hbare hresolve
    refine ⟨fun hempty => ?_, h, hwriter⟩
    rw [resolve_eq, base_of_bare h, if_pos (key_eq_empty_iff.mpr hempty)] at hresolve
    cases hresolve
  · rintro ⟨hvisible, h, hwriter⟩
    have hbase := base_of_bare h
    have hcaptures : Captures history f f.contentType :=
      ⟨by rw [hbase]; exact mt key_eq_empty_iff.mp hvisible, .inl hbase⟩
    exact ⟨f.key, resolve_of_captures hcaptures, hwriter⟩
  · rintro rfl
    exact hnot (hbare hresolve).2

/-- Two factories that serve the types they announce, but are not found under them: of the first one
nothing is found, and the second one is asked for small letters. -/
theorem parameters_and_capitals_are_missed :
    let csv := Factory.custom "text/csv; charset=utf-8" .text true
    let loud := Factory.custom "Text/CSV" .text true
    csv.openWriter csv.contentType = .ok (.ofForm .text) ∧
      (ofHistory [csv]).supports csv.contentType = false ∧
      (ofHistory [csv]).openWriter csv.contentType = .error (.unsupportedType "text/csv") ∧
    loud.openWriter loud.contentType = .ok (.ofForm .text) ∧
      (ofHistory [csv, loud]).supports loud.contentType = true ∧
      (ofHistory [csv, loud]).openWriter loud.contentType =
        .error (.mismatch "Text/CSV" "text/csv") := by
  refine ⟨rfl, rfl, rfl, rfl, rfl, rfl⟩

/-- Of three types the one that is bare and small is served. -/
theorem one_of_three_types_is_served :
    let plain := Factory.custom "text/csv" .text true
    let csv := Factory.custom "text/csv; charset=utf-8" .text true
    let loud := Factory.custom "Text/CSV" .text true
    (ofHistory [csv, loud, plain]).Serves plain.contentType plain (.ofForm .text) ∧
    (∀ w, ¬ (ofHistory [csv]).Serves csv.contentType csv w) ∧
    ∀ w, ¬ (ofHistory [csv, loud]).Serves loud.contentType loud w := by
  intro plain csv loud
  have hplain : MediaType.Bare plain.contentType.toList :=
    ⟨Text.trimmed_of_forall (by simp [plain, Factory.custom, Text.isBlank]), by decide⟩
  have hkey : plain.key = "text/csv" := by decide
  have hloud : loud.key = "text/csv" := by decide
  refine ⟨?_, fun w h => ?_, fun w h => ?_⟩
  · have hwriter : plain.openWriter plain.key = .ok (.ofForm .text) := by
      rw [hkey]
      rfl
    exact ((served_under_announced_type_iff [csv, loud] plain).1 _).mpr
      ⟨by decide, hplain, hwriter⟩
  · obtain ⟨-, hbare, -⟩ := ((served_under_announced_type_iff [] csv).1 w).mp h
    exact hbare.plain (by decide)
  · obtain ⟨-, -, hwriter⟩ := ((served_under_announced_type_iff [csv] loud).1 w).mp h
    rw [hloud] at hwriter
    have hmismatch : loud.openWriter "text/csv" = .error (.mismatch "Text/CSV" "text/csv") := rfl
    rw [hmismatch] at hwriter
    cases hwriter

end Registry

end Switchboard.Content
