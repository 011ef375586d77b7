import Mathlib.Data.List.Sort
import Mathlib.Data.String.Basic
import Switchboard.Json.Value

/-!
# Records

A record is read with the last value under each name, its names in ascending order.
-/

namespace Switchboard.Json

namespace Members

theorem get?_insert (ms : Members) (k : String) (v : Value) (name : String) :
    (ms.insert k v).get? name = if k = name then some v else ms.get? name := by
  induction ms with
  | nil => rfl
  | cons m ms ih =>
    simp only [insert]
    split
    · next same => subst same; simp only [get?]; split <;> rfl
    · next other =>
      split
      · rfl
      · simp only [get?, ih]
        split
        · next here =>
          rw [if_neg]
          rintro rfl
          exact other here
        · rfl

theorem ofList_eq_foldl (written : List (String × Value)) :
    ofList written = written.foldl (fun acc m => Members.insert acc m.1 m.2) [] := rfl

theorem get?_append (ms ms' : Members) (name : String) :
    get? (ms ++ ms') name = (get? ms name).or (get? ms' name) := by
  induction ms with
  | nil => simp [get?]
  | cons m ms ih =>
    simp only [List.cons_append, get?, ih]
    split <;> rfl

/-- Of the values written under a name the last one counts. -/
theorem get?_ofList (written : List (String × Value)) (name : String) :
    (ofList written).get? name = get? written.reverse name := by
  have onto (acc : Members) (written : List (String × Value)) :
      get? (written.foldl (fun acc m => Members.insert acc m.1 m.2) acc) name =
        (get? written.reverse name).or (get? acc name) := by
    induction written generalizing acc with
    | nil => simp [get?]
    | cons m written ih =>
      rw [List.foldl_cons, ih, get?_insert, List.reverse_cons, get?_append]
      simp only [get?]
      cases get? written.reverse name <;> split <;> simp
  rw [ofList_eq_foldl, onto, get?, Option.or_none]

/-- The names ascend, so that each stands there once. -/
def Ascending (ms : Members) : Prop := ms.Pairwise fun m m' => m.1 < m'.1

theorem mem_insert {ms : Members} {k : String} {v : Value} {m : String × Value}
    (h : m ∈ ms.insert k v) : m = (k, v) ∨ m ∈ ms := by
  induction ms with
  | nil => simpa [insert] using h
  | cons m' ms ih => grind [insert]

theorem Ascending.insert {ms : Members} (h : ms.Ascending) (k : String) (v : Value) :
    (ms.insert k v).Ascending := by
  induction ms with
  | nil => simp [Members.insert, Ascending]
  | cons m ms ih =>
    obtain ⟨first, others⟩ := List.pairwise_cons.mp h
    simp only [Members.insert]
    split
    · next same => exact List.pairwise_cons.mpr ⟨first, others⟩
    · next other =>
      split
      · next before =>
        refine List.pairwise_cons.mpr ⟨fun m' hm => ?_, h⟩
        rcases List.mem_cons.mp hm with rfl | hm
        · exact before
        · exact String.lt_trans before (first m' hm)
      · next notBefore =>
        refine List.pairwise_cons.mpr ⟨fun m' hm => ?_, ih others⟩
        rcases mem_insert hm with rfl | hm
        · exact lt_of_le_of_ne (not_lt.mp notBefore) other
        · exact first m' hm

theorem Ascending.get?_eq_some_iff {ms : Members} (h : ms.Ascending) {name : String} {v : Value} :
    ms.get? name = some v ↔ (name, v) ∈ ms := by
  induction ms with
  | nil => simp [get?]
  | cons m ms ih =>
    obtain ⟨k, w⟩ := m
    obtain ⟨first, others⟩ := List.pairwise_cons.mp h
    simp only [get?, List.mem_cons, Prod.mk.injEq]
    split
    · next same =>
      subst same
      have once : (k, v) ∉ ms := fun hm => lt_irrefl k (first (k, v) hm)
      simp [once, eq_comm]
    · next other => simp [ih others, Ne.symm other]

theorem Ascending.exists_get? {ms : Members} (h : ms.Ascending) {name : String}
    (there : name ∈ ms.map Prod.fst) : ∃ v, ms.get? name = some v := by
  obtain ⟨⟨k, v⟩, hm, rfl⟩ := List.mem_map.mp there
  exact ⟨v, h.get?_eq_some_iff.mpr hm⟩

theorem Ascending.eq_of_mem_iff {ms ms' : Members} (h : ms.Ascending) (h' : ms'.Ascending)
    (same : ∀ m, m ∈ ms ↔ m ∈ ms') : ms = ms' := by
  have irrefl : Std.Irrefl fun m m' : String × Value => m.1 < m'.1 := ⟨fun _ => lt_irrefl _⟩
  have antisymm : Std.Antisymm fun m m' : String × Value => m.1 < m'.1 :=
    ⟨fun _ _ hlt hlt' => absurd hlt' (lt_asymm hlt)⟩
  exact List.Pairwise.eq_of_mem_iff h h' same

theorem Ascending.ext {ms ms' : Members} (h : ms.Ascending) (h' : ms'.Ascending)
    (same : ∀ name, ms.get? name = ms'.get? name) : ms = ms' := by
  refine h.eq_of_mem_iff h' fun ⟨name, v⟩ => ?_
  rw [← h.get?_eq_some_iff, ← h'.get?_eq_some_iff, same]

theorem Ascending.filter_eq {ms : Members} (h : ms.Ascending) {names : List String}
    (sorted : names.Pairwise (· < ·)) :
    ms.filter (names.contains ·.1) = names.filterMap fun name => (ms.get? name).map (name, ·) := by
  refine Ascending.eq_of_mem_iff (List.Pairwise.filter _ h) ?_ fun ⟨name, v⟩ => ?_
  · refine sorted.filterMap _ fun name name' lt m hm m' hm' => ?_
    obtain ⟨v, -, rfl⟩ := Option.map_eq_some_iff.mp hm
    obtain ⟨v', -, rfl⟩ := Option.map_eq_some_iff.mp hm'
    exact lt
  · simp only [List.mem_filter, List.contains_iff_mem, List.mem_filterMap, Option.map_eq_some_iff,
      Prod.mk.injEq, h.get?_eq_some_iff]
    constructor
    · rintro ⟨hm, known⟩
      exact ⟨name, known, v, hm, rfl, rfl⟩
    · rintro ⟨_, known, _, hm, rfl, rfl⟩
      exact ⟨hm, known⟩

theorem ofList_ascending (written : List (String × Value)) : (ofList written).Ascending := by
  have onto (acc : Members) (h : acc.Ascending) (written : List (String × Value)) :
      (written.foldl (fun acc m => Members.insert acc m.1 m.2) acc).Ascending := by
    induction written generalizing acc with
    | nil => exact h
    | cons m written ih => exact ih _ (h.insert m.1 m.2)
  exact onto [] List.Pairwise.nil written

theorem mem_ofList {written : List (String × Value)} {m : String × Value}
    (h : m ∈ ofList written) : m ∈ written := by
  have onto (acc : Members) (written : List (String × Value))
      (h : m ∈ written.foldl (fun acc m => Members.insert acc m.1 m.2) acc) :
      m ∈ acc ∨ m ∈ written := by
    induction written generalizing acc with
    | nil => exact .inl h
    | cons m' written ih =>
      rcases ih _ h with hacc | hm
      · rcases mem_insert hacc with rfl | hacc
        · exact .inr List.mem_cons_self
        · exact .inl hacc
      · exact .inr (List.mem_cons_of_mem m' hm)
  exact (onto [] written h).resolve_left List.not_mem_nil

theorem insert_of_forall_lt {ms : Members} {k : String} (h : ∀ m ∈ ms, m.1 < k) (v : Value) :
    ms.insert k v = ms ++ [(k, v)] := by
  induction ms with
  | nil => rfl
  | cons m ms ih =>
    have lt : m.1 < k := h m (by simp)
    rw [insert, if_neg lt.ne, if_neg lt.asymm, ih fun m' hm => h m' (by simp [hm])]
    rfl

theorem ofList_of_ascending {ms : Members} (h : ms.Ascending) : ofList ms = ms := by
  have onto (acc ms : Members) (h : (acc ++ ms).Ascending) :
      ms.foldl (fun acc m => Members.insert acc m.1 m.2) acc = acc ++ ms := by
    induction ms generalizing acc with
    | nil => simp
    | cons m ms ih =>
      obtain ⟨k, v⟩ := m
      have below : ∀ m ∈ acc, m.1 < k := fun m hm =>
        (List.pairwise_append.mp h).2.2 m hm (k, v) (by simp)
      calc ((k, v) :: ms).foldl (fun acc m => Members.insert acc m.1 m.2) acc
          = ms.foldl (fun acc m => Members.insert acc m.1 m.2) (Members.insert acc k v) := rfl
        _ = ms.foldl (fun acc m => Members.insert acc m.1 m.2) (acc ++ [(k, v)]) := by
            rw [insert_of_forall_lt below]
        _ = acc ++ (k, v) :: ms := by rw [ih _ (by simpa using h)]; simp
  exact onto [] ms h

end Members

end Switchboard.Json
