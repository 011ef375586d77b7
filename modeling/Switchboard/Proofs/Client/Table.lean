import Mathlib.Data.List.Basic
import Mathlib.Data.List.Count
import Mathlib.Data.List.Nodup
import Mathlib.Data.List.Perm.Basic
import Switchboard.Client.Table

/-!
# The ids of the table

What the operations of the table do to the ids of its open calls: `register` adds the next one,
`take` removes one, `takeExpired` and `close` split the table into what leaves and what stays. The
statements count, so they hold of tables in any order. Of the overdue calls it is also said which
they are, that two sweeps take what the later one takes alone, and that they may as well be taken
one after another by their ids, in any order. They are taken exactly if all deadlines can be told.
-/

namespace Switchboard.Client

namespace Entry

theorem isTimely_iff {e : Entry} : e.isTimely = true ↔
    ∀ timeout, e.timeout = some timeout → e.createdAt + timeout.nanos ≤ lastInstant := by
  unfold isTimely deadline?
  cases e.timeout with
  | none => simp
  | some timeout =>
    by_cases shown : e.createdAt + timeout.nanos ≤ lastInstant <;> simp [Timespan.after?, shown]

theorem isOverdue_iff {e : Entry} {now : Nat} : e.isOverdue now = true ↔ ∃ timeout,
    e.timeout = some timeout ∧ e.createdAt + timeout.nanos ≤ now ∧
      e.createdAt + timeout.nanos ≤ lastInstant := by
  unfold isOverdue deadline?
  cases e.timeout with
  | none => simp
  | some timeout =>
    by_cases shown : e.createdAt + timeout.nanos ≤ lastInstant <;> simp [Timespan.after?, shown]

theorem isOverdue_mono {e : Entry} {now now' : Nat} (later : now ≤ now')
    (h : e.isOverdue now = true) : e.isOverdue now' = true := by
  obtain ⟨timeout, configured, passed, timely⟩ := isOverdue_iff.mp h
  exact isOverdue_iff.mpr ⟨timeout, configured, Nat.le_trans passed later, timely⟩

end Entry

namespace Table

def ids (t : Table) : List Int := t.entries.map Entry.id

theorem mem_ids {t : Table} {id : Int} : id ∈ t.ids ↔ ∃ e ∈ t.entries, e.id = id := List.mem_map

theorem ids_perm {t : Table} {entries : List Entry} (h : entries.Perm t.entries) :
    (Table.ids { t with entries }).Perm t.ids := h.map Entry.id

/-! ### Registering -/

theorem register_eq_ok {t t' : Table} {method : String} {createdAt : Nat}
    {timeout : Option Timespan} {callback : Callback} {id : Int}
    (h : t.register method createdAt timeout callback = .ok (id, t')) :
    t.closed = none ∧ id = t.nextId ∧
      t' = { t with
        nextId := t.nextId + 1
        entries := t.entries ++ [{ id := t.nextId, method, createdAt, timeout, callback }] } := by
  unfold register at h
  cases hc : t.closed with
  | some reason =>
    rw [hc] at h
    cases h
  | none =>
    rw [hc] at h
    cases h
    exact ⟨rfl, rfl, rfl⟩

/-! ### Taking one call -/

theorem take_eq_some {t t' : Table} {id : Int} {e : Entry} (h : t.take id = some (e, t')) :
    e ∈ t.entries ∧ e.id = id ∧ t' = { t with entries := t.entries.filter (·.id != id) } := by
  unfold take at h
  obtain ⟨e', he, heq⟩ := Option.map_eq_some_iff.mp h
  cases heq
  refine ⟨List.mem_of_find?_eq_some he, ?_, rfl⟩
  simpa using List.find?_some he

theorem take_eq_none_iff {t : Table} {id : Int} : t.take id = none ↔ id ∉ t.ids := by
  rw [take, Option.map_eq_none_iff, find?, List.find?_eq_none, mem_ids]
  simp

theorem count_ids_filter_self (t : Table) (id : Int) :
    (Table.ids { t with entries := t.entries.filter (·.id != id) }).count id = 0 := by
  rw [List.count_eq_zero, mem_ids]
  rintro ⟨e, he, rfl⟩
  simp at he

theorem count_ids_filter_ne (t : Table) {id j : Int} (h : j ≠ id) :
    (Table.ids { t with entries := t.entries.filter (·.id != id) }).count j = t.ids.count j := by
  simp only [ids, List.count, List.countP_map, List.countP_filter]
  refine List.countP_congr fun e _ => ?_
  simp only [Function.comp, bne_iff_ne, ne_eq, Bool.and_eq_true, beq_iff_eq]
  exact ⟨And.left, fun he => ⟨he, he ▸ h⟩⟩

theorem count_ids_take {t t' : Table} {id : Int} {e : Entry} (h : t.take id = some (e, t'))
    (once : t.ids.count id ≤ 1) (j : Int) : t'.ids.count j + [e.id].count j = t.ids.count j := by
  obtain ⟨he, rfl, rfl⟩ := take_eq_some h
  have hpos : 0 < t.ids.count e.id := List.count_pos_iff.mpr (mem_ids.mpr ⟨e, he, rfl⟩)
  by_cases hj : j = e.id
  · subst hj
    rw [count_ids_filter_self, List.count_singleton_self]
    omega
  · rw [count_ids_filter_ne t hj, List.count_singleton, if_neg (by simpa using fun h => hj h.symm)]
    rfl

theorem perm_take {t t' : Table} {id : Int} {e : Entry} (h : t.take id = some (e, t'))
    (once : t.ids.count id ≤ 1) : t.entries.Perm (e :: t'.entries) := by
  obtain ⟨he, rfl, rfl⟩ := take_eq_some h
  have hone : t.entries.filter (·.id == e.id) = [e] := by
    have hmem : e ∈ t.entries.filter (·.id == e.id) := List.mem_filter.mpr ⟨he, by simp⟩
    have hlen : (t.entries.filter (·.id == e.id)).length ≤ 1 := by
      rw [← List.countP_eq_length_filter]
      simpa [ids, List.count, List.countP_map, Function.comp_def] using once
    generalize t.entries.filter (·.id == e.id) = found at hmem hlen
    match found with
    | [] => cases hmem
    | [a] => rw [List.mem_singleton.mp hmem]
    | a :: b :: rest => simp at hlen
  have hsplit := List.filter_append_perm (fun e' : Entry => e'.id == e.id) t.entries
  rw [hone] at hsplit
  exact hsplit.symm

/-! ### Taking many calls -/

theorem isTimely_iff {t : Table} : t.isTimely = true ↔ ∀ e ∈ t.entries, ∀ timeout,
    e.timeout = some timeout → e.createdAt + timeout.nanos ≤ lastInstant :=
  List.all_eq_true.trans (forall₂_congr fun _ _ => Entry.isTimely_iff)

theorem takeExpired_eq_some {t : Table} {now : Nat} {swept : List Entry} {left : Table} :
    t.takeExpired now = some (swept, left) ↔
      t.isTimely = true ∧ t.splitOverdue now = (swept, left) := by
  unfold takeExpired
  split <;> simp_all

theorem takeExpired_eq_none {t : Table} {now : Nat} :
    t.takeExpired now = none ↔ t.isTimely = false := by
  unfold takeExpired
  split <;> simp_all

theorem isTimely_splitOverdue {t : Table} (timely : t.isTimely = true) (now : Nat) :
    (t.splitOverdue now).2.isTimely = true :=
  List.all_eq_true.mpr fun e he => List.all_eq_true.mp timely e (List.mem_of_mem_filter he)

theorem count_ids_splitOverdue (t : Table) (now : Nat) (j : Int) :
    (t.splitOverdue now).2.ids.count j + ((t.splitOverdue now).1.map Entry.id).count j =
      t.ids.count j := by
  simp only [splitOverdue, ids, List.count, List.countP_map]
  induction t.entries with
  | nil => rfl
  | cons e rest ih =>
    by_cases h : e.isOverdue now <;> simp [h, List.countP_cons] at ih ⊢ <;> omega

/-- Two sweeps take the calls that the later one takes alone, and leave the same table. -/
theorem splitOverdue_twice (t : Table) {now now' : Nat} (later : now ≤ now') :
    ((t.splitOverdue now).2.splitOverdue now').2 = (t.splitOverdue now').2 ∧
      ((t.splitOverdue now).1 ++ ((t.splitOverdue now).2.splitOverdue now').1).Perm
        (t.splitOverdue now').1 := by
  have already : ∀ e : Entry, (e.isOverdue now' && e.isOverdue now) = e.isOverdue now := by
    intro e
    cases h : e.isOverdue now
    · exact Bool.and_false _
    · rw [Entry.isOverdue_mono later h, Bool.and_true]
  have neither : ∀ e : Entry, (!e.isOverdue now' && !e.isOverdue now) = !e.isOverdue now' := by
    intro e
    rw [← Bool.not_or, ← already e]
    cases e.isOverdue now' <;> rfl
  constructor
  · simp only [splitOverdue, List.filter_filter, neither]
  · have split := List.filter_append_perm (·.isOverdue now) (t.entries.filter (·.isOverdue now'))
    simp only [List.filter_filter, Bool.and_comm (_ : Bool) (Entry.isOverdue _ now'), already]
      at split
    simpa only [splitOverdue, List.filter_filter] using split

/-- Takes calls by their ids, one after another. Ids of no open call are passed over. -/
def takeEach (t : Table) : List Int → List Entry × Table
  | [] => ([], t)
  | id :: ids =>
    match t.take id with
    | some (e, t') => (e :: (t'.takeEach ids).1, (t'.takeEach ids).2)
    | none => t.takeEach ids

theorem eq_of_id_eq {t : Table} (distinct : t.ids.Nodup) {e e' : Entry} (he : e ∈ t.entries)
    (he' : e' ∈ t.entries) (same : e.id = e'.id) : e = e' :=
  List.inj_on_of_nodup_map distinct he he' same

theorem take_of_mem {t : Table} (distinct : t.ids.Nodup) {e : Entry} (he : e ∈ t.entries) :
    t.take e.id = some (e, { t with entries := t.entries.filter (·.id != e.id) }) := by
  cases taken : t.take e.id with
  | none => exact absurd (mem_ids.mpr ⟨e, he, rfl⟩) (take_eq_none_iff.mp taken)
  | some result =>
    obtain ⟨e', t'⟩ := result
    obtain ⟨he', same, rfl⟩ := take_eq_some taken
    rw [eq_of_id_eq distinct he' he same]

theorem takeEach_of_mem {t : Table} (distinct : t.ids.Nodup) {es : List Entry}
    (isOpen : ∀ e ∈ es, e ∈ t.entries) (once : (es.map Entry.id).Nodup) :
    t.takeEach (es.map Entry.id) =
      (es, { t with entries := t.entries.filter fun e => !(es.map Entry.id).contains e.id }) := by
  induction es generalizing t with
  | nil => simp [takeEach]
  | cons e es ih =>
    obtain ⟨new, once⟩ := List.nodup_cons.mp once
    obtain ⟨he, hes⟩ := List.forall_mem_cons.mp isOpen
    have kept : ∀ e' ∈ es, e' ∈ t.entries.filter (·.id != e.id) := by
      intro e' he'
      refine List.mem_filter.mpr ⟨hes e' he', bne_iff_ne.mpr fun same => new ?_⟩
      exact List.mem_map.mpr ⟨e', he', same⟩
    have distinct' : (Table.ids { t with entries := t.entries.filter (·.id != e.id) }).Nodup :=
      distinct.sublist (List.filter_sublist.map Entry.id)
    have first (e' : Entry) : (!(e.id :: es.map Entry.id).contains e'.id) =
        (!(es.map Entry.id).contains e'.id && e'.id != e.id) := by
      rw [List.contains_cons, Bool.not_or, Bool.and_comm, bne]
    simp only [List.map_cons, takeEach, take_of_mem distinct he, ih distinct' kept once,
      List.filter_filter, first]

/-- The overdue calls may be taken one after another, in any order. -/
theorem takeEach_overdue {t : Table} (distinct : t.ids.Nodup) {now : Nat} {es : List Entry}
    (perm : es.Perm (t.splitOverdue now).1) :
    t.takeEach (es.map Entry.id) = (es, (t.splitOverdue now).2) := by
  have mem (e : Entry) : e ∈ es ↔ e ∈ t.entries ∧ e.isOverdue now = true :=
    perm.mem_iff.trans List.mem_filter
  have once : (es.map Entry.id).Nodup :=
    (perm.map Entry.id).nodup_iff.mpr (distinct.sublist (List.filter_sublist.map Entry.id))
  have stays : ∀ e ∈ t.entries, (!(es.map Entry.id).contains e.id) = !e.isOverdue now := by
    intro e he
    rw [Bool.not_inj_iff, Bool.eq_iff_iff, List.contains_iff_mem, List.mem_map]
    constructor
    · rintro ⟨e', he', same⟩
      rw [← eq_of_id_eq distinct ((mem e').mp he').1 he same]
      exact ((mem e').mp he').2
    · exact fun overdue => ⟨e, (mem e).mpr ⟨he, overdue⟩, rfl⟩
  rw [takeEach_of_mem distinct (fun e he => ((mem e).mp he).1) once, splitOverdue]
  simp only [List.filter_congr stays]

@[simp] theorem ids_close (t : Table) (reason : String) : (t.close reason).2.ids = [] := rfl

end Table

end Switchboard.Client
