import Mathlib.Data.List.TakeDrop
import Mathlib.Data.List.TakeWhile
import Switchboard.Text.Blank

/-!
# Trimming

What is dropped at the end of a list is told apart from what stays by the last element that stays
(`exists_trailing`, `dropTrailing_eq`). So a text is its trimmed text with blanks around it, in one
way only (`exists_blanks`, `trim_eq_of_trimmed`).
-/

namespace Switchboard

theorem head?_dropWhile {α : Type} (p : α → Bool) (l : List α) :
    ∀ a ∈ (l.dropWhile p).head?, p a = false := by
  intro a ha
  have h := List.head?_dropWhile_not p l
  rw [Option.mem_def.mp ha] at h
  simpa using h

theorem exists_trailing {α : Type} (p : α → Bool) (l : List α) :
    ∃ trailing, l = (l.reverse.dropWhile p).reverse ++ trailing ∧ (∀ a ∈ trailing, p a = true) ∧
      ∀ a ∈ (l.reverse.dropWhile p).reverse.getLast?, p a = false := by
  refine ⟨(l.reverse.takeWhile p).reverse, ?_, fun a ha => ?_, fun a ha => ?_⟩
  · rw [← List.reverse_append, List.takeWhile_append_dropWhile, List.reverse_reverse]
  · exact List.mem_takeWhile_imp (List.mem_reverse.mp ha)
  · rw [List.getLast?_reverse] at ha
    exact head?_dropWhile p l.reverse a ha

theorem dropTrailing_eq {α : Type} {p : α → Bool} {l kept trailing : List α}
    (split : l = kept ++ trailing) (all : ∀ a ∈ trailing, p a = true)
    (last : ∀ a ∈ kept.getLast?, p a = false) : (l.reverse.dropWhile p).reverse = kept := by
  rw [split, List.reverse_append, List.dropWhile_append_of_pos (by simpa), List.reverse_eq_iff]
  rw [← List.head?_reverse] at last
  cases hkept : kept.reverse with
  | nil => rfl
  | cons a rest =>
    rw [hkept] at last
    exact List.dropWhile_cons_of_neg (by simpa using last)

namespace Text

structure Trimmed (cs : List Char) : Prop where
  first : ∀ c ∈ cs.head?, isBlank c = false
  last : ∀ c ∈ cs.getLast?, isBlank c = false

theorem trimmed_of_forall {cs : List Char} (h : ∀ c ∈ cs, isBlank c = false) : Trimmed cs :=
  ⟨fun c hc => h c (List.mem_of_mem_head? hc), fun c hc => h c (List.mem_of_mem_getLast? hc)⟩

theorem exists_blanks (cs : List Char) :
    ∃ before behind, cs = before ++ trim cs ++ behind ∧ (∀ c ∈ before, isBlank c = true) ∧
      ∀ c ∈ behind, isBlank c = true := by
  obtain ⟨behind, split, blank, -⟩ := exists_trailing isBlank (trimStart cs)
  refine ⟨cs.takeWhile isBlank, behind, ?_, fun c hc => List.mem_takeWhile_imp hc, blank⟩
  rw [List.append_assoc, trim, trimEnd, ← split, trimStart, List.takeWhile_append_dropWhile]

theorem trim_sublist (cs : List Char) : (trim cs).Sublist cs := by
  obtain ⟨before, behind, split, -⟩ := exists_blanks cs
  calc (trim cs).Sublist (before ++ trim cs) := List.sublist_append_right ..
    (before ++ trim cs).Sublist (before ++ trim cs ++ behind) := List.sublist_append_left ..
    _ = cs := split.symm

theorem trimmed_trim (cs : List Char) : Trimmed (trim cs) := by
  obtain ⟨behind, split, -, last⟩ := exists_trailing isBlank (trimStart cs)
  refine ⟨fun c hc => head?_dropWhile isBlank cs c ?_, last⟩
  -- What is left at the front is what was left there before the blanks at the end were dropped.
  show c ∈ (trimStart cs).head?
  rw [split, List.head?_append, Option.mem_def, Option.or_eq_some_iff]
  exact .inl hc

theorem trim_eq_of_trimmed {before cs behind : List Char} (h : Trimmed cs)
    (blank_before : ∀ c ∈ before, isBlank c = true)
    (blank_behind : ∀ c ∈ behind, isBlank c = true) : trim (before ++ cs ++ behind) = cs := by
  have front : trimStart (before ++ cs ++ behind) = (cs ++ behind).dropWhile isBlank := by
    rw [trimStart, List.append_assoc, List.dropWhile_append_of_pos blank_before]
  cases cs with
  | nil =>
    have all : behind.dropWhile isBlank = [] := List.dropWhile_eq_nil_iff.mpr blank_behind
    rw [trim, front, List.nil_append, all]
    rfl
  | cons c cs =>
    rw [trim, front, List.cons_append, List.dropWhile_cons_of_neg (by simp [h.first c rfl])]
    exact dropTrailing_eq (List.cons_append ..).symm blank_behind h.last

theorem Trimmed.trim_eq {cs : List Char} (h : Trimmed cs) : trim cs = cs := by
  have alone := @trim_eq_of_trimmed [] cs [] h (by simp) (by simp)
  rwa [List.nil_append, List.append_nil] at alone

theorem trim_append {before cs behind : List Char} (blank_before : ∀ c ∈ before, isBlank c = true)
    (blank_behind : ∀ c ∈ behind, isBlank c = true) : trim (before ++ cs ++ behind) = trim cs := by
  obtain ⟨left, right, split, blank_left, blank_right⟩ := exists_blanks cs
  have whole : before ++ cs ++ behind = (before ++ left) ++ trim cs ++ (right ++ behind) := by
    conv_lhs => rw [split]
    simp only [List.append_assoc]
  rw [whole]
  refine trim_eq_of_trimmed (trimmed_trim cs) (fun c hc => ?_) fun c hc => ?_
  · exact (List.mem_append.mp hc).elim (blank_before c) (blank_left c)
  · exact (List.mem_append.mp hc).elim (blank_right c) (blank_behind c)

end Text

end Switchboard
