import Mathlib.Data.List.Basic
import PathRouting.Text.Basic

/-!
# Cutting texts

What cutting a text at a character gives, in terms of the text, and what is left of a text without
the character at its end.
-/

namespace PathRouting.Text

variable {c : Char} {t before after : Text}

/-- Cutting at the first occurrence. -/
theorem splitFirst_eq_some (h : splitFirst c t = some (before, after)) :
    t = before ++ c :: after ∧ c ∉ before := by
  induction t generalizing before with
  | nil => cases h
  | cons d t ih =>
    rw [splitFirst] at h
    split at h
    · rename_i hd
      cases h
      exact ⟨by rw [hd]; rfl, List.not_mem_nil⟩
    · rename_i hd
      obtain ⟨⟨before', after'⟩, hsplit, heq⟩ := Option.map_eq_some_iff.mp h
      cases heq
      obtain ⟨rfl, hmem⟩ := ih hsplit
      exact ⟨rfl, List.not_mem_cons_of_ne_of_not_mem (Ne.symm hd) hmem⟩

/-- A text without a first occurrence has none. -/
theorem notMem_of_splitFirst_eq_none (h : splitFirst c t = none) : c ∉ t := by
  induction t with
  | nil => exact List.not_mem_nil
  | cons d t ih =>
    rw [splitFirst] at h
    split at h
    · cases h
    · rename_i hd
      exact List.not_mem_cons_of_ne_of_not_mem (Ne.symm hd) (ih (Option.map_eq_none_iff.mp h))

/-- A text is cut where a character occurs first. -/
theorem splitFirst_append (hbefore : c ∉ before) (after : Text) :
    splitFirst c (before ++ c :: after) = some (before, after) := by
  induction before with
  | nil =>
    rw [List.nil_append, splitFirst, if_pos rfl]
  | cons d before ih =>
    rw [List.mem_cons, not_or] at hbefore
    rw [List.cons_append, splitFirst, if_neg (Ne.symm hbefore.1), ih hbefore.2]
    rfl

/-- A text without a last occurrence has none. -/
theorem notMem_of_splitLast_eq_none (h : splitLast c t = none) : c ∉ t := by
  induction t with
  | nil => exact List.not_mem_nil
  | cons d t ih =>
    rw [splitLast] at h
    split at h
    · cases h
    · rename_i hnone
      split at h
      · cases h
      · rename_i hd
        exact List.not_mem_cons_of_ne_of_not_mem (Ne.symm hd) (ih hnone)

/-- Cutting at the last occurrence. -/
theorem splitLast_eq_some (h : splitLast c t = some (before, after)) :
    t = before ++ c :: after ∧ c ∉ after := by
  induction t generalizing before with
  | nil => cases h
  | cons d t ih =>
    rw [splitLast] at h
    split at h
    · rename_i front back hsplit
      cases h
      obtain ⟨rfl, hmem⟩ := ih hsplit
      exact ⟨rfl, hmem⟩
    · rename_i hnone
      split at h
      · rename_i hd
        cases h
        exact ⟨by rw [hd]; rfl, notMem_of_splitLast_eq_none hnone⟩
      · cases h

/-- A text is cut where a character occurs last. -/
theorem splitLast_append (before : Text) (hafter : c ∉ after) :
    splitLast c (before ++ c :: after) = some (before, after) := by
  induction before with
  | nil =>
    rw [List.nil_append, splitLast]
    cases hsplit : splitLast c after with
    | none => exact if_pos rfl
    | some cut =>
      obtain ⟨rfl, -⟩ := splitLast_eq_some hsplit
      exact absurd (by simp) hafter
  | cons d before ih => rw [List.cons_append, splitLast, ih]

/-- A text that does not start with a character is left as it is. -/
theorem trimStart_of_head? (h : t.head? ≠ some c) : trimStart c t = t := by
  unfold trimStart
  cases t with
  | nil => rfl
  | cons d t =>
    rw [List.head?_cons, ne_eq, Option.some.injEq] at h
    rw [List.dropWhile_cons_of_neg (by simpa using h)]

/-- A text that does not end with a character is left as it is. -/
theorem trimEnd_of_getLast? (h : t.getLast? ≠ some c) : trimEnd c t = t := by
  unfold trimEnd
  rw [← List.head?_reverse] at h
  cases hreverse : t.reverse with
  | nil => exact (List.reverse_eq_nil_iff.mp hreverse).symm
  | cons d rest =>
    rw [hreverse, List.head?_cons, ne_eq, Option.some.injEq] at h
    rw [List.dropWhile_cons_of_neg (by simpa using h), ← hreverse, List.reverse_reverse]

/-- A character behind a text is left out. -/
theorem trimEnd_concat (c : Char) (t : Text) : trimEnd c (t ++ [c]) = trimEnd c t := by
  unfold trimEnd
  rw [List.reverse_concat, List.dropWhile_cons, if_pos (beq_self_eq_true c)]

/-- The pieces between the occurrences of a character, in terms of lists. -/
theorem splitAll_eq_splitOn (c : Char) (t : Text) : splitAll c t = t.splitOn c := by
  induction t with
  | nil => rfl
  | cons d t ih =>
    rw [splitAll, List.splitOn_cons_eq_if_modifyHead, ih]
    by_cases hd : d = c
    · rw [if_pos hd, if_pos (beq_iff_eq.mpr hd)]
    · rw [if_neg hd, if_neg (by simpa using hd)]
      obtain ⟨piece, pieces, hpieces⟩ := List.exists_cons_of_ne_nil (List.splitOn_ne_nil c t)
      rw [hpieces]
      rfl

end PathRouting.Text
