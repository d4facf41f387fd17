import PathRouting.Proofs.Regex.Locality

/-!
# Escape sequences before a parenthesis

What a backslash starts is read in the same way if the text goes on with a closing parenthesis. An
escape sequence may pass over blanks behind it, and with them over a comment that goes on.
-/

namespace PathRouting.Regex

/-- Hexadecimal digits are read up to a parenthesis. -/
theorem hexDigits_close {v : Bool} {count : Nat} {t left : Text} {digits : List Nat}
    (h : hexDigits v count t = some (digits, left)) :
    (∀ rest, hexDigits v count (t ++ ')' :: rest) = some (digits, left ++ ')' :: rest)) ∨
      (v = true ∧ left = [] ∧ hexDigits v count (t ++ [')']) = some (digits, [])) := by
  induction count generalizing t digits with
  | zero =>
    cases h
    exact .inl fun rest => rfl
  | succ count ih =>
    cases t with
    | nil => cases h
    | cons c t =>
      simp only [List.cons_append]
      unfold hexDigits at h ⊢
      dsimp only at h ⊢
      cases hc : Text.hexValue? c with
      | none =>
        rw [hc] at h
        cases h
      | some digit =>
        rw [hc] at h
        dsimp only at h ⊢
        obtain ⟨⟨others, left'⟩, hothers, heq⟩ := Option.map_eq_some_iff.mp h
        cases heq
        by_cases ht : skipBlanks v t = []
        · have hzero : left' = [] ∧ count = 0 ∧ others = [] := by
            rw [ht] at hothers
            cases count with
            | zero =>
              cases hothers
              exact ⟨rfl, rfl, rfl⟩
            | succ count => cases hothers
          obtain ⟨rfl, rfl, rfl⟩ := hzero
          rcases skipBlanks_close ht with hall | ⟨hverbose, hend⟩
          · left
            intro rest
            rw [hall]
            rfl
          · right
            rw [hend]
            exact ⟨hverbose, rfl, rfl⟩
        · rcases ih hothers with hall | ⟨hverbose, rfl, hend⟩
          · left
            intro rest
            rw [skipBlanks_append ht, hall]
            rfl
          · right
            rw [skipBlanks_append ht, hend]
            exact ⟨hverbose, rfl, rfl⟩

/-- A code point is read up to a parenthesis. -/
theorem local_hexEscape (v : Bool) (width : Nat) : Local v (hexEscape v (width + 1)) := by
  intro t a left h
  have hne : skipBlanks v t ≠ [] := by
    intro hnil
    unfold hexEscape at h
    rw [hnil] at h
    cases h
  unfold hexEscape at h ⊢
  simp only [skipBlanks_append hne]
  generalize skipBlanks v t = u at h hne ⊢
  split at h
  · rename_i rest
    split at h
    · rename_i d digits left' hcollect
      obtain ⟨c, hc, h⟩ := bind_eq_ok h
      cases h
      simp only [List.cons_append, collect_append hcollect (List.cons_ne_nil _ _), hc]
      rcases skipBlanks_local v left' with hall | ⟨hverbose, hnil, hend⟩
      · left
        intro rest
        rw [hall]
        rfl
      · right
        rw [hend]
        exact ⟨hverbose, hnil, rfl⟩
    · cases h
  · rename_i hbrace
    have hbrace' : ∀ tail rest, u ++ tail = '\x7b' :: rest → False := by
      intro tail rest heq
      cases u with
      | nil => exact hne rfl
      | cons c u => exact hbrace u (by rw [(List.cons.inj heq).1])
    split at h
    · cases h
    · rename_i digits left' hdigits
      obtain ⟨c, hc, h⟩ := bind_eq_ok h
      cases h
      rcases hexDigits_close hdigits with hall | ⟨hverbose, rfl, hend⟩
      · left
        intro rest
        split
        · rename_i heq
          exact absurd heq (hbrace' _ _)
        · rw [hall]
          dsimp only
          rw [hc]
          rfl
      · right
        refine ⟨hverbose, rfl, ?_⟩
        split
        · rename_i heq
          exact absurd heq (hbrace' _ _)
        · rw [hend]
          dsimp only
          rw [hc]
          rfl

/-- A property is read up to a parenthesis. -/
theorem local_propertyEscape (f : Flags) (negated : Bool) :
    Local f.verbose (propertyEscape f negated) := by
  intro t a left h
  have hne : skipBlanks f.verbose t ≠ [] := by
    intro hnil
    unfold propertyEscape at h
    rw [hnil] at h
    cases h
  unfold propertyEscape at h ⊢
  simp only [skipBlanks_append hne]
  generalize skipBlanks f.verbose t = u at h hne ⊢
  dsimp only [bind, Except.bind] at h ⊢
  split at h
  · exact absurd rfl hne
  · rename_i rest
    split at h
    · rename_i content c left' hcollect
      left
      intro tail
      rw [List.cons_append]
      split
      · rename_i heq
        cases heq
      · rename_i heq
        cases heq
        rw [collect_append hcollect (List.cons_ne_nil _ _), List.cons_append]
        split at h
        · cases h
        · rename_i hunicode
          dsimp only
          rw [if_neg hunicode]
          split at h
          · cases h
          · cases h
            rfl
      · rename_i hbrace heq
        cases heq
        exact (hbrace rfl).elim
    · cases h
  · rename_i c rest hc
    simp only [List.cons_append]
    split at h
    · cases h
    · rename_i hslash
      simp only [if_neg hslash]
      split at h
      · cases h
      · rename_i hunicode
        simp only [if_neg hunicode]
        split at h
        · cases h
        · rename_i s hs
          cases h
          rcases skipBlanks_local f.verbose rest with hall | ⟨hverbose, hnil, hend⟩
          · left
            intro tail
            rw [hall]
            rfl
          · right
            rw [hend]
            exact ⟨hverbose, hnil, rfl⟩

/-- The bound of a word is read up to a parenthesis. -/
theorem local_wordBoundEscape (f : Flags) : Local f.verbose (wordBoundEscape f) := by
  refine .of_append fun t a left h tail => ?_
  unfold wordBoundEscape at h ⊢
  dsimp only at h ⊢
  split at h
  · rename_i rest
    simp only [List.cons_append]
    split at h
    · cases h
    · rename_i c rest' hskip
      have hne : skipBlanks f.verbose rest ≠ [] := by simp [hskip]
      simp only [skipBlanks_append hne, hskip, List.cons_append]
      split at h
      · rename_i hname
        rw [if_pos hname]
        split at h
        · rename_i name left' hcollect
          have happend := collect_append hcollect (List.cons_ne_nil _ _) (')' :: tail)
          rw [List.cons_append] at happend
          simp only [happend, List.cons_append]
          split at h
          · rename_i bound hbound
            cases h
            rfl
          · cases h
        · cases h
      · rename_i hname
        rw [if_neg hname]
        cases h
        rfl
  · rename_i hbrace
    cases h
    cases t with
    | nil => rfl
    | cons c t =>
      split
      · rename_i heq
        cases heq
        exact absurd rfl (hbrace _)
      · rfl

/-- An escape sequence is read up to a parenthesis. -/
theorem local_primitive (f : Flags) : Local f.verbose (primitive f) := by
  intro t a left h
  cases t with
  | nil => cases h
  | cons c t =>
    have hsimple : ∀ x : Except Error Primitive, (∀ t, primitive f (c :: t) = x.map (·, t)) →
        (∀ rest, primitive f (c :: t ++ ')' :: rest) = .ok (a, left ++ ')' :: rest)) ∨
          (f.verbose = true ∧ left = [] ∧ primitive f (c :: t ++ [')']) = .ok (a, [])) := by
      intro x hx
      left
      intro rest
      rw [hx] at h
      rw [List.cons_append, hx]
      cases x with
      | error e => cases h
      | ok p =>
        cases h
        rfl
    have hperl : (∀ t, primitive f (c :: t) = (perlSet f c).map fun s => (.set s, t)) →
        (∀ rest, primitive f (c :: t ++ ')' :: rest) = .ok (a, left ++ ')' :: rest)) ∨
          (f.verbose = true ∧ left = [] ∧ primitive f (c :: t ++ [')']) = .ok (a, [])) := by
      intro hx
      refine hsimple ((perlSet f c).map .set) fun t => ?_
      rw [hx]
      cases perlSet f c <;> rfl
    unfold primitive at h
    dsimp only at h
    split at h
    any_goals exact hsimple (.ok _) fun t => rfl
    any_goals exact hperl fun t => rfl
    · exact local_hexEscape f.verbose 1 t a left h
    · exact local_hexEscape f.verbose 3 t a left h
    · exact local_hexEscape f.verbose 7 t a left h
    · exact local_propertyEscape f false t a left h
    · exact local_propertyEscape f true t a left h
    · exact local_wordBoundEscape f t a left h
    · refine hsimple (if Text.isDigit c then .error .backReference
        else if isMeta c || isEscapable c then .ok (.char c false) else .error .escape) fun t => ?_
      unfold primitive
      dsimp only
      split
      any_goals contradiction
      split
      · rfl
      · split <;> rfl

end PathRouting.Regex
