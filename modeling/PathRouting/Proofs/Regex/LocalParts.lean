import PathRouting.Proofs.Regex.LocalClasses
import PathRouting.Proofs.Regex.Token

/-!
# Parts of an expression before a parenthesis

Groups, repetitions and all other parts of an expression are read in the same way if the text goes
on with a closing parenthesis.
-/

namespace PathRouting.Regex

/-- The name of a group is read before anything that follows. -/
theorem groupName_append {t name left : Text} (h : groupName t = .ok (name, left)) (tail : Text) :
    groupName (t ++ tail) = .ok (name, left ++ tail) := by
  unfold groupName at h ⊢
  split at h
  · rename_i c others d left' htake hdrop
    have hne : t.dropWhile (· != '>') ≠ [] := by simp [hdrop]
    split at h
    · rename_i hgood
      cases h
      simp only [takeWhile_append hne, dropWhile_append hne, htake, hdrop, List.cons_append,
        if_pos hgood]
    · cases h
  · cases h

/-- A list of flags is read before anything that follows. -/
theorem flagList_append {f : Flags} {t left : Text} {token : Token}
    (h : Token.flagList f t = .ok (token, left)) (tail : Text) :
    Token.flagList f (t ++ tail) = .ok (token, left ++ tail) := by
  unfold Token.flagList at h ⊢
  dsimp only at h ⊢
  split at h
  · cases h
  · rename_i c left' hdrop
    have hne : t.dropWhile (fun c => !(c == ':' || c == ')')) ≠ [] := by
      rw [hdrop]
      exact List.cons_ne_nil c left'
    simp only [takeWhile_append hne, dropWhile_append hne, hdrop, List.cons_append]
    split at h
    · cases h
    · rename_i flags hflags
      split at h
      · cases h
        rename_i hcolon
        rw [if_pos hcolon]
      · rename_i hcolon
        rw [if_neg hcolon]
        split at h
        · cases h
        · rename_i hletters
          cases h
          rw [if_neg hletters]

/-- What starts a group is read in the same way before a parenthesis, if it is there. -/
theorem groupHead_append {f : Flags} {t left : Text} {token : Token} (hne : t ≠ [])
    (h : Token.groupHead f t = .ok (token, left)) (tail : Text) :
    Token.groupHead f (t ++ ')' :: tail) = .ok (token, left ++ ')' :: tail) := by
  unfold Token.groupHead at h
  split at h
  · cases h
  · cases h
  · cases h
  · cases h
  · obtain ⟨⟨name, left'⟩, hname, h⟩ := bind_eq_ok h
    cases h
    exact congrArg (· >>= _) (groupName_append hname _)
  -- From here on patterns overlap: those that failed fail before a parenthesis too.
  · rename_i rest hequal hbang
    obtain ⟨⟨name, left'⟩, hname, h⟩ := bind_eq_ok h
    cases h
    have hrest : rest ≠ [] := by
      rintro rfl
      cases hname
    rw [List.cons_append, List.cons_append, Token.groupHead.eq_6 f _ (append_ne_cons hrest hequal _)
      (append_ne_cons hrest hbang _)]
    exact congrArg (· >>= _) (groupName_append hname _)
  · rename_i rest hequal hbang _ _ hnamed hangle
    have hrest : rest ≠ [] := by
      rintro rfl
      cases h
    have hangle' := append_ne_cons hrest hangle (')' :: tail)
    have hnamed' := append_ne_cons_cons hrest (by decide) hnamed tail
    rw [List.cons_append, Token.groupHead.eq_7 f _ (append_ne_cons hrest hequal _)
      (append_ne_cons hrest hbang _) (fun _ => hangle' _) (fun _ => hangle' _) hnamed' hangle']
    exact flagList_append h _
  · rename_i hmark
    cases h
    have hmark' := append_ne_cons hne hmark (')' :: tail)
    exact Token.groupHead.eq_8 f _ (fun _ => hmark' _) (fun _ => hmark' _) (fun _ => hmark' _)
      (fun _ => hmark' _) (fun _ => hmark' _) (fun _ => hmark' _) hmark'

/-- A group, or a list of flags, is read up to a parenthesis. -/
theorem local_groupStart (f : Flags) : Local f.verbose (Token.groupStart f) := by
  intro t token left h
  unfold Token.groupStart at h ⊢
  by_cases hne : skipBlanks f.verbose t = []
  · rw [hne] at h
    cases h
    rcases skipBlanks_close hne with hall | ⟨hverbose, hend⟩
    · left
      intro rest
      rw [hall]
      rfl
    · right
      rw [hend]
      exact ⟨hverbose, rfl, rfl⟩
  · left
    intro tail
    rw [skipBlanks_append hne]
    exact groupHead_append hne h tail

/-- A number is read in the same way if something is left behind it. -/
theorem decimal_append {v : Bool} {t left : Text} {value : Option Nat}
    (h : decimal v t = (value, left)) (hleft : left ≠ []) (tail : Text) :
    decimal v (t ++ tail) = (value, left ++ tail) := by
  unfold decimal at h ⊢
  have hne : t.dropWhile isSpace ≠ [] := by
    intro hnil
    rw [hnil] at h
    cases h
    exact hleft rfl
  rw [dropWhile_append hne]
  cases hcollect : collect v Text.isDigit (t.dropWhile isSpace) with
  | mk digits mid =>
    rw [hcollect] at h
    cases h
    have hmid : mid ≠ [] := by
      rintro rfl
      exact hleft rfl
    rw [collect_append hcollect hmid]
    dsimp only
    rw [dropWhile_append hleft]

/-- The counts of a repetition are read before anything that follows. -/
theorem counts_append {v : Bool} {t left : Text} {range : Nat × Option Nat}
    (h : counts v t = .ok (range, left)) (tail : Text) :
    counts v (t ++ tail) = .ok (range, left ++ tail) := by
  have hnil : ∀ {value : Option Nat} {mid : Text}, decimal v [] = (value, mid) → mid = [] := by
    intro value mid h
    cases h
    rfl
  unfold counts at h ⊢
  have hne : skipBlanks v t ≠ [] := by
    intro hskip
    rw [hskip] at h
    cases h
  rw [skipBlanks_append hne]
  generalize skipBlanks v t = u at h hne ⊢
  cases hdecimal : decimal v u with
  | mk least mid =>
    rw [hdecimal] at h
    dsimp only at h
    split at h
    · cases h
    · rename_i min
      split at h
      · rename_i left'
        cases h
        rw [decimal_append hdecimal (List.cons_ne_nil _ _)]
        rfl
      · rename_i left'
        rw [decimal_append hdecimal (List.cons_ne_nil _ _)]
        simp only [List.cons_append]
        have hne : skipBlanks v left' ≠ [] := by
          intro hskip
          rw [hskip] at h
          cases h
        rw [skipBlanks_append hne]
        generalize skipBlanks v left' = w at h hne ⊢
        split at h
        · cases h
          rfl
        · rename_i hbrace
          split at h
          · rename_i max left'' hmax
            cases h
            have happend := decimal_append hmax (List.cons_ne_nil _ _) tail
            split
            · rename_i heq
              obtain ⟨x, rfl⟩ := exists_eq_cons_of_append hne heq
              exact absurd rfl (hbrace x)
            · simp only [happend, List.cons_append]
          · cases h
      · cases h

/-- Behind a sign of repetition no parenthesis is read. -/
theorem local_sign (v : Bool) (min : Nat) (max : Option Nat) : Local v (Token.sign min max) := by
  refine .of_append fun t token left h rest => ?_
  unfold Token.sign at h
  split at h
  · cases h
    rfl
  · rename_i hmark
    cases h
    cases t with
    | nil => rfl
    | cons c t =>
      exact Token.sign.eq_2 min max _ (append_ne_cons (List.cons_ne_nil c t) hmark _)

/-- A repetition with counts is read up to a parenthesis. -/
theorem local_counted (f : Flags) : Local f.verbose (Token.counted f) := by
  intro t token left h
  unfold Token.counted at h ⊢
  obtain ⟨⟨⟨min, max⟩, mid⟩, hcounts, h⟩ := bind_eq_ok h
  simp only [counts_append hcounts]
  dsimp only [bind, Except.bind] at h ⊢
  split at h
  · cases h
  · rename_i hrange
    simp only [if_neg hrange]
    refine (local_sign f.verbose min max).skip (fun a left h => ?_) mid token left h
    cases h
    rfl

/-- Each token is read up to a parenthesis. -/
theorem local_token (f : Flags) (c : Char) : Local f.verbose (Token.read f c) := by
  intro t token left h
  unfold Token.read at h
  split at h
  · exact local_groupStart f t token left h
  · cases h
    exact .inl fun rest => rfl
  · cases h
    exact .inl fun rest => rfl
  · obtain ⟨⟨n, left'⟩, hclass, h⟩ := bind_eq_ok h
    cases h
    exact .inl fun rest => congrArg (· >>= _) (bracketedClass_append hclass rest)
  · exact local_sign f.verbose _ _ t token left h
  · exact local_sign f.verbose _ _ t token left h
  · exact local_sign f.verbose _ _ t token left h
  · exact local_counted f t token left h
  · exact ((local_primitive f).map fun p => .ok (Token.primitive p)) t token left h
  · obtain ⟨s, hdot, h⟩ := bind_eq_ok h
    cases h
    exact .inl fun rest => congrArg (· >>= _) hdot
  · cases h
    exact .inl fun rest => rfl
  · cases h
    exact .inl fun rest => rfl
  · cases h
    left
    intro rest
    unfold Token.read
    split
    all_goals first
      | contradiction
      | rfl

/-- Each part of an expression is read up to a parenthesis. -/
theorem local_readPart (r : Reading) (c : Char) : Local r.flags.verbose (readPart r c) := by
  rw [funext (readPart_eq r c)]
  exact (local_token r.flags c).map r.take

end PathRouting.Regex
