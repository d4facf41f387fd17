import PathRouting.Proofs.Segment.CutEnds
import PathRouting.Proofs.Text.LetterCase

/-!
# The case of letters in cuts

A path is cut in the same way whatever the case of its letters is: the shares of a path in lower case
are those of the path in lower case, in the same order, and every share is as long as before.
-/

namespace PathRouting

open Unicode (FoldEq simpleFold)

/-- A character and its lower case are equal to the same characters up to case. -/
theorem foldEq_toLower {c d : Char} : FoldEq c d.toLower ↔ FoldEq c d := by
  have hfold : ∀ k < 26, simpleFold (65 + k + 32) = simpleFold (65 + k) := by decide +kernel
  unfold FoldEq
  rcases toLower_cases d with ⟨hlow, hhigh, hlower⟩ | ⟨-, hlower⟩
  · have hd := hfold (d.toNat - 65) (by omega)
    rw [Nat.add_sub_cancel' hlow] at hd
    rw [hlower, hd]
  · rw [hlower]

/-- The slash is the only character that has it as its lower case. -/
theorem toLower_eq_slash_iff {c : Char} : c.toLower = '/' ↔ c = '/' :=
  toLower_eq_iff (by decide) (by decide)

/-- A share in lower case. -/
def Share.lower (x : Share) : Share where
  before := x.before.lower
  value := x.value.lower
  after := x.after.lower
  slash := x.slash

/-- Literal text is taken in either case. -/
theorem takeLiteral_lower (literal t : Text) : takeLiteral literal t.lower =
    (takeLiteral literal t).map (Prod.map Text.lower Text.lower) := by
  induction literal generalizing t with
  | nil => rfl
  | cons c literal ih =>
    cases t with
    | nil => rfl
    | cons d t =>
      change (if FoldEq c d.toLower then (takeLiteral literal (Text.lower t)).map _ else []) = _
      rw [takeLiteral, ih]
      by_cases h : FoldEq c d
      · rw [if_pos h, if_pos (foldEq_toLower.mpr h), List.map_map, List.map_map]
        rfl
      · rw [if_neg h, if_neg (mt foldEq_toLower.mp h)]
        rfl

/-- As much is taken as a value in either case. -/
theorem takeValue_lower (t : Text) :
    takeValue t.lower = (takeValue t).map (Prod.map Text.lower Text.lower) := by
  induction t with
  | nil => rfl
  | cons c t ih =>
    change (if c.toLower = '/' then [([], c.toLower :: Text.lower t)]
      else (takeValue (Text.lower t)).map _ ++ [([], c.toLower :: Text.lower t)]) = _
    rw [takeValue, ih]
    by_cases h : c = '/'
    · rw [if_pos h, if_pos (toLower_eq_slash_iff.mpr h)]
      rfl
    · rw [if_neg h, if_neg (mt toLower_eq_slash_iff.mp h), List.map_append, List.map_map,
        List.map_map]
      rfl

namespace Segment

/-- As much is taken as the value of a segment in either case. -/
theorem takeOwn_lower (s : Segment) (t : Text) :
    s.takeOwn t.lower = (s.takeOwn t).map (Prod.map Text.lower Text.lower) := by
  unfold takeOwn
  cases s.name with
  | none => exact takeLiteral_lower _ t
  | some name =>
    dsimp only
    rw [takeValue_lower, List.filter_map]
    refine congrArg _ (List.filter_congr fun p _ => ?_)
    have hempty : (Text.lower p.1).isEmpty = p.1.isEmpty := List.isEmpty_map ..
    change (s.isOptional || !(Text.lower p.1).isEmpty) = (s.isOptional || !p.1.isEmpty)
    rw [hempty]

/-- No slash is taken where none stands. -/
theorem takeSlash_of_ne {c : Char} (h : c ≠ '/') (t : Text) : takeSlash (c :: t) = [] := by
  unfold takeSlash
  split
  · rename_i heq
    exact absurd (List.cons.inj heq).1 h
  · rfl

/-- A separator is taken in either case. -/
theorem takeSeparator_lower (s : Segment) (t : Text) :
    s.takeSeparator t.lower = (s.takeSeparator t).map (Prod.map id Text.lower) := by
  have hslash : takeSlash t.lower = (takeSlash t).map (Prod.map id Text.lower) := by
    cases t with
    | nil => rfl
    | cons c t =>
      by_cases h : c = '/'
      · subst h
        rfl
      · change takeSlash (c.toLower :: Text.lower t) = _
        rw [takeSlash_of_ne h, takeSlash_of_ne (mt toLower_eq_slash_iff.mp h)]
        rfl
  have hempty : t.lower.isEmpty = t.isEmpty := List.isEmpty_map ..
  unfold takeSeparator
  rw [hslash, hempty]
  repeat' split
  all_goals simp

/-- The shares of a path in lower case are those of the path in lower case. -/
theorem shares_lower (s : Segment) (t : Text) :
    s.shares t.lower = (s.shares t).map (Prod.map Share.lower Text.lower) := by
  unfold shares
  rw [takeLiteral_lower, List.flatMap_map, List.map_flatMap]
  refine List.flatMap_congr fun p _ => ?_
  dsimp only [Prod.map]
  rw [takeOwn_lower, List.flatMap_map, List.map_flatMap]
  refine List.flatMap_congr fun p _ => ?_
  dsimp only [Prod.map]
  rw [takeLiteral_lower, List.flatMap_map, List.map_flatMap]
  refine List.flatMap_congr fun p _ => ?_
  dsimp only [Prod.map]
  rw [takeSeparator_lower, List.map_map, List.map_map]
  rfl

end Segment

/-- The cuts of a path in lower case are those of the path in lower case. -/
theorem cuts_lower (segments : List Segment) (t : Text) :
    cuts segments t.lower = (cuts segments t).map (List.map Share.lower) := by
  induction segments generalizing t with
  | nil => cases t <;> rfl
  | cons s segments ih =>
    rw [cuts, cuts, Segment.shares_lower, List.flatMap_map, List.map_flatMap]
    refine List.flatMap_congr fun p _ => ?_
    dsimp only [Prod.map]
    rw [ih, List.map_map, List.map_map]
    rfl

namespace Regex.Spot

/-- A share in lower case leads to the same spot and has the same places remembered. -/
theorem afterShare_lower (x : Spot) (s : Segment) (k : Nat) (y : Share) :
    x.afterShare s k y.lower = x.afterShare s k y := by
  unfold afterShare afterOwn Share.lower Text.lower
  dsimp only
  rw [List.length_map, List.length_map, List.length_map]

/-- Shares in lower case lead to the same spot and have the same places remembered. -/
theorem afterShares_lower (x : Spot) (segments : List Segment) (k : Nat) (shares : List Share) :
    x.afterShares segments k (shares.map Share.lower) = x.afterShares segments k shares := by
  induction shares generalizing x segments k with
  | nil => rfl
  | cons y shares ih =>
    cases segments with
    | nil => rfl
    | cons s segments =>
      rw [List.map_cons, afterShares, afterShares, afterShare_lower, ih]

end Regex.Spot

end PathRouting
