import PathRouting.Proofs.Regex.Matching
import PathRouting.Proofs.Segment.Cut
import PathRouting.Proofs.Segment.Expression

/-!
# Matching the expressions of segments is cutting

The ends of a match of the expressions of a row of segments are the cuts of the text, in the greedy
order. What is remembered on the way are the places of the values.
-/

namespace PathRouting

open Regex

namespace Regex.Spot

/-- The text to the right of a spot. -/
def left (x : Spot) (input : Array Char) : Text :=
  input.toList.drop x.place

/-- The place a number of characters further on. -/
def skip (x : Spot) (n : Nat) : Spot :=
  { x with place := x.place + n }

variable {input : Array Char}

/-- Further on, less of the text is left. -/
@[simp] theorem left_skip (x : Spot) (n : Nat) : (x.skip n).left input = (x.left input).drop n := by
  unfold left skip
  rw [List.drop_drop]

/-- Behind the next character the others are left. -/
theorem left_skip_one {x : Spot} {c : Char} {t : Text} (h : x.left input = c :: t) :
    (x.skip 1).left input = t := by
  rw [left_skip, h, List.drop_one, List.tail_cons]

/-- What is left does not depend on what is remembered. -/
@[simp] theorem left_remember (x : Spot) (slot : Nat) :
    (x.remember slot).left input = x.left input :=
  rfl

/-- The characters that are left. -/
theorem length_left (x : Spot) : (x.left input).length = input.size - x.place := by
  simp [left]

/-- The next character is the first one that is left. -/
theorem head?_left (x : Spot) : (x.left input).head? = input[x.place]? := by
  rw [left, List.head?_drop, Array.getElem?_toList]

/-- Places further on add up. -/
@[simp] theorem skip_skip (x : Spot) (n m : Nat) : (x.skip n).skip m = x.skip (n + m) := by
  simp [skip, Nat.add_assoc]

end Regex.Spot

section

variable {input : Array Char}

/-- Two rows in turn. -/
theorem endsAll_append (es ds : List Expr) (x : Spot) :
    endsAll input (es ++ ds) x = (endsAll input es x).flatMap (endsAll input ds) := by
  induction es generalizing x with
  | nil => exact (List.flatMap_singleton _ _).symm
  | cons e es ih =>
    rw [List.cons_append, endsAll, endsAll, List.flatMap_assoc]
    exact List.flatMap_congr fun y _ => ih y

/-- A row of one expression. -/
theorem endsAll_singleton (e : Expr) (x : Spot) : endsAll input [e] x = e.ends input x := by
  rw [endsAll]
  exact List.flatMap_singleton' _

/-- A set takes the next character if there is one in the set. -/
theorem ends_set (s : CharSet) (x : Spot) :
    (Expr.set s).ends input x = match x.left input with
      | c :: _ => if s.contains c then [x.skip 1] else []
      | [] => [] := by
  rw [Expr.ends, ← x.head?_left]
  cases x.left input with
  | nil => rfl
  | cons c t => rfl

/-- A character stands for its case variants. -/
theorem contains_ignoreCase_single (c d : Char) :
    (CharSet.ignoreCase (.single c)).contains d = decide (Unicode.FoldEq c d) := by
  have hsingle : ∀ e, (CharSet.single c).contains e = true ↔ e = c := by
    intro e
    simp only [CharSet.single, CharSet.contains, Bool.and_eq_true, decide_eq_true_eq]
    exact ⟨fun h => Char.le_antisymm h.2 h.1, fun h => h ▸ ⟨Char.le_refl _, Char.le_refl _⟩⟩
  rw [CharSet.contains, Bool.eq_iff_iff, List.any_eq_true, decide_eq_true_eq,
    ← Unicode.mem_caseVariants_iff]
  constructor
  · rintro ⟨e, he, hc⟩
    rwa [← (hsingle e).mp hc]
  · exact fun h => ⟨c, h, (hsingle c).mpr rfl⟩

/-- Only a slash is a slash. -/
theorem contains_slashSet (c : Char) : slashSet.contains c = decide (c = '/') := by
  rw [slashSet, contains_ignoreCase_single]
  exact decide_eq_decide.mpr Unicode.foldEq_slash_iff

/-- One character is taken that is not a slash. -/
theorem ends_noSlash {x : Spot} {c : Char} {t : Text} (h : x.left input = c :: t) :
    (Expr.set (.compl slashSet)).ends input x = if c = '/' then [] else [x.skip 1] := by
  rw [ends_set, h]
  dsimp only
  rw [CharSet.contains, contains_slashSet]
  by_cases hc : c = '/' <;> simp [hc]

/-- Literal text is matched up to case. -/
theorem endsAll_literalExprs (literal : Text) (x : Spot) :
    endsAll input (literalExprs literal) x =
      (takeLiteral literal (x.left input)).map fun (taken, _) => x.skip taken.length := by
  induction literal generalizing x with
  | nil => rfl
  | cons c literal ih =>
    change endsAll input (.set (.ignoreCase (.single c)) :: literalExprs literal) x = _
    rw [endsAll, ends_set]
    cases hleft : x.left input with
    | nil => rfl
    | cons d t =>
      dsimp only
      rw [contains_ignoreCase_single, takeLiteral]
      by_cases hfold : Unicode.FoldEq c d
      · rw [if_pos (decide_eq_true hfold), if_pos hfold, List.flatMap_singleton, ih,
          Spot.left_skip_one hleft, List.map_map]
        refine List.map_congr_left fun p _ => ?_
        simp [Nat.add_comm]
      · rw [if_neg (by simpa using hfold), if_neg hfold]
        rfl

/-- Up to enough rounds of characters other than a slash take a value. -/
theorem upTo_noSlash {n : Nat} {x : Spot} (h : (x.left input).length ≤ n) :
    upTo true ((Expr.set (.compl slashSet)).ends input) n x =
      (takeValue (x.left input)).map fun (taken, _) => x.skip taken.length := by
  induction n generalizing x with
  | zero =>
    rw [List.length_eq_zero_iff.mp (Nat.le_zero.mp h)]
    rfl
  | succ n ih =>
    rw [upTo, if_pos rfl]
    cases hleft : x.left input with
    | nil =>
      rw [ends_set, hleft]
      rfl
    | cons c t =>
      have hnext : (x.skip 1).left input = t := Spot.left_skip_one hleft
      rw [ends_noSlash hleft, takeValue]
      by_cases hc : c = '/'
      · rw [if_pos hc, if_pos hc]
        rfl
      · rw [if_neg hc, if_neg hc, List.flatMap_singleton,
          ih (by rw [hnext]; simpa [hleft] using h), hnext, List.map_append, List.map_map]
        congr 1
        refine List.map_congr_left fun p _ => ?_
        simp [Nat.add_comm]

/-- The values of a parameter without a constraint. -/
theorem ends_plainValue (isOptional : Bool) (x : Spot) :
    (Segment.plainValue isOptional).ends input x =
      ((takeValue (x.left input)).filter fun (taken, _) => isOptional || !taken.isEmpty).map
        fun (taken, _) => x.skip taken.length := by
  cases isOptional with
  | true =>
    change [x].flatMap (fun y => upTo true _ (input.size - y.place) y) = _
    rw [List.flatMap_singleton, upTo_noSlash (Nat.le_of_eq x.length_left)]
    simp
  | false =>
    change (((Expr.set (.compl slashSet)).ends input x).flatMap fun y => [y]).flatMap
      (fun y => upTo true _ (input.size - y.place) y) = _
    rw [List.flatMap_singleton']
    cases hleft : x.left input with
    | nil =>
      rw [ends_set, hleft]
      rfl
    | cons c t =>
      rw [ends_noSlash hleft, takeValue]
      by_cases hc : c = '/'
      · rw [if_pos hc, if_pos hc]
        rfl
      · rw [if_neg hc, if_neg hc, List.flatMap_singleton,
          upTo_noSlash (Nat.le_of_eq (x.skip 1).length_left), Spot.left_skip_one hleft,
          List.filter_append, List.map_append, List.filter_map, List.map_map]
        simp [Function.comp_def, Nat.add_comm]

/-- The separators behind a segment. -/
theorem endsAll_separatorExprs (s : Segment) (x : Spot) :
    endsAll input s.separatorExprs x =
      (s.takeSeparator (x.left input)).map fun p => x.skip (if p.1 then 1 else 0) := by
  have hslash : (Expr.set slashSet).ends input x =
      (Segment.takeSlash (x.left input)).map fun p => x.skip (if p.1 then 1 else 0) := by
    rw [ends_set]
    cases x.left input with
    | nil => rfl
    | cons c t =>
      dsimp only
      rw [contains_slashSet]
      by_cases hc : c = '/'
      · subst hc
        rfl
      · rw [if_neg (by simpa using hc)]
        unfold Segment.takeSlash
        split
        · rename_i heq
          cases heq
          exact absurd rfl hc
        · rfl
  have hend : (Expr.look .textEnd).ends input x =
      (if (x.left input).isEmpty then [(false, x.left input)] else []).map
        fun p : Bool × Text => x.skip (if p.1 then 1 else 0) := by
    rw [Expr.ends, Look.holdsAt, Look.holds, ← x.head?_left]
    cases x.left input <;> rfl
  unfold Segment.separatorExprs Segment.takeSeparator
  split
  · rfl
  · split
    · rw [endsAll_singleton, Expr.ends, hslash, hend, List.map_append]
    · split
      · rw [endsAll_singleton, List.map_append, ← hslash]
        change [x].flatMap (upTo true _ 1) = _
        rw [List.flatMap_singleton, upTo, if_pos rfl]
        change ((Expr.set slashSet).ends input x).flatMap (fun y => [y]) ++ [x] = _
        rw [List.flatMap_singleton']
        rfl
      · rw [endsAll_singleton, hslash]

end

namespace Regex.Spot

/-- The spot behind the value of a segment, which a group may remember. -/
def afterOwn (x : Spot) (s : Segment) (k : Nat) (value : Text) : Spot :=
  match s.name with
  | none => x.skip value.length
  | some _ => ((x.remember (2 * k)).skip value.length).remember (2 * k + 1)

/-- The spot behind a share of a segment, whose value a group may remember. -/
def afterShare (x : Spot) (s : Segment) (k : Nat) (y : Share) : Spot :=
  (((x.skip y.before.length).afterOwn s k y.value).skip y.after.length).skip
    (if y.slash then 1 else 0)

/-- What is left behind a value. -/
@[simp] theorem left_afterOwn (x : Spot) (s : Segment) (k : Nat) (value : Text)
    (input : Array Char) :
    (x.afterOwn s k value).left input = (x.left input).drop value.length := by
  unfold afterOwn
  cases s.name <;> simp

/-- What is left behind a share. -/
theorem left_afterShare (x : Spot) (s : Segment) (k : Nat) (y : Share) (input : Array Char) :
    (x.afterShare s k y).left input = (x.left input).drop y.text.length := by
  unfold afterShare Share.text
  simp only [left_skip, left_afterOwn, List.drop_drop, List.length_append]
  congr 1
  cases y.slash <;> rfl

end Regex.Spot

section

variable {input : Array Char}

/-- The values of a segment. -/
theorem endsAll_plainRead (s : Segment) (k : Nat) (x : Spot) :
    endsAll input (s.plainRead k).exprs x =
      (s.takeOwn (x.left input)).map fun p => x.afterOwn s k p.1 := by
  unfold Segment.plainRead Segment.takeOwn Spot.afterOwn
  cases s.name with
  | none => exact endsAll_literalExprs _ x
  | some name =>
    dsimp only
    rw [endsAll_singleton, Expr.ends, ends_plainValue, List.map_map]
    rfl

/-- The ends of the expressions of a segment are those of its shares, in the greedy order. -/
theorem endsAll_exprs (s : Segment) (k : Nat) (x : Spot) :
    endsAll input (s.exprs (s.plainRead k).exprs) x =
      (s.shares (x.left input)).map fun p => x.afterShare s k p.1 := by
  rw [Segment.exprs, endsAll_append, endsAll_append, endsAll_append, List.flatMap_assoc,
    List.flatMap_assoc, endsAll_literalExprs, List.flatMap_map, Segment.shares, List.map_flatMap]
  refine List.flatMap_congr ?_
  rintro ⟨before, t1⟩ h1
  have hleft1 : (x.skip before.length).left input = t1 := by
    rw [Spot.left_skip, (mem_takeLiteral.mp h1).1, List.drop_left]
  dsimp only
  rw [endsAll_plainRead, hleft1, List.flatMap_map, List.map_flatMap]
  refine List.flatMap_congr ?_
  rintro ⟨value, t2⟩ h2
  have hleft2 : ((x.skip before.length).afterOwn s k value).left input = t2 := by
    rw [Spot.left_afterOwn, hleft1, (Segment.mem_takeOwn.mp h2).1, List.drop_left]
  dsimp only
  rw [endsAll_literalExprs, hleft2, List.flatMap_map, List.map_flatMap]
  refine List.flatMap_congr ?_
  rintro ⟨after, t3⟩ h3
  have hleft3 : (((x.skip before.length).afterOwn s k value).skip after.length).left input = t3 := by
    rw [Spot.left_skip, hleft2, (mem_takeLiteral.mp h3).1, List.drop_left]
  dsimp only
  rw [endsAll_separatorExprs, hleft3, List.map_map]
  rfl

/-- How a value without a constraint is read. -/
def Segment.PlainRead (s : Segment) (k : Nat) (v : Segment.ValueRead) : Prop :=
  v = s.plainRead k

/-- The spot behind the shares of a row of segments. -/
def Regex.Spot.afterShares : Spot → List Segment → Nat → List Share → Spot
  | x, s :: segments, k, y :: shares =>
    (x.afterShare s k y).afterShares segments (s.plainRead k).nextIndex shares
  | x, _, _, _ => x

/-- The ends of the expressions of a row of segments at the end of the text are those of the cuts,
in the greedy order. -/
theorem endsAll_rowExprs {segments : List Segment} {k : Nat} {vs : List Segment.ValueRead}
    (h : Segment.RowRead Segment.PlainRead segments k vs) (x : Spot) :
    endsAll input (Segment.rowExprs segments vs ++ [.look .textEnd]) x =
      (cuts segments (x.left input)).map fun shares => x.afterShares segments k shares := by
  induction h generalizing x with
  | nil k =>
    change endsAll input [.look .textEnd] x = _
    rw [endsAll_singleton, Expr.ends, Look.holdsAt, Look.holds, ← x.head?_left, cuts]
    cases x.left input <;> rfl
  | @cons s rest k v vs hs hrest ih =>
    obtain rfl := hs
    have hrow : Segment.rowExprs (s :: rest) (s.plainRead k :: vs) =
        s.exprs (s.plainRead k).exprs ++ Segment.rowExprs rest vs := rfl
    rw [hrow, List.append_assoc, endsAll_append, endsAll_exprs, List.flatMap_map, cuts,
      List.map_flatMap]
    refine List.flatMap_congr ?_
    rintro ⟨y, t⟩ hy
    have hleft : (x.afterShare s k y).left input = t := by
      rw [Spot.left_afterShare, (Segment.mem_shares.mp hy).1, List.drop_left]
    dsimp only
    rw [ih, hleft, List.map_map]
    rfl

end

end PathRouting
