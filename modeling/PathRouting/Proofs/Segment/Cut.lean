import Mathlib.Data.List.Basic
import Mathlib.Data.List.Lex
import Mathlib.Tactic.Common
import PathRouting.Proofs.Unicode.CaseVariants
import PathRouting.Route.Compiled

/-!
# Cutting a path into the shares of segments

What it means that a row of segments matches a path, without any expression: the path is cut into
one share for each segment. Where several cuts exist, the first one in the greedy order counts:
segment by segment a longer value comes first, and then a share with a separator. The cuts of a
path can be listed in this order.
-/

namespace PathRouting

open Unicode (FoldEq simpleFold)

/-- What one segment takes of a path. -/
structure Share where
  /-- The text before the value. -/
  before : Text
  /-- The value, or a piece of literal text. -/
  value : Text
  /-- The text behind the value. -/
  after : Text
  /-- Whether a separator follows. -/
  slash : Bool
deriving DecidableEq

namespace Share

/-- The text of a share. -/
def text (x : Share) : Text :=
  x.before ++ x.value ++ x.after ++ if x.slash then ['/'] else []

/-- The greedy order of two shares that start at the same place. -/
def Precedes (x y : Share) : Prop :=
  y.value.length < x.value.length ∨
    (x.value.length = y.value.length ∧ x.slash = true ∧ y.slash = false)

end Share

/-- Two texts are equal up to simple case folding. -/
def SameFolding (t u : Text) : Prop :=
  t.map (fun c => simpleFold c.toNat) = u.map fun c => simpleFold c.toNat

instance (t u : Text) : Decidable (SameFolding t u) :=
  inferInstanceAs (Decidable (_ = _))

namespace Segment

/-- A separator may stand behind a segment, or may be missing before the rest of the path. -/
def Separates (s : Segment) (slash : Bool) (rest : Text) : Prop :=
  if s.isGlued then slash = false
  else if !s.isOptional && !s.isLast && !s.optionalRest then slash = true
  else if !s.isOptional && s.optionalRest then slash = true ∨ rest = []
  else True

/-- A parameter without a constraint takes no slash, and something if it is required. -/
def PlainValue (s : Segment) (value : Text) : Prop :=
  '/' ∉ value ∧ (s.isOptional = false → value ≠ [])

/-- A segment takes a share of a path before the rest of it. -/
structure Takes (allowed : Segment → Text → Prop) (s : Segment) (x : Share) (rest : Text) :
    Prop where
  /-- The text before the value is that of the segment. -/
  before : SameFolding x.before (Regex.unescape s.before)
  /-- A piece of literal text is that of the segment. -/
  literal : s.name = none → SameFolding x.value (Regex.unescape s.pattern)
  /-- A value is one of those that are allowed. -/
  value : s.name ≠ none → allowed s x.value
  /-- The text behind the value is that of the segment. -/
  after : SameFolding x.after (Regex.unescape s.after)
  /-- The separator may be as it is. -/
  separator : s.Separates x.slash rest

end Segment

/-- A path can be cut into shares, one for each of a row of segments. -/
def IsCut (allowed : Segment → Text → Prop) : List Segment → List Share → Text → Prop
  | [], [], path => path = []
  | s :: segments, x :: shares, path =>
    ∃ rest, path = x.text ++ rest ∧ s.Takes allowed x rest ∧ IsCut allowed segments shares rest
  | _, _, _ => False

/-- Where no segment is left, no share is, and nothing of the path. -/
theorem isCut_nil_iff {allowed : Segment → Text → Prop} {shares : List Share} {path : Text} :
    IsCut allowed [] shares path ↔ shares = [] ∧ path = [] := by
  cases shares with
  | nil => exact (and_iff_right rfl).symm
  | cons x shares => exact ⟨False.elim, fun h => nomatch h.1⟩

/-- The first segment has the first share, and the others cut what is left of the path. -/
theorem isCut_cons_iff {allowed : Segment → Text → Prop} {s : Segment} {segments : List Segment}
    {shares : List Share} {path : Text} : IsCut allowed (s :: segments) shares path ↔
      ∃ x later rest, shares = x :: later ∧ path = x.text ++ rest ∧ s.Takes allowed x rest ∧
        IsCut allowed segments later rest := by
  constructor
  · intro h
    cases shares with
    | nil => exact h.elim
    | cons x later =>
      obtain ⟨rest, hpath, htakes, hcut⟩ := h
      exact ⟨x, later, rest, rfl, hpath, htakes, hcut⟩
  · rintro ⟨x, later, rest, rfl, hpath, htakes, hcut⟩
    exact ⟨rest, hpath, htakes, hcut⟩

/-- Induction on a cut goes segment by segment, each with its share. -/
@[elab_as_elim]
theorem IsCut.induction {allowed : Segment → Text → Prop}
    {motive : (segments : List Segment) → (shares : List Share) → (path : Text) →
      IsCut allowed segments shares path → Prop}
    (nil : motive [] [] [] rfl)
    (cons : ∀ (s : Segment) (segments : List Segment) (x : Share) (shares : List Share)
      (rest : Text) (htakes : s.Takes allowed x rest) (hcut : IsCut allowed segments shares rest),
      motive segments shares rest hcut →
        motive (s :: segments) (x :: shares) (x.text ++ rest) ⟨rest, rfl, htakes, hcut⟩)
    {segments : List Segment} {shares : List Share} {path : Text}
    (h : IsCut allowed segments shares path) : motive segments shares path h := by
  induction segments generalizing shares path with
  | nil =>
    obtain ⟨rfl, rfl⟩ := isCut_nil_iff.mp h
    exact nil
  | cons s segments ih =>
    obtain ⟨x, shares, rest, rfl, rfl, htakes, hcut⟩ := isCut_cons_iff.mp h
    exact cons s segments x shares rest htakes hcut (ih hcut)

/-- A cut that comes before all others in the greedy order. -/
def IsFirstCut (allowed : Segment → Text → Prop) (segments : List Segment) (shares : List Share)
    (path : Text) : Prop :=
  IsCut allowed segments shares path ∧ ∀ others, IsCut allowed segments others path →
    others = shares ∨ List.Lex Share.Precedes shares others

/-- What stands before and behind a text at the start of another one, up to case. -/
def takeLiteral : Text → Text → List (Text × Text)
  | [], t => [([], t)]
  | _ :: _, [] => []
  | c :: literal, d :: t =>
    if FoldEq c d then (takeLiteral literal t).map fun (taken, rest) => (d :: taken, rest) else []

/-- The ways to take characters other than a slash, longer ones first. -/
def takeValue : Text → List (Text × Text)
  | [] => [([], [])]
  | c :: t =>
    if c = '/' then [([], c :: t)]
    else (takeValue t).map (fun (taken, rest) => (c :: taken, rest)) ++ [([], c :: t)]

namespace Segment

/-- The ways to take the value of a segment, longer ones first. -/
def takeOwn (s : Segment) (t : Text) : List (Text × Text) :=
  match s.name with
  | none => takeLiteral (Regex.unescape s.pattern) t
  | some _ => (takeValue t).filter fun (taken, _) => s.isOptional || !taken.isEmpty

/-- The ways to take a slash. -/
def takeSlash : Text → List (Bool × Text)
  | '/' :: rest => [(true, rest)]
  | _ => []

/-- The ways to take a separator, the one with a slash first. -/
def takeSeparator (s : Segment) (t : Text) : List (Bool × Text) :=
  if s.isGlued then [(false, t)]
  else if s.optionalRest && !s.isOptional then
    takeSlash t ++ if t.isEmpty then [(false, t)] else []
  else if s.isOptional || s.isLast || s.optionalRest then takeSlash t ++ [(false, t)]
  else takeSlash t

/-- The shares that a segment can take of a path, in the greedy order. -/
def shares (s : Segment) (t : Text) : List (Share × Text) :=
  (takeLiteral (Regex.unescape s.before) t).flatMap fun (before, t) =>
    (s.takeOwn t).flatMap fun (value, t) =>
      (takeLiteral (Regex.unescape s.after) t).flatMap fun (after, t) =>
        (s.takeSeparator t).map fun (slash, t) => (⟨before, value, after, slash⟩, t)

end Segment

/-- The cuts of a path, in the greedy order. -/
def cuts : List Segment → Text → List (List Share)
  | [], t => if t.isEmpty then [[]] else []
  | s :: segments, t =>
    (s.shares t).flatMap fun (x, rest) => (cuts segments rest).map (x :: ·)

/-- Only the empty text is equal to the empty text. -/
theorem sameFolding_nil_iff {t : Text} : SameFolding t [] ↔ t = [] := by
  simp [SameFolding]

/-- Texts that are equal up to case start with characters that are. -/
theorem sameFolding_cons_iff {t u : Text} {c : Char} :
    SameFolding t (c :: u) ↔ ∃ d v, t = d :: v ∧ FoldEq d c ∧ SameFolding v u := by
  unfold SameFolding FoldEq
  rw [List.map_cons, List.map_eq_cons_iff]

/-- A text is taken if the characters at the start are its own up to case. -/
theorem mem_takeLiteral {literal t taken rest : Text} :
    (taken, rest) ∈ takeLiteral literal t ↔ t = taken ++ rest ∧ SameFolding taken literal := by
  induction literal generalizing t taken with
  | nil =>
    rw [takeLiteral, List.mem_singleton, Prod.mk.injEq, sameFolding_nil_iff]
    constructor
    · rintro ⟨rfl, rfl⟩
      exact ⟨rfl, rfl⟩
    · rintro ⟨rfl, rfl⟩
      exact ⟨rfl, rfl⟩
  | cons c literal ih =>
    rw [sameFolding_cons_iff]
    cases t with
    | nil =>
      rw [takeLiteral]
      constructor
      · intro h
        exact absurd h List.not_mem_nil
      · rintro ⟨h, d, taken, rfl, -⟩
        simp at h
    | cons d t =>
      rw [takeLiteral]
      constructor
      · intro h
        split at h
        · rename_i hfold
          obtain ⟨⟨taken', rest'⟩, hmem, heq⟩ := List.mem_map.mp h
          cases heq
          obtain ⟨rfl, hsame⟩ := ih.mp hmem
          exact ⟨rfl, d, taken', rfl, hfold.symm, hsame⟩
        · exact absurd h List.not_mem_nil
      · rintro ⟨h, e, taken, rfl, hfold, hsame⟩
        cases h
        rw [if_pos (show FoldEq c d from hfold.symm)]
        exact List.mem_map.mpr ⟨(taken, rest), ih.mpr ⟨rfl, hsame⟩, rfl⟩

/-- A value is taken if it holds no slash. -/
theorem mem_takeValue {t taken rest : Text} :
    (taken, rest) ∈ takeValue t ↔ t = taken ++ rest ∧ '/' ∉ taken := by
  induction t generalizing taken with
  | nil =>
    rw [takeValue, List.mem_singleton, Prod.mk.injEq]
    constructor
    · rintro ⟨rfl, rfl⟩
      exact ⟨rfl, List.not_mem_nil⟩
    · rintro ⟨h, -⟩
      exact List.append_eq_nil_iff.mp h.symm
  | cons c t ih =>
    rw [takeValue]
    cases taken with
    | nil =>
      have hiff : ([], rest) ∈ (if c = '/' then [([], c :: t)]
          else (takeValue t).map (fun (taken, rest) => (c :: taken, rest)) ++ [([], c :: t)]) ↔
          c :: t = rest := by
        split <;> simp [eq_comm]
      rw [hiff]
      simp
    | cons d taken =>
      split
      · rename_i hc
        subst hc
        have hleft : (d :: taken, rest) ∉ [(([] : Text), '/' :: t)] := by simp
        have hright : ¬('/' :: t = d :: taken ++ rest ∧ '/' ∉ d :: taken) := by
          rintro ⟨h, hmem⟩
          cases h
          exact hmem List.mem_cons_self
        exact iff_of_false hleft hright
      · rename_i hc
        have hiff : (d :: taken, rest) ∈ (takeValue t).map (fun (taken, rest) => (c :: taken, rest))
            ++ [([], c :: t)] ↔ d = c ∧ (taken, rest) ∈ takeValue t := by
          simp [and_comm, eq_comm]
        rw [hiff, ih, List.mem_cons, not_or, List.cons_append, List.cons.injEq]
        constructor
        · rintro ⟨rfl, rfl, hmem⟩
          exact ⟨⟨rfl, rfl⟩, Ne.symm hc, hmem⟩
        · rintro ⟨⟨rfl, rfl⟩, -, hmem⟩
          exact ⟨rfl, rfl, hmem⟩

namespace Segment

/-- The ways to take the value of a segment. -/
theorem mem_takeOwn {s : Segment} {t taken rest : Text} :
    (taken, rest) ∈ s.takeOwn t ↔ t = taken ++ rest ∧
      (s.name = none → SameFolding taken (Regex.unescape s.pattern)) ∧
      (s.name ≠ none → s.PlainValue taken) := by
  unfold takeOwn
  cases hname : s.name with
  | none => simp [mem_takeLiteral]
  | some name =>
    dsimp only
    rw [List.mem_filter, mem_takeValue]
    unfold PlainValue
    cases s.isOptional <;> simp [and_assoc]

/-- The ways to take a separator. -/
theorem mem_takeSeparator {s : Segment} {t rest : Text} {slash : Bool} :
    (slash, rest) ∈ s.takeSeparator t ↔
      t = (if slash then ['/'] else []) ++ rest ∧ s.Separates slash rest := by
  have hslash : (slash, rest) ∈ takeSlash t ↔ slash = true ∧ t = '/' :: rest := by
    unfold takeSlash
    split
    · simp [eq_comm]
    · rename_i hne
      constructor
      · intro h
        exact absurd h List.not_mem_nil
      · rintro ⟨-, rfl⟩
        exact absurd rfl (hne rest)
  have hnone : (slash, rest) ∈ [(false, t)] ↔ slash = false ∧ t = rest := by
    simp [eq_comm]
  have hend : t = [] ∧ t = rest ↔ t = rest ∧ rest = [] := by
    constructor
    · rintro ⟨rfl, rfl⟩
      exact ⟨rfl, rfl⟩
    · rintro ⟨rfl, rfl⟩
      exact ⟨rfl, rfl⟩
  unfold takeSeparator Separates
  cases slash with
  | false =>
    cases s.isGlued <;> cases s.isOptional <;> cases s.isLast <;> cases s.optionalRest <;>
      simp [hslash, hnone, hend]
  | true =>
    cases s.isGlued <;> cases s.isOptional <;> cases s.isLast <;> cases s.optionalRest <;>
      simp [hslash, hnone]

/-- The shares that a segment can take. -/
theorem mem_shares {s : Segment} {t rest : Text} {x : Share} :
    (x, rest) ∈ s.shares t ↔ t = x.text ++ rest ∧ s.Takes PlainValue x rest := by
  unfold shares
  constructor
  · intro h
    obtain ⟨⟨before, t1⟩, h1, h⟩ := List.mem_flatMap.mp h
    obtain ⟨⟨value, t2⟩, h2, h⟩ := List.mem_flatMap.mp h
    obtain ⟨⟨after, t3⟩, h3, h⟩ := List.mem_flatMap.mp h
    obtain ⟨⟨slash, t4⟩, h4, heq⟩ := List.mem_map.mp h
    cases heq
    obtain ⟨rfl, hbefore⟩ := mem_takeLiteral.mp h1
    obtain ⟨rfl, hliteral, hvalue⟩ := mem_takeOwn.mp h2
    obtain ⟨rfl, hafter⟩ := mem_takeLiteral.mp h3
    obtain ⟨rfl, hseparator⟩ := mem_takeSeparator.mp h4
    exact ⟨by simp [Share.text], hbefore, hliteral, hvalue, hafter, hseparator⟩
  · rintro ⟨rfl, hbefore, hliteral, hvalue, hafter, hseparator⟩
    obtain ⟨before, value, after, slash⟩ := x
    have htext : (⟨before, value, after, slash⟩ : Share).text ++ rest =
        before ++ (value ++ (after ++ ((if slash then ['/'] else []) ++ rest))) := by
      simp [Share.text]
    rw [htext]
    refine List.mem_flatMap.mpr ⟨_, mem_takeLiteral.mpr ⟨rfl, hbefore⟩, ?_⟩
    refine List.mem_flatMap.mpr ⟨_, mem_takeOwn.mpr ⟨rfl, hliteral, hvalue⟩, ?_⟩
    refine List.mem_flatMap.mpr ⟨_, mem_takeLiteral.mpr ⟨rfl, hafter⟩, ?_⟩
    exact List.mem_map.mpr ⟨_, mem_takeSeparator.mpr ⟨rfl, hseparator⟩, rfl⟩

end Segment

/-- The list of cuts holds the cuts. -/
theorem mem_cuts {segments : List Segment} {xs : List Share} {path : Text} :
    xs ∈ cuts segments path ↔ IsCut Segment.PlainValue segments xs path := by
  induction segments generalizing xs path with
  | nil => cases xs <;> cases path <;> simp [cuts, IsCut]
  | cons s segments ih =>
    rw [cuts, List.mem_flatMap]
    constructor
    · rintro ⟨⟨x, rest⟩, hx, h⟩
      obtain ⟨xs, hxs, rfl⟩ := List.mem_map.mp h
      obtain ⟨hpath, htakes⟩ := Segment.mem_shares.mp hx
      exact ⟨rest, hpath, htakes, ih.mp hxs⟩
    · intro h
      obtain ⟨x, xs, rest, rfl, hpath, htakes, hcut⟩ := isCut_cons_iff.mp h
      exact ⟨(x, rest), Segment.mem_shares.mpr ⟨hpath, htakes⟩,
        List.mem_map_of_mem (ih.mpr hcut)⟩

/-- At most one way to take literal text exists. -/
theorem pairwise_takeLiteral (r : Text × Text → Text × Text → Prop) (literal t : Text) :
    (takeLiteral literal t).Pairwise r := by
  have hlen : (takeLiteral literal t).length ≤ 1 := by
    induction literal generalizing t with
    | nil => simp [takeLiteral]
    | cons c literal ih =>
      cases t with
      | nil => simp [takeLiteral]
      | cons d t =>
        rw [takeLiteral]
        split
        · rw [List.length_map]
          exact ih t
        · simp
  match takeLiteral literal t, hlen with
  | [], _ => exact List.Pairwise.nil
  | [_], _ => exact List.pairwise_singleton _ _

/-- Longer values come first. -/
theorem pairwise_takeValue (t : Text) :
    (takeValue t).Pairwise fun a b => b.1.length < a.1.length := by
  induction t with
  | nil => exact List.pairwise_singleton _ _
  | cons c t ih =>
    rw [takeValue]
    split
    · exact List.pairwise_singleton _ _
    · rw [List.pairwise_append, List.pairwise_map]
      refine ⟨ih.imp fun h => Nat.succ_lt_succ h, List.pairwise_singleton _ _, ?_⟩
      intro a ha b hb
      obtain ⟨d, -, rfl⟩ := List.mem_map.mp ha
      obtain rfl := List.mem_singleton.mp hb
      exact Nat.succ_pos _

namespace Segment

/-- Longer values come first. -/
theorem pairwise_takeOwn (s : Segment) (t : Text) :
    (s.takeOwn t).Pairwise fun a b => b.1.length < a.1.length := by
  unfold takeOwn
  split
  · exact pairwise_takeLiteral _ _ _
  · exact (pairwise_takeValue t).filter _

/-- A separator comes before none. -/
theorem pairwise_takeSeparator (s : Segment) (t : Text) :
    (s.takeSeparator t).Pairwise fun a b => a.1 = true ∧ b.1 = false := by
  unfold takeSeparator takeSlash
  repeat' split
  all_goals simp

/-- The shares that a segment can take come in the greedy order. -/
theorem pairwise_shares (s : Segment) (t : Text) :
    (s.shares t).Pairwise fun a b => a.1.Precedes b.1 := by
  unfold shares
  rw [List.pairwise_flatMap]
  refine ⟨?_, pairwise_takeLiteral _ _ _⟩
  rintro ⟨before, t1⟩ -
  dsimp only
  rw [List.pairwise_flatMap]
  constructor
  · rintro ⟨value, t2⟩ -
    dsimp only
    rw [List.pairwise_flatMap]
    refine ⟨?_, pairwise_takeLiteral _ _ _⟩
    rintro ⟨after, t3⟩ -
    dsimp only
    rw [List.pairwise_map]
    exact (s.pairwise_takeSeparator t3).imp fun h => .inr ⟨rfl, h⟩
  · refine (s.pairwise_takeOwn t1).imp ?_
    rintro ⟨value, t2⟩ ⟨value', t2'⟩ hlt x hx y hy
    simp only [List.mem_flatMap, List.mem_map] at hx hy
    obtain ⟨⟨after, t3⟩, -, ⟨slash, t4⟩, -, rfl⟩ := hx
    obtain ⟨⟨after', t3'⟩, -, ⟨slash', t4'⟩, -, rfl⟩ := hy
    exact .inl hlt

end Segment

/-- The cuts of a path come in the greedy order. -/
theorem pairwise_cuts (segments : List Segment) (path : Text) :
    (cuts segments path).Pairwise (List.Lex Share.Precedes) := by
  induction segments generalizing path with
  | nil =>
    rw [cuts]
    split
    · exact List.pairwise_singleton _ _
    · exact List.Pairwise.nil
  | cons s segments ih =>
    rw [cuts, List.pairwise_flatMap]
    constructor
    · rintro ⟨x, rest⟩ -
      dsimp only
      rw [List.pairwise_map]
      exact (ih rest).imp fun h => .cons h
    · refine (s.pairwise_shares path).imp ?_
      rintro ⟨x, rest⟩ ⟨y, rest'⟩ hprec xs hxs ys hys
      obtain ⟨xs, -, rfl⟩ := List.mem_map.mp hxs
      obtain ⟨ys, -, rfl⟩ := List.mem_map.mp hys
      exact .rel hprec

/-- The first one in the list of cuts is the first one in the greedy order. -/
theorem isFirstCut_of_cuts_eq_cons {segments : List Segment} {xs : List Share}
    {rest : List (List Share)} {path : Text} (h : cuts segments path = xs :: rest) :
    IsFirstCut Segment.PlainValue segments xs path := by
  have hpair := pairwise_cuts segments path
  rw [h, List.pairwise_cons] at hpair
  refine ⟨mem_cuts.mp (h ▸ List.mem_cons_self), fun ys hys => ?_⟩
  have hmem := mem_cuts.mpr hys
  rw [h] at hmem
  rcases List.mem_cons.mp hmem with rfl | hmem
  · exact .inl rfl
  · exact .inr (hpair.1 ys hmem)

end PathRouting
