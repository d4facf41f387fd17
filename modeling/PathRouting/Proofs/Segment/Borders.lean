import Mathlib.Data.List.Basic
import Mathlib.Data.Nat.Find
import Mathlib.Tactic.Common
import PathRouting.Segment.Borders

/-!
# Exact borders

Marking the borders of a row of segments tells for each place whether it is the last one, and
whether all that comes behind it may be missing. The places of the second kind are a block that ends
right before the last one. A sweep that looks at the places from left to right and marks the row
that it is looking at finds the same borders, as the marks that it sets are not what it asks for.
-/

namespace PathRouting.Segment

/-- Marking borders touches nothing but the marks. -/
theorem exists_mem_of_mem_markBorders {segments : List Segment} {s : Segment}
    (h : s ∈ markBorders segments) : ∃ d ∈ segments, ∃ isLast optionalRest,
      s = { d with isLast, optionalRest } := by
  induction segments with
  | nil => exact absurd h List.not_mem_nil
  | cons d rest ih =>
    rcases List.mem_cons.mp h with rfl | h
    · exact ⟨d, List.mem_cons_self, _, _, rfl⟩
    · obtain ⟨e, he, hs⟩ := ih h
      exact ⟨e, List.mem_cons_of_mem d he, hs⟩

/-- What does not depend on the marks of borders is the same before and after they are set. -/
theorem map_markBorders {β : Type} {f : Segment → β}
    (hf : ∀ s isLast optionalRest, f { s with isLast, optionalRest } = f s)
    (segments : List Segment) : (markBorders segments).map f = segments.map f := by
  induction segments with
  | nil => rfl
  | cons s rest ih => rw [markBorders, List.map_cons, List.map_cons, ih, hf]

/-- Marking borders keeps the names. -/
theorem filterMap_name_markBorders (segments : List Segment) :
    (markBorders segments).filterMap (·.name) = segments.filterMap (·.name) := by
  have hmap := congrArg (List.filterMap id)
    (map_markBorders (f := (·.name)) (fun _ _ _ => rfl) segments)
  rwa [List.filterMap_map, List.filterMap_map] at hmap

/-- Marking borders keeps the number of segments. -/
theorem length_markBorders (segments : List Segment) :
    (markBorders segments).length = segments.length := by
  have hmap := congrArg List.length (map_markBorders (f := (·.name)) (fun _ _ _ => rfl) segments)
  rwa [List.length_map, List.length_map] at hmap

/-- A row with marked borders is empty only if the row without them is. -/
theorem isEmpty_markBorders (segments : List Segment) :
    (markBorders segments).isEmpty = segments.isEmpty := by
  cases segments <;> rfl

/-- Marking borders makes no segment optional and none required. -/
theorem all_isOptional_markBorders (segments : List Segment) :
    (markBorders segments).all (·.isOptional) = segments.all (·.isOptional) := by
  have hmap := congrArg (List.all · id)
    (map_markBorders (f := (·.isOptional)) (fun _ _ _ => rfl) segments)
  rwa [List.all_map, List.all_map] at hmap

/-- Borders that are marked are not marked otherwise a second time. -/
theorem markBorders_markBorders (segments : List Segment) :
    markBorders (markBorders segments) = markBorders segments := by
  induction segments with
  | nil => rfl
  | cons s rest ih =>
    simp only [markBorders, ih, isEmpty_markBorders, all_isOptional_markBorders, Bool.or_assoc,
      Bool.or_self]

/-! ### The marks of a place -/

/-- A segment with more marks. -/
def mark (isLast optionalRest : Bool) (s : Segment) : Segment :=
  { s with isLast := s.isLast || isLast, optionalRest := s.optionalRest || optionalRest }

/-- A segment with no more marks is the same segment. -/
theorem mark_false_false : mark false false = id := by
  funext s
  simp only [mark, Bool.or_false, id_eq]

/-- Marks add up. -/
theorem mark_comp_mark (a b c d : Bool) : mark c d ∘ mark a b = mark (a || c) (b || d) := by
  funext s
  simp only [Function.comp_apply, mark, Bool.or_assoc]

/-- Whether segments stand behind a place of a row and all of them are optional. -/
def optionalBehind (segments : List Segment) (i : Nat) : Bool :=
  decide (i + 1 < segments.length) && (segments.drop (i + 1)).all (·.isOptional)

/-- What stands behind a place is read off the segments that are optional. -/
theorem optionalBehind_congr {ds segments : List Segment}
    (h : ds.map (·.isOptional) = segments.map (·.isOptional)) (i : Nat) :
    optionalBehind ds i = optionalBehind segments i := by
  have hlength : ds.length = segments.length := by
    simpa only [List.length_map] using congrArg List.length h
  have hall : (ds.drop (i + 1)).all (·.isOptional) =
      (segments.drop (i + 1)).all (·.isOptional) := by
    have hdrop := congrArg (fun flags => (flags.drop (i + 1)).all id) h
    rwa [← List.map_drop, ← List.map_drop, List.all_map, List.all_map] at hdrop
  rw [optionalBehind, optionalBehind, hlength, hall]

/-- The segment at a place once the borders are marked. -/
theorem getElem?_markBorders (segments : List Segment) (i : Nat) :
    (markBorders segments)[i]? =
      segments[i]?.map (mark (decide (i + 1 = segments.length)) (optionalBehind segments i)) := by
  induction segments generalizing i with
  | nil => rfl
  | cons s rest ih =>
    cases i with
    | zero => cases rest <;> simp [markBorders, mark, optionalBehind]
    | succ i => simp [markBorders, optionalBehind, ih]

/-- The places behind which all segments are optional are a block that ends before the last one. -/
theorem exists_optionalBehind_iff (segments : List Segment) :
    ∃ first, ∀ i, optionalBehind segments i = true ↔ first ≤ i ∧ i + 1 < segments.length := by
  have hexists : ∃ i, (segments.drop (i + 1)).all (·.isOptional) = true :=
    ⟨segments.length, by rw [List.drop_of_length_le (Nat.le_succ _)]; rfl⟩
  refine ⟨Nat.find hexists, fun i => ?_⟩
  -- What is optional behind a place is so behind all later places.
  have hbehind : (segments.drop (i + 1)).all (·.isOptional) = true ↔ Nat.find hexists ≤ i := by
    refine ⟨fun h => Nat.find_min' hexists h, fun hle => ?_⟩
    have hfirst := List.all_eq_true.mp (Nat.find_spec hexists)
    refine List.all_eq_true.mpr fun s hs => hfirst s ?_
    exact (List.drop_sublist_drop_left segments (Nat.succ_le_succ hle)).subset hs
  rw [optionalBehind, Bool.and_eq_true, decide_eq_true_eq, hbehind, and_comm]

/-! ### Marking in place -/

/-- Marks the segment before a place of the row, if all segments from the place on are optional. -/
def markBefore (segments : List Segment) (i : Nat) : List Segment :=
  if segments[i]?.any (·.isOptional) && decide (0 < i) && (segments.drop i).all (·.isOptional)
  then segments.modify (i - 1) ({ · with optionalRest := true })
  else segments

/-- Marks the segment at a place of the row, if it is the last one. -/
def markLast (segments : List Segment) (i : Nat) : List Segment :=
  if i + 1 = segments.length then segments.modify i ({ · with isLast := true }) else segments

/-- What a sweep does at a place of the row. -/
def sweepAt (segments : List Segment) (i : Nat) : List Segment :=
  markLast (markBefore segments i) i

/-- Looks at the places of a row from left to right, each time marking the row in place. -/
def sweepBorders (segments : List Segment) : List Segment :=
  (List.range segments.length).foldl sweepAt segments

/-- At a place that is not the first one the sweep asks what stands behind the place before it. -/
theorem markBefore_succ {segments : List Segment} {i : Nat} (hi : i + 1 < segments.length) :
    markBefore segments (i + 1) =
      if optionalBehind segments i then segments.modify i ({ · with optionalRest := true })
      else segments := by
  -- The test of the segment itself is part of the test of all segments from it on.
  rw [markBefore, optionalBehind, List.getElem?_eq_getElem hi, Option.any_some,
    decide_eq_true (Nat.succ_pos i), decide_eq_true hi, Bool.and_true, Bool.true_and,
    List.drop_eq_getElem_cons hi, List.all_cons, ← Bool.and_assoc, Bool.and_self,
    Nat.add_sub_cancel]

/-- The segment at a place after the one before another place may have been marked. -/
theorem getElem?_markBefore {segments : List Segment} {n : Nat} (hn : n < segments.length)
    (i : Nat) :
    (markBefore segments n)[i]? =
      segments[i]?.map (mark false (decide (i + 1 = n) && optionalBehind segments i)) := by
  cases n with
  | zero => simp [markBefore, mark_false_false]
  | succ n =>
    rw [markBefore_succ hn]
    by_cases hi : i = n
    · subst hi
      cases optionalBehind segments i with
      | false => simp [mark_false_false]
      | true => cases hs : segments[i]? <;> simp [hs, mark]
    · cases optionalBehind segments n <;> simp [hi, Ne.symm hi, mark_false_false]

/-- The segment at a place after another one may have been marked as the last one. -/
theorem getElem?_markLast (segments : List Segment) (n i : Nat) :
    (markLast segments n)[i]? =
      segments[i]?.map (mark (decide (i = n ∧ i + 1 = segments.length)) false) := by
  unfold markLast
  by_cases hi : i = n
  · subst hi
    by_cases hlast : i + 1 = segments.length
    · cases hs : segments[i]? <;> simp [hs, hlast, mark]
    · simp [hlast, mark_false_false]
  · split <;> simp [hi, Ne.symm hi, mark_false_false]

/-- Marking the segment before a place keeps the number of segments. -/
theorem length_markBefore (segments : List Segment) (n : Nat) :
    (markBefore segments n).length = segments.length := by
  unfold markBefore
  split
  · exact List.length_modify ..
  · rfl

/-- The segment at a place after the sweep has looked at one place of the row. -/
theorem getElem?_sweepAt {segments : List Segment} {n : Nat} (hn : n < segments.length) (i : Nat) :
    (sweepAt segments n)[i]? =
      segments[i]?.map (mark (decide (i = n ∧ i + 1 = segments.length))
        (decide (i + 1 = n) && optionalBehind segments i)) := by
  rw [sweepAt, getElem?_markLast, getElem?_markBefore hn, length_markBefore, Option.map_map,
    mark_comp_mark, Bool.false_or, Bool.or_false]

/-- The segment at a place after the sweep has looked at the first places of the row. -/
theorem getElem?_foldl_sweepAt {segments : List Segment} {n : Nat} (hn : n ≤ segments.length)
    (i : Nat) :
    ((List.range n).foldl sweepAt segments)[i]? =
      segments[i]?.map (mark (decide (i < n ∧ i + 1 = segments.length))
        (decide (i + 1 < n) && optionalBehind segments i)) := by
  induction n generalizing i with
  | zero => simp [mark_false_false]
  | succ n ih =>
    have ih := ih (Nat.le_of_succ_le hn)
    rw [List.range_succ, List.foldl_append, List.foldl_cons, List.foldl_nil]
    generalize (List.range n).foldl sweepAt segments = swept at ih
    -- Nothing but marks has been set so far, so the next place finds what it asks for as it was.
    have hflags : swept.map (·.isOptional) = segments.map (·.isOptional) := by
      refine List.ext_getElem? fun j => ?_
      rw [List.getElem?_map, List.getElem?_map, ih, Option.map_map]
      rfl
    have hlength : swept.length = segments.length := by
      simpa only [List.length_map] using congrArg List.length hflags
    have hlast : (i < n ∧ i + 1 = segments.length ∨ i = n ∧ i + 1 = segments.length) ↔
        i < n + 1 ∧ i + 1 = segments.length := by omega
    have hbefore : (i + 1 < n ∨ i + 1 = n) ↔ i + 1 < n + 1 := by omega
    rw [getElem?_sweepAt (hlength.symm ▸ hn), ih, Option.map_map, mark_comp_mark, hlength,
      optionalBehind_congr hflags, ← Bool.and_or_distrib_right, ← Bool.decide_or, ← Bool.decide_or,
      decide_eq_decide.mpr hlast, decide_eq_decide.mpr hbefore]

/-- A sweep over the row marks the borders. -/
theorem sweepBorders_eq_markBorders (segments : List Segment) :
    sweepBorders segments = markBorders segments := by
  refine List.ext_getElem? fun i => ?_
  rw [sweepBorders, getElem?_foldl_sweepAt (Nat.le_refl _), getElem?_markBorders]
  have hlast : i < segments.length ∧ i + 1 = segments.length ↔ i + 1 = segments.length := by omega
  rw [decide_eq_decide.mpr hlast, optionalBehind, ← Bool.and_assoc, Bool.and_self]

/-! ### What the marks say -/

/-- The mark before an optional rest says that the segment is not the last one and that all segments
behind it are optional. -/
theorem optionalBehind_eq_true_iff {segments : List Segment} {i : Nat} (hi : i < segments.length) :
    optionalBehind segments i = true ↔
      i + 1 ≠ segments.length ∧ ∀ d ∈ segments.drop (i + 1), d.isOptional = true := by
  rw [optionalBehind, Bool.and_eq_true, decide_eq_true_eq, List.all_eq_true]
  exact and_congr_left' ⟨Nat.ne_of_lt, Nat.lt_of_le_of_ne hi⟩

/-- The segment at a place, if it had no marks, has the two marks of the place. -/
theorem getElem?_markBorders_of_unmarked {segments : List Segment} {i : Nat} {s : Segment}
    (hs : segments[i]? = some s) (hlast : s.isLast = false) (hoptional : s.optionalRest = false) :
    (markBorders segments)[i]? = some { s with
      isLast := decide (i + 1 = segments.length)
      optionalRest := optionalBehind segments i } := by
  rw [getElem?_markBorders, hs, Option.map_some, mark, hlast, hoptional, Bool.false_or,
    Bool.false_or]

/-- The borders of segments without marks are marked exactly: the last segment is marked as such,
and so are those that are not the last one and have nothing but optional segments behind them, which
are a block that ends before the last one. Nothing else changes, nothing changes if the borders are
marked again, and marking them in place gives the same row. -/
theorem markBorders_exact {segments : List Segment}
    (hunmarked : ∀ s ∈ segments, s.isLast = false ∧ s.optionalRest = false) :
    (markBorders segments).length = segments.length ∧
      (∀ (i : Nat) (s : Segment), segments[i]? = some s → ∃ isLast optionalRest : Bool,
        (markBorders segments)[i]? = some { s with isLast, optionalRest } ∧
        (isLast = true ↔ i + 1 = segments.length) ∧
        (optionalRest = true ↔
          i + 1 ≠ segments.length ∧ ∀ d ∈ segments.drop (i + 1), d.isOptional = true)) ∧
      (∃ first, ∀ (i : Nat) (s : Segment), (markBorders segments)[i]? = some s →
        (s.optionalRest = true ↔ first ≤ i ∧ i + 1 < segments.length)) ∧
      markBorders (markBorders segments) = markBorders segments ∧
      sweepBorders segments = markBorders segments := by
  refine ⟨length_markBorders segments, fun i s hs => ?_, ?_, markBorders_markBorders segments,
    sweepBorders_eq_markBorders segments⟩
  · obtain ⟨hlast, hoptional⟩ := hunmarked s (List.mem_of_getElem? hs)
    obtain ⟨hi, -⟩ := List.getElem?_eq_some_iff.mp hs
    exact ⟨_, _, getElem?_markBorders_of_unmarked hs hlast hoptional, decide_eq_true_iff,
      optionalBehind_eq_true_iff hi⟩
  · obtain ⟨first, hfirst⟩ := exists_optionalBehind_iff segments
    refine ⟨first, fun i s hs => ?_⟩
    have hi : i < (markBorders segments).length := (List.getElem?_eq_some_iff.mp hs).1
    rw [length_markBorders] at hi
    have hd := List.getElem?_eq_getElem hi
    obtain ⟨hlast, hoptional⟩ := hunmarked _ (List.getElem_mem hi)
    rw [getElem?_markBorders_of_unmarked hd hlast hoptional, Option.some.injEq] at hs
    rw [← hs]
    exact hfirst i

/-- The segments of a template with an optional parameter in the middle and two at the end. -/
def archiveRow : List Segment :=
  [{ name := some "year".toList, pattern := "(?P<year>[^/]+)".toList },
    { name := some "month".toList, pattern := "(?P<month>[^/]*)".toList, isOptional := true },
    { pattern := "posts".toList },
    { name := some "page".toList, pattern := "(?P<page>[^/]*)".toList, isOptional := true },
    { name := some "size".toList, pattern := "(?P<size>[^/]*)".toList, isOptional := true }]

/-- Of the five segments the third and the fourth one have an optional rest. -/
theorem archiveRow_markBorders_exact :
    (∀ s ∈ archiveRow, s.isLast = false ∧ s.optionalRest = false) ∧
      (markBorders archiveRow).map (fun s => (s.optionalRest, s.isLast)) =
        [(false, false), (false, false), (true, false), (true, false), (false, true)] ∧
      (∀ (i : Nat) (s : Segment), archiveRow[i]? = some s → ∃ isLast optionalRest : Bool,
        (markBorders archiveRow)[i]? = some { s with isLast, optionalRest } ∧
        (isLast = true ↔ i + 1 = archiveRow.length) ∧
        (optionalRest = true ↔
          i + 1 ≠ archiveRow.length ∧ ∀ d ∈ archiveRow.drop (i + 1), d.isOptional = true)) ∧
      (∃ first, ∀ (i : Nat) (s : Segment), (markBorders archiveRow)[i]? = some s →
        (s.optionalRest = true ↔ first ≤ i ∧ i + 1 < archiveRow.length)) ∧
      markBorders (markBorders archiveRow) = markBorders archiveRow ∧
      sweepBorders archiveRow = markBorders archiveRow := by
  have hunmarked : ∀ s ∈ archiveRow, s.isLast = false ∧ s.optionalRest = false := by decide
  exact ⟨hunmarked, rfl, (markBorders_exact hunmarked).2⟩

end PathRouting.Segment
