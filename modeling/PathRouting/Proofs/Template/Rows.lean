import Mathlib.Data.List.TakeWhile
import PathRouting.Proofs.Template.Components
import PathRouting.Proofs.Template.Grammar

/-!
# Rows of components

A template may be literal text with placeholders behind it, each of them a component of its own. Its
layout has nothing but slashes between the placeholders. Without its outer slashes, such a template
is its pieces with slashes between them, and so is a path that is made of it.
-/

namespace PathRouting

namespace Text

/-- The pieces of a row: the text in front, unless it is empty, and the other pieces. -/
def pieces (text : Text) (others : List Text) : List Text :=
  (if text.isEmpty then [] else [text]) ++ others

/-- Pieces are joined by a slash before each of them but the first one. -/
theorem intercalate_cons_eq (t : Text) (ts : List Text) :
    ['/'].intercalate (t :: ts) = t ++ ts.flatMap ('/' :: ·) := by
  induction ts generalizing t with
  | nil => simp
  | cons u ts ih =>
    rw [List.intercalate_cons_cons, ih, List.flatMap_cons]
    simp

/-- A piece neither starts nor ends with a slash, and it is not empty. -/
structure IsPiece (t : Text) : Prop where
  /-- The piece is not empty. -/
  ne_nil : t ≠ []
  /-- The piece does not start with a slash. -/
  head : t.head? ≠ some '/'
  /-- The piece does not end with a slash. -/
  last : t.getLast? ≠ some '/'

/-- A row of pieces does not end with a slash. -/
theorem getLast?_append_flatMap {t : Text} {ts : List Text} (ht : t.getLast? ≠ some '/')
    (hts : ∀ u ∈ ts, u.IsPiece) : (t ++ ts.flatMap ('/' :: ·)).getLast? ≠ some '/' := by
  obtain rfl | ⟨ts, u, rfl⟩ := ts.eq_nil_or_concat'
  · rwa [List.flatMap_nil, List.append_nil]
  · have hu := hts u (by simp)
    obtain ⟨front, c, rfl⟩ := u.eq_nil_or_concat'.resolve_left hu.ne_nil
    have hlast := hu.last
    rw [List.getLast?_concat] at hlast
    rwa [List.flatMap_append, List.flatMap_singleton, ← List.append_assoc, ← List.cons_append,
      ← List.append_assoc, List.getLast?_concat]

/-- A text that does not end with a slash is empty if nothing but slashes can be left out of it. -/
theorem eq_nil_of_trimStart {t : Text} (ht : t.getLast? ≠ some '/') (h : trimStart '/' t = []) :
    t = [] := by
  obtain rfl | ⟨front, c, rfl⟩ := t.eq_nil_or_concat'
  · rfl
  · have hc := List.dropWhile_eq_nil_iff.mp h c (by simp)
    rw [List.getLast?_concat, eq_of_beq hc] at ht
    exact absurd rfl ht

/-- Leaving out slashes at the start adds none at the end. -/
theorem getLast?_trimStart {t : Text} (ht : t.getLast? ≠ some '/') :
    (trimStart '/' t).getLast? ≠ some '/' := by
  intro h
  unfold trimStart at h
  refine ht ?_
  rw [← List.takeWhile_append_dropWhile (p := (· == '/')) (l := t), List.getLast?_append, h,
    Option.some_or]

/-- Without its outer slashes, a text with pieces behind it is the row of the pieces. -/
theorem trim_append_flatMap {t : Text} {ts : List Text} (ht : t.getLast? ≠ some '/')
    (hts : ∀ u ∈ ts, u.IsPiece) :
    trim '/' (t ++ ts.flatMap ('/' :: ·)) = ['/'].intercalate (pieces (trimStart '/' t) ts) := by
  have hstart : trimStart '/' (t ++ ts.flatMap ('/' :: ·)) =
      ['/'].intercalate (pieces (trimStart '/' t) ts) := by
    by_cases hnil : trimStart '/' t = []
    · obtain rfl := eq_nil_of_trimStart ht hnil
      cases ts with
      | nil => rfl
      | cons u ts =>
        have hu := hts u List.mem_cons_self
        obtain ⟨c, u, rfl⟩ := List.exists_cons_of_ne_nil hu.ne_nil
        have hc : (c == '/') = false := by simpa using hu.head
        change trimStart '/' ('/' :: c :: (u ++ ts.flatMap ('/' :: ·))) =
          ['/'].intercalate ((c :: u) :: ts)
        rw [intercalate_cons_eq, trimStart, List.dropWhile_cons, if_pos (beq_self_eq_true '/'),
          List.dropWhile_cons, hc, if_neg Bool.false_ne_true]
        rfl
    · have hpieces : pieces (trimStart '/' t) ts = trimStart '/' t :: ts := by
        unfold pieces
        rw [if_neg (by simpa using hnil)]
        rfl
      rw [hpieces, intercalate_cons_eq]
      unfold trimStart at hnil ⊢
      rw [List.dropWhile_append, if_neg (by simpa using hnil)]
  unfold trim
  rw [hstart]
  refine trimEnd_of_getLast? ?_
  rw [← hstart]
  exact getLast?_trimStart (getLast?_append_flatMap ht hts)

end Text

namespace Template

/-- Placeholders with a slash before each of them. -/
def slashed (ps : List Placeholder) : Template :=
  ps.flatMap fun p => [.literal ['/'], .placeholder p]

/-- Literal text with placeholders behind it, each of them a component of its own. -/
def row (text : Text) : List Placeholder → Template
  | [] => literalPart text.reverse
  | p :: ps =>
    literalPart (if text.isEmpty then [] else '/' :: text.reverse) ++ .placeholder p :: slashed ps

variable {text : Text} {ps : List Placeholder}

/-- A row could have been read. -/
theorem canonical_row (hps : ∀ p ∈ ps, p.Canonical) : (row text ps).Canonical := by
  have hslashed : ∀ (ps : List Placeholder) (p : Placeholder), (∀ q ∈ p :: ps, q.Canonical) →
      Canonical (.placeholder p :: slashed ps) := by
    intro ps
    induction ps with
    | nil => exact fun p hp => canonical_nil.placeholder_cons (hp p List.mem_cons_self)
    | cons q ps ih =>
      intro p hp
      obtain ⟨hp, hps⟩ := List.forall_mem_cons.mp hp
      exact ((ih q hps).literalPart_append ['/']).placeholder_cons hp
  cases ps with
  | nil => exact canonical_literalPart _
  | cons p ps => exact (hslashed ps p hps).literalPart_append _

/-- Placeholders with slashes are written with the slashes. -/
theorem render_slashed (ps : List Placeholder) :
    (slashed ps).render = (ps.map Placeholder.render).flatMap ('/' :: ·) := by
  unfold render slashed
  rw [List.flatMap_assoc, List.flatMap_map]
  refine List.flatMap_congr fun p _ => ?_
  rw [List.flatMap_cons, List.flatMap_singleton]
  rfl

/-- A row is written as its pieces. -/
theorem render_row : (row text ps).render =
    ['/'].intercalate (Text.pieces (doubleBraces text) (ps.map Placeholder.render)) := by
  cases ps with
  | nil =>
    rw [row, ← List.append_nil (literalPart _), render_literalPart_append, List.reverse_reverse]
    cases doubleBraces text with
    | nil => rfl
    | cons c rest => simp [render, Text.pieces]
  | cons p ps =>
    rw [row, render_literalPart_append, render_placeholder_cons, render_slashed]
    cases text with
    | nil => exact (Text.intercalate_cons_eq _ _).symm
    | cons c text =>
      have hne : (doubleBraces (c :: text)).isEmpty = false := by
        rw [doubleBraces]
        split <;> rfl
      have hslash : doubleBraces ['/'] = ['/'] := rfl
      unfold Text.pieces
      rw [hne, if_neg Bool.false_ne_true, List.isEmpty_cons, if_neg Bool.false_ne_true,
        List.reverse_cons, List.reverse_reverse, doubleBraces_append, hslash]
      change _ = ['/'].intercalate (doubleBraces (c :: text) :: p.render :: ps.map Placeholder.render)
      rw [Text.intercalate_cons_eq, List.flatMap_cons]
      simp

/-- Nothing but a slash stands before each placeholder behind a slash. -/
theorem layoutAfter_slashed (ps : List Placeholder) :
    layoutAfter [] (slashed ps) = ⟨ps.map (⟨['/'], ·⟩), []⟩ := by
  induction ps with
  | nil => rfl
  | cons p ps ih =>
    change Layout.mk (⟨['/'], p⟩ :: (layoutAfter [] (slashed ps)).placed)
      (layoutAfter [] (slashed ps)).trailing = _
    rw [ih]
    rfl

/-- The layout of a row without placeholders. -/
theorem layout_row_nil : (row text []).layout = ⟨[], text⟩ := by
  unfold row literalPart layout
  cases text with
  | nil => rfl
  | cons c text => simp [layoutAfter]

/-- The layout of a row with placeholders. -/
theorem layout_row_cons (p : Placeholder) : (row text (p :: ps)).layout =
    ⟨⟨if text.isEmpty then [] else text ++ ['/'], p⟩ :: ps.map (⟨['/'], ·⟩), []⟩ := by
  have hgap : ∀ gap : Text, layoutAfter [] (literalPart gap.reverse ++ .placeholder p :: slashed ps) =
      ⟨⟨gap, p⟩ :: ps.map (⟨['/'], ·⟩), []⟩ := by
    intro gap
    have hafter : layoutAfter gap (.placeholder p :: slashed ps) =
        ⟨⟨gap, p⟩ :: ps.map (⟨['/'], ·⟩), []⟩ := by
      rw [layoutAfter, layoutAfter_slashed]
    rw [← hafter]
    unfold literalPart
    cases gap with
    | nil => rfl
    | cons c gap => simp [layoutAfter]
  cases text with
  | nil => exact hgap []
  | cons c text =>
    have := hgap (c :: text ++ ['/'])
    rw [List.reverse_append] at this
    exact this

/-- A slash stands between any two placeholders of a row. -/
theorem unglued_row : (row text ps).Unglued := by
  unfold Unglued
  cases ps with
  | nil =>
    rw [layout_row_nil]
    exact nofun
  | cons p ps =>
    rw [layout_row_cons, List.tail_cons]
    intro q hq
    obtain ⟨p, -, rfl⟩ := List.mem_map.mp hq
    exact List.mem_cons_self

/-- Doubling braces and leaving out slashes do not interfere. -/
theorem trimStart_doubleBraces (t : Text) :
    Text.trimStart '/' (doubleBraces t) = doubleBraces (Text.trimStart '/' t) := by
  induction t with
  | nil => rfl
  | cons c t ih =>
    unfold Text.trimStart at ih ⊢
    by_cases hc : c = '/'
    · subst hc
      exact ih
    · have hne : (c == '/') = false := by simpa using hc
      rw [List.dropWhile_cons, hne, if_neg Bool.false_ne_true, doubleBraces]
      split
      · rw [List.dropWhile_cons, hne, if_neg Bool.false_ne_true]
      · rw [List.dropWhile_cons, hne, if_neg Bool.false_ne_true]

/-- A text ends with a slash once its braces are doubled only if it does before. -/
theorem getLast?_doubleBraces {t : Text} (h : t.getLast? ≠ some '/') :
    (doubleBraces t).getLast? ≠ some '/' := by
  obtain rfl | ⟨front, c, rfl⟩ := t.eq_nil_or_concat'
  · exact nofun
  · have hc : ∃ more, doubleBraces [c] = more ++ [c] := by
      rw [doubleBraces]
      split
      · exact ⟨[c], rfl⟩
      · exact ⟨[], rfl⟩
    obtain ⟨more, hmore⟩ := hc
    rw [List.getLast?_concat] at h
    rwa [doubleBraces_append, hmore, ← List.append_assoc, List.getLast?_concat]

/-- A placeholder is written as a piece. -/
theorem isPiece_render (p : Placeholder) : p.render.IsPiece where
  ne_nil := by
    rw [← dropLast_render_append]
    exact List.append_ne_nil_of_right_ne_nil _ (List.cons_ne_nil _ _)
  head := by
    have hhead : p.render.head? = some '\x7b' := by
      unfold Placeholder.render
      split <;> rfl
    rw [hhead]
    decide
  last := by
    rw [← dropLast_render_append, List.getLast?_concat]
    decide

/-- Literal text with a slash and a placeholder behind it as often as there are placeholders is read
as a row, once its outer slashes are left out. -/
theorem parse_trim_row (hps : ∀ p ∈ ps, p.Canonical) (hlast : text.getLast? ≠ some '/') :
    parse (Text.trim '/' (doubleBraces text ++ ps.flatMap fun p => '/' :: p.render)) =
      .ok (row (Text.trimStart '/' text) ps) := by
  have hpieces : ∀ u ∈ ps.map Placeholder.render, u.IsPiece :=
    List.forall_mem_map.mpr fun p _ => isPiece_render p
  have hrow : Text.trim '/' (doubleBraces text ++ ps.flatMap fun p => '/' :: p.render) =
      (row (Text.trimStart '/' text) ps).render := by
    rw [render_row, ← trimStart_doubleBraces,
      ← Text.trim_append_flatMap (getLast?_doubleBraces hlast) hpieces, List.flatMap_map]
  rw [hrow]
  exact readAs_render (canonical_row hps) 0

end Template

end PathRouting
