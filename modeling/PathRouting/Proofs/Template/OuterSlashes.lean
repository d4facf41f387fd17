import Mathlib.Data.List.TakeWhile
import PathRouting.Proofs.Template.Grammar

/-!
# Slashes around a template

A template may be written with slashes before and behind it. They can only add literal text at its
ends, so a text can be read as a template if it can be read without its outer slashes, and the
placeholders are the same ones then.
-/

namespace PathRouting

/-- A text is what is left of it without a character at its ends, with the character around it. -/
theorem Text.exists_append_trim (c : Char) (t : Text) :
    ∃ front back, t = front ++ trim c t ++ back ∧ (∀ d ∈ front, d = c) ∧ ∀ d ∈ back, d = c := by
  have hall : ∀ u : Text, ∀ d ∈ u.takeWhile (· == c), d = c := fun u d hd =>
    beq_iff_eq.mp (List.mem_takeWhile_imp (p := (· == c)) hd)
  refine ⟨t.takeWhile (· == c), ((trimStart c t).reverse.takeWhile (· == c)).reverse, ?_, hall t,
    fun d hd => hall _ d (List.mem_reverse.mp hd)⟩
  unfold trim trimEnd
  rw [List.append_assoc, ← List.reverse_append, List.takeWhile_append_dropWhile,
    List.reverse_reverse]
  exact List.takeWhile_append_dropWhile.symm

namespace Template

/-- There is literal text between any two placeholders. -/
def Apart (t : Template) : Prop :=
  ∀ front p q back, t ≠ front ++ .placeholder p :: .placeholder q :: back

/-- Placeholders are apart if one of any two neighbours is literal text. -/
theorem apart_iff_isChain {t : Template} :
    t.Apart ↔ t.IsChain fun p q => p.IsLiteral ∨ q.IsLiteral := by
  rw [List.isChain_iff_forall_rel_of_append_cons_cons]
  constructor
  · intro h part next front back ht
    cases part with
    | literal text => exact .inl trivial
    | placeholder p =>
      cases next with
      | literal text => exact .inr trivial
      | placeholder q => exact absurd ht (h front p q back)
  · rintro h front p q back ht
    obtain hp | hq := h ht
    · exact hp
    · exact hq

/-- A template that could have been read differs from another one only in the literal text at its
ends. -/
structure Widens (t wide : Template) : Prop where
  /-- The template is canonical. -/
  canonical : wide.Canonical
  /-- The placeholders are those of the other template. -/
  placeholders : wide.placeholders = t.placeholders
  /-- Placeholders that are apart stay so. -/
  apart : t.Apart → wide.Apart

/-- A template may be left as it is. -/
theorem Canonical.widens {t : Template} (h : t.Canonical) : t.Widens t :=
  ⟨h, rfl, id⟩

/-- A template may be widened twice. -/
theorem Widens.trans {t wide wider : Template} (h : t.Widens wide) (h' : wide.Widens wider) :
    t.Widens wider :=
  ⟨h'.canonical, h'.placeholders.trans h.placeholders, h'.apart ∘ h.apart⟩

section

variable {t back : Template} {text other : Text}

/-- Literal text may be exchanged for other text. -/
theorem Canonical.widens_literal (front : Template)
    (h : Canonical (front ++ .literal text :: back)) (hother : other ≠ []) :
    Widens (front ++ .literal text :: back) (front ++ .literal other :: back) where
  canonical := by
    refine ⟨?_, ?_⟩
    · have hparts := h.parts
      simp only [List.forall_mem_append, List.forall_mem_cons] at hparts ⊢
      exact ⟨hparts.1, hother, hparts.2.2⟩
    · have hapart := h.apart
      simp only [List.isChain_append, List.isChain_cons, List.head?_cons, Option.mem_some_iff,
        forall_eq', Part.IsLiteral] at hapart ⊢
      exact hapart
  placeholders := by
    simp [Template.placeholders]
  apart := by
    simp only [apart_iff_isChain, List.isChain_append, List.isChain_cons, List.head?_cons,
      Option.mem_some_iff, forall_eq', Part.IsLiteral]
    exact id

/-- Literal text may be put before a template that does not start with any. -/
theorem Canonical.widens_cons (h : t.Canonical) (htext : text ≠ [])
    (hhead : ∀ p ∈ t.head?, ¬p.IsLiteral) : t.Widens (.literal text :: t) where
  canonical := ⟨List.forall_mem_cons.mpr ⟨htext, h.parts⟩,
    List.isChain_cons.mpr ⟨fun p hp hboth => hhead p hp hboth.2, h.apart⟩⟩
  placeholders := rfl
  apart hapart := apart_iff_isChain.mpr (List.isChain_cons.mpr
    ⟨fun _ _ => .inl trivial, apart_iff_isChain.mp hapart⟩)

/-- Literal text may be put behind a template that does not end with any. -/
theorem Canonical.widens_concat (h : t.Canonical) (htext : text ≠ [])
    (hlast : ∀ p ∈ t.getLast?, ¬p.IsLiteral) : t.Widens (t ++ [.literal text]) where
  canonical := ⟨List.forall_mem_append.mpr ⟨h.parts, List.forall_mem_singleton.mpr htext⟩,
    List.isChain_append.mpr ⟨h.apart, .singleton _, fun p hp _ _ hboth => hlast p hp hboth.1⟩⟩
  placeholders := by
    simp [Template.placeholders]
  apart hapart := apart_iff_isChain.mpr (List.isChain_append.mpr
    ⟨apart_iff_isChain.mp hapart, .singleton _, by simp [Part.IsLiteral]⟩)

/-- A slash may be written before a template. -/
theorem Canonical.exists_slash_before (h : t.Canonical) :
    ∃ wide, t.Widens wide ∧ wide.render = '/' :: t.render := by
  match t, h with
  | .literal text :: rest, h =>
    exact ⟨.literal ('/' :: text) :: rest, h.widens_literal [] nofun, rfl⟩
  | [], h => exact ⟨[.literal ['/']], h.widens_cons nofun nofun, rfl⟩
  | .placeholder p :: rest, h =>
    refine ⟨.literal ['/'] :: .placeholder p :: rest, h.widens_cons nofun ?_, rfl⟩
    rintro _ ⟨⟩
    exact id

/-- A slash may be written behind a template. -/
theorem Canonical.exists_slash_behind (h : t.Canonical) :
    ∃ wide, t.Widens wide ∧ wide.render = t.render ++ ['/'] := by
  obtain rfl | ⟨init, part, rfl⟩ := t.eq_nil_or_concat'
  · exact ⟨[.literal ['/']], h.widens_cons nofun nofun, rfl⟩
  cases part with
  | literal text =>
    have hne : text ++ ['/'] ≠ [] := List.append_ne_nil_of_right_ne_nil text nofun
    refine ⟨init ++ [.literal (text ++ ['/'])], h.widens_literal init hne, ?_⟩
    simp [render, Part.render, doubleBraces_append, doubleBraces]
  | placeholder p =>
    have hne : ['/'] ≠ [] := nofun
    refine ⟨init ++ [.placeholder p] ++ [.literal ['/']], h.widens_concat hne ?_, ?_⟩
    · simp [Part.IsLiteral]
    · simp [render, Part.render, doubleBraces]

end

section

variable {text : Text} {t : Template}

/-- A text can be read with a slash before it. -/
theorem exists_parse_cons (h : parse text = .ok t) :
    ∃ wide, parse ('/' :: text) = .ok wide ∧ t.Widens wide := by
  obtain ⟨wide, hwide, hrender⟩ := (canonical_of_parse h).exists_slash_before
  rw [render_of_parse h] at hrender
  exact ⟨wide, hrender ▸ readAs_render hwide.canonical 0, hwide⟩

/-- A text can be read with a slash behind it. -/
theorem exists_parse_concat (h : parse text = .ok t) :
    ∃ wide, parse (text ++ ['/']) = .ok wide ∧ t.Widens wide := by
  obtain ⟨wide, hwide, hrender⟩ := (canonical_of_parse h).exists_slash_behind
  rw [render_of_parse h] at hrender
  exact ⟨wide, hrender ▸ readAs_render hwide.canonical 0, hwide⟩

/-- A text can be read with slashes before it. -/
theorem exists_parse_append_left {front : Text} (hfront : ∀ c ∈ front, c = '/')
    (h : parse text = .ok t) : ∃ wide, parse (front ++ text) = .ok wide ∧ t.Widens wide := by
  induction front with
  | nil => exact ⟨t, h, (canonical_of_parse h).widens⟩
  | cons c front ih =>
    obtain ⟨rfl, hrest⟩ := List.forall_mem_cons.mp hfront
    obtain ⟨wide, hparse, hwide⟩ := ih hrest
    obtain ⟨wider, hparse', hwider⟩ := exists_parse_cons hparse
    exact ⟨wider, hparse', hwide.trans hwider⟩

/-- A text can be read with slashes behind it. -/
theorem exists_parse_append_right {back : Text} (hback : ∀ c ∈ back, c = '/')
    (h : parse text = .ok t) : ∃ wide, parse (text ++ back) = .ok wide ∧ t.Widens wide := by
  induction back generalizing text t with
  | nil =>
    rw [List.append_nil]
    exact ⟨t, h, (canonical_of_parse h).widens⟩
  | cons c back ih =>
    obtain ⟨rfl, hrest⟩ := List.forall_mem_cons.mp hback
    obtain ⟨wide, hparse, hwide⟩ := exists_parse_concat h
    obtain ⟨wider, hparse', hwider⟩ := ih hrest hparse
    rw [List.append_assoc, List.singleton_append] at hparse'
    exact ⟨wider, hparse', hwide.trans hwider⟩

/-- A text that can be read without its outer slashes can be read with them. -/
theorem exists_parse_of_parse_trim (h : parse (Text.trim '/' text) = .ok t) :
    ∃ wide, parse text = .ok wide ∧ t.Widens wide := by
  obtain ⟨front, back, htext, hfront, hback⟩ := Text.exists_append_trim '/' text
  obtain ⟨wide, hparse, hwide⟩ := exists_parse_append_left hfront h
  obtain ⟨wider, hparse', hwider⟩ := exists_parse_append_right hback hparse
  rw [← htext] at hparse'
  exact ⟨wider, hparse', hwide.trans hwider⟩

end

end Template

end PathRouting
