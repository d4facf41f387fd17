import PathRouting.Proofs.Template.Grammar

/-!
# The names of placeholders

Reading a template lets through no name of a parameter that could not name a group of an
expression.
-/

namespace PathRouting.Template

/-- An identifier could name a group. -/
theorem isGroupName_of_isName {name : Text} (h : IsName name) : Regex.IsGroupName name := by
  cases name with
  | nil => exact h.elim
  | cons c rest =>
    obtain ⟨hfirst, hrest⟩ := h
    refine ⟨List.forall_mem_cons.mpr ⟨?_, hrest⟩, c, rest, rfl, ?_⟩
    · exact hfirst.imp_right .inr
    · rcases hfirst with hletter | rfl
      · exact Bool.eq_false_iff.mpr (not_isDigit_of_isLetter hletter)
      · rfl

/-- The placeholders of a template are parts of it. -/
theorem mem_of_mem_placeholders {t : Template} {p : Placeholder} (h : p ∈ t.placeholders) :
    .placeholder p ∈ t := by
  obtain ⟨part, hpart, hp⟩ := List.mem_filterMap.mp h
  cases part with
  | literal text => cases hp
  | placeholder q =>
    cases hp
    exact hpart

/-- The names of the placeholders of a template are good ones. -/
theorem isGroupName_of_parse {t : Text} {template : Template} (h : parse t = .ok template) :
    ∀ p ∈ template.placeholders, Regex.IsGroupName p.name := by
  obtain ⟨hcanonical, -⟩ := canonical_of_readFrom (show Mode.Sound (.literal []) from trivial) h
  intro p hp
  exact isGroupName_of_isName (hcanonical.parts _ (mem_of_mem_placeholders hp)).name

/-- The placeholders of a layout are those of the template. -/
theorem map_placeholder_layoutAfter (gap : Text) (t : Template) :
    (layoutAfter gap t).placed.map Placed.placeholder = t.placeholders := by
  induction t generalizing gap with
  | nil => rfl
  | cons part rest ih =>
    cases part with
    | literal text => exact ih (gap ++ text)
    | placeholder p => exact congrArg (p :: ·) (ih [])

end PathRouting.Template
