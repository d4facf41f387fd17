import PathRouting.Template.Basic

/-!
# The layout of a template

A template can also be seen as its placeholders, each with the literal text between it and the one
before, and the text behind the last placeholder.
-/

namespace PathRouting.Template

/-- A placeholder with the literal text before it. -/
structure Placed where
  /-- The text between the placeholder and the one before, or the start. -/
  gap : Text
  /-- The placeholder. -/
  placeholder : Placeholder
deriving DecidableEq

/-- The placeholders of a template with the text between them. -/
structure Layout where
  /-- The placeholders, left to right. -/
  placed : List Placed
  /-- The text behind the last placeholder. -/
  trailing : Text
deriving DecidableEq

/-- The layout of a template that follows literal text. -/
def layoutAfter (gap : Text) : Template → Layout
  | [] => ⟨[], gap⟩
  | .literal text :: rest => layoutAfter (gap ++ text) rest
  | .placeholder p :: rest =>
    let behind := layoutAfter [] rest
    ⟨⟨gap, p⟩ :: behind.placed, behind.trailing⟩

/-- The layout of a template. -/
def layout (t : Template) : Layout :=
  layoutAfter [] t

end PathRouting.Template
