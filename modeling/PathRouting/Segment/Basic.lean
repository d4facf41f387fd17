import PathRouting.Text.Basic

/-!
# Segments

A segment is one placeholder with the text that is attached to it, or a piece of literal text. The
segments of a template are matched in turn, with separators between them; literal text is kept as
the expression that matches it.
-/

namespace PathRouting

/-- A placeholder with its surrounding text, or a piece of literal text. -/
structure Segment where
  /-- The name of the parameter, if there is one. -/
  name : Option Text := none
  /-- The expression that matches the value, or the literal text. -/
  pattern : Text := []
  /-- Whether the parameter may be absent. -/
  isOptional : Bool := false
  /-- The text right before the value. -/
  before : Text := []
  /-- The text right behind the value. -/
  after : Text := []
  /-- Whether the next segment follows without a separator. -/
  isGlued : Bool := false
  /-- Whether this is the last segment. -/
  isLast : Bool := false
  /-- Whether segments follow and all of them are optional. -/
  optionalRest : Bool := false
deriving DecidableEq

namespace Segment

/-- A piece of literal text. -/
def literal (text : Text) : Segment :=
  { pattern := text }

end Segment

end PathRouting
