import PathRouting.Text.Basic

/-!
# Templates

A template is literal text with placeholders in it. A placeholder names a parameter and may declare
that the parameter can be absent, with or without a value to use instead.
-/

namespace PathRouting

/-- What a placeholder declares about its absence. -/
inductive InlineDefault where
  /-- Nothing. -/
  | none
  /-- The parameter has this value when it is absent. -/
  | value (text : Text)
  /-- The parameter may be absent and then has no value. -/
  | optional
deriving DecidableEq, Repr

/-- A named gap in a template. -/
structure Placeholder where
  /-- The name of the parameter. -/
  name : Text
  /-- What is declared about its absence. -/
  default : InlineDefault := .none
deriving DecidableEq, Repr

/-- A part of a template. -/
inductive Part where
  /-- Text that stands for itself. -/
  | literal (text : Text)
  /-- A gap. -/
  | placeholder (p : Placeholder)
deriving DecidableEq, Repr

/-- A template, as the list of its parts. -/
abbrev Template := List Part

namespace Template

/-- The placeholders of a template, left to right. -/
def placeholders (t : Template) : List Placeholder :=
  t.filterMap fun
    | .literal _ => none
    | .placeholder p => some p

end Template

/-- A placeholder as it is written. -/
def Placeholder.render (p : Placeholder) : Text :=
  match p.default with
  | .none => '\x7b' :: p.name ++ ['\x7d']
  | .optional => '\x7b' :: p.name ++ ['?', '\x7d']
  | .value text => '\x7b' :: p.name ++ '=' :: text ++ ['\x7d']

/-- Literal text as it is written, with its braces doubled. -/
def doubleBraces : Text → Text
  | [] => []
  | c :: rest =>
    if c = '\x7b' ∨ c = '\x7d' then c :: c :: doubleBraces rest else c :: doubleBraces rest

/-- A part as it is written. -/
def Part.render : Part → Text
  | .literal text => doubleBraces text
  | .placeholder p => p.render

/-- A template as it is written. -/
def Template.render (t : Template) : Text :=
  t.flatMap Part.render

end PathRouting
