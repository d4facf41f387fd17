import PathRouting.Regex.Escape
import PathRouting.Template.Parser

/-!
# Templates as expressions

The literal text of a template is escaped before an expression is made of it. Placeholders stay as
they are.
-/

namespace PathRouting.Template

/-- Escapes the literal text of a template; empty literals are left out. -/
def escapeLiterals (t : Template) : Template :=
  t.filterMap fun
    | .literal [] => none
    | .literal text => some (.literal (Regex.escape text))
    | .placeholder p => some (.placeholder p)

/-- A template whose literal text has been escaped, as one text. -/
def renderEscaped (t : Template) : Text :=
  t.escapeLiterals.flatMap fun
    | .literal text => text
    | .placeholder p => p.render

end PathRouting.Template
