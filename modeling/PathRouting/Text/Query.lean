import PathRouting.Dict
import PathRouting.Text.Percent

/-!
# Query strings

A query string is a row of pairs joined by ampersands, each a name and a value joined by an equals
sign. A plus sign stands for a space, and both sides are percent encoded. Of two pairs with one
name the later one counts.
-/

namespace PathRouting.Query

/-- Decodes a name or a value. -/
def decode (t : Text) : Text :=
  let spaced := t.map fun c => if c = '+' then ' ' else c
  Utf8.decodeLossy (Percent.decodeBytes (Utf8.encode spaced))

/-- The name and the value of one pair; without an equals sign the value is empty. -/
def decodePair (t : Text) : Text × Text :=
  match Text.splitFirst '=' t with
  | some (name, value) => (decode name, decode value)
  | none => (decode t, [])

/-- The pairs of a query string, in order. -/
def pairs (t : Text) : List (Text × Text) :=
  ((Text.splitAll '&' t).filter (!·.isEmpty)).map decodePair

/-- Reads a query string. -/
def parse (t : Text) : Dict Text :=
  .ofList (pairs t)

/-- Reads a query string, if there is one. -/
def parse? (t : Option Text) : Dict Text :=
  t.elim ∅ parse

end PathRouting.Query
