import PathRouting.Regex.Parser
import PathRouting.Regex.Search
import PathRouting.Regex.Weight

/-!
# Regular expressions

An expression is compiled from its text once and then searched for in texts. The match that is
found is the leftmost one, and among those the first one in the order of preference of the branches
and repetitions. A match gives access to what the named groups took.
-/

namespace PathRouting

/-- A compiled expression. -/
structure Regex where
  /-- The named groups with their numbers. -/
  names : List (Text × Nat)
  /-- The program that matches the expression. -/
  program : Regex.Program

namespace Regex

/-- Compiles the text of an expression. -/
def compile (f : Flags) (t : Text) : Except Error Regex := do
  let parsed ← parse f t
  if weightLimit < parsed.expr.weight then .error .size
  else return ⟨parsed.names, parsed.expr.program⟩

/-- A match of an expression in a text. -/
structure Match where
  /-- The text. -/
  input : Array Char
  /-- The named groups of the expression with their numbers. -/
  names : List (Text × Nat)
  /-- The places that have been remembered with their numbers, last one first. -/
  saved : List (Nat × Nat)

/-- The place that was last remembered under a number. -/
def Match.place? (m : Match) (slot : Nat) : Option Nat :=
  (m.saved.find? (·.1 == slot)).map (·.2)

/-- The places where a named group starts and ends, if it took part in the match. -/
def Match.span? (m : Match) (name : Text) : Option (Nat × Nat) := do
  let (_, index) ← m.names.find? (·.1 == name)
  return (← m.place? (2 * index), ← m.place? (2 * index + 1))

/-- What a named group took, if it took part in the match. -/
def Match.named? (m : Match) (name : Text) : Option Text :=
  (m.span? name).map fun (start, stop) => (m.input.extract start stop).toList

/-- The preferred match of an expression in a text. -/
def search (r : Regex) (t : Text) : Option Match :=
  let input := t.toArray
  (r.program.search input).map fun saved => ⟨input, r.names, saved⟩

end Regex

end PathRouting
