import PathRouting.Regex.Error
import PathRouting.Text.Basic

/-!
# Flags

Flags change how the rest of a group is read. A list of flags such as `is-x` switches on those
before the hyphen and off those behind it.
-/

namespace PathRouting.Regex

/-- How an expression is read. -/
structure Flags where
  /-- Letters match in either case. -/
  ignoreCase : Bool := false
  /-- `^` and `$` also match at the bounds of a line. -/
  multiLine : Bool := false
  /-- The dot also matches the end of a line. -/
  dotAll : Bool := false
  /-- Repetitions are lazy, and greedy when followed by `?`. -/
  swapGreed : Bool := false
  /-- Classes and case variants are those of Unicode. -/
  unicode : Bool := true
  /-- A carriage return also ends a line. -/
  crlf : Bool := false
  /-- Blanks and comments are skipped. -/
  verbose : Bool := false
deriving DecidableEq, Repr

namespace Flags

/-- Switches the flag that a letter stands for, if it stands for one. -/
def switch? (f : Flags) (letter : Char) (on : Bool) : Option Flags :=
  match letter with
  | 'i' => some { f with ignoreCase := on }
  | 'm' => some { f with multiLine := on }
  | 's' => some { f with dotAll := on }
  | 'U' => some { f with swapGreed := on }
  | 'u' => some { f with unicode := on }
  | 'R' => some { f with crlf := on }
  | 'x' => some { f with verbose := on }
  | _ => none

/-- Reads a list of flags: no letter comes twice, and one hyphen may stand before some letter. -/
def adjustFrom (seen : List Char) (on : Bool) (f : Flags) : Text → Option Flags
  | [] => some f
  | ['-'] => none
  | '-' :: rest => if on then adjustFrom seen false f rest else none
  | c :: rest =>
    if c ∈ seen then none
    else match f.switch? c on with
      | some f => adjustFrom (c :: seen) on f rest
      | none => none

/-- The flags after a list of changes, if the list is well formed. -/
def adjusted? (f : Flags) (letters : Text) : Option Flags :=
  adjustFrom [] true f letters

end Flags

end PathRouting.Regex
