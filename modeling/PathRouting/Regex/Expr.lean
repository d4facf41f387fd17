import PathRouting.Regex.CharSet

/-!
# Expressions

The abstract form of an expression, in which flags and names have been resolved. Branches and
repetitions are tried in the order of preference: the first branch first, and one more round
first when the repetition is greedy.
-/

namespace PathRouting.Regex

/-- Which kind of bound of a word is asked for. -/
inductive WordBound where
  /-- A word starts or ends here. -/
  | either
  /-- No word starts or ends here. -/
  | neither
  /-- A word starts here. -/
  | start
  /-- A word ends here. -/
  | finish
  /-- No character of a word stands before. -/
  | startHalf
  /-- No character of a word follows. -/
  | finishHalf
deriving DecidableEq, Repr

/-- A condition on a place in the text. -/
inductive Look where
  /-- The start of the text. -/
  | textStart
  /-- The end of the text. -/
  | textEnd
  /-- The start of a line, lines ending with a line feed. -/
  | lineStart
  /-- The end of a line, lines ending with a line feed. -/
  | lineEnd
  /-- The start of a line, lines ending with a carriage return, a line feed or both. -/
  | crlfStart
  /-- The end of a line, lines ending with a carriage return, a line feed or both. -/
  | crlfEnd
  /-- A bound of a word, whose characters are those of Unicode or of ASCII. -/
  | word (unicode : Bool) (bound : WordBound)
deriving DecidableEq, Repr

/-- An expression. -/
inductive Expr where
  /-- Matches the empty text. -/
  | empty
  /-- Matches one character of a set. -/
  | set (s : CharSet)
  /-- Matches the empty text where a condition holds. -/
  | look (l : Look)
  /-- Matches the one and then the other. -/
  | seq (a b : Expr)
  /-- Matches the one or else the other. -/
  | alt (a b : Expr)
  /-- Matches between `min` and `max` rounds, without a bound if there is no `max`. -/
  | loop (min : Nat) (max : Option Nat) (greedy : Bool) (e : Expr)
  /-- Matches as `e` does and remembers where. -/
  | group (index : Nat) (e : Expr)
deriving DecidableEq

namespace Expr

/-- Whether every match takes at least one character. -/
def consumes : Expr → Bool
  | empty => false
  | set _ => true
  | look _ => false
  | seq a b => a.consumes || b.consumes
  | alt a b => a.consumes && b.consumes
  | loop min _ _ e => min != 0 && e.consumes
  | group _ e => e.consumes

/-- Whether every match takes no character. -/
def takesNothing : Expr → Bool
  | empty => true
  | set _ => false
  | look _ => true
  | seq a b => a.takesNothing && b.takesNothing
  | alt a b => a.takesNothing && b.takesNothing
  | loop _ max _ e => max.any fun most => most == 0 || e.takesNothing
  | group _ e => e.takesNothing

/-- Matches each of a list in turn. -/
def sequence : List Expr → Expr
  | [] => empty
  | [e] => e
  | e :: rest => seq e (sequence rest)

/-- Matches each of a list in turn; parts that are empty leave no trace. -/
def concat (parts : List Expr) : Expr :=
  sequence (parts.filter (· ≠ empty))

/-- The parts that an expression matches in turn. -/
def factors : Expr → List Expr
  | empty => []
  | seq a b => a.factors ++ b.factors
  | e => [e]

/-- The longest start that two lists share. -/
def sharedStart : List Expr → List Expr → List Expr
  | a :: as, b :: bs => if a = b then a :: sharedStart as bs else []
  | _, _ => []

/-- Matches one of a list, the earlier ones preferred. -/
def branches : List Expr → Expr
  | [] => empty
  | [e] => e
  | e :: rest => alt e (branches rest)

/-- Matches one of a list, the earlier ones preferred. If every branch is a sequence and all start
with the same parts, those are matched once, before the branching. -/
def oneOf (alternatives : List Expr) : Expr :=
  match alternatives.map factors with
  | first :: second :: rest =>
    let all := first :: second :: rest
    let shared := (second :: rest).foldl sharedStart first
    if shared ≠ [] ∧ all.all (fun parts => 2 ≤ parts.length) then
      concat (shared ++ [branches (all.map fun parts => concat (parts.drop shared.length))])
    else branches alternatives
  | _ => branches alternatives

/-- Repeats an expression. One that takes nothing is matched at most once, as further rounds could
not differ; no round at all is empty, and exactly one round is the expression itself. -/
def repeated (min : Nat) (max : Option Nat) (greedy : Bool) (e : Expr) : Expr :=
  let (min, max) :=
    if e.takesNothing then (Nat.min min 1, some (Nat.min (max.getD 1) 1)) else (min, max)
  if min = 0 ∧ max = some 0 then empty
  else if min = 1 ∧ max = some 1 then e
  else loop min max greedy e

end Expr

end PathRouting.Regex
