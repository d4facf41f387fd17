import PathRouting.Regex.Expr

/-!
# Programs

An expression is matched by a program: a row of instructions of which all but jumps go on with the
next one. The code of an expression depends on the place where it starts, as jumps name their
targets, but its length does not. A branch offers two ways to go on, the preferred one first.
-/

namespace PathRouting.Regex

/-- An instruction. -/
inductive Inst where
  /-- Takes a character of a set. -/
  | take (s : CharSet)
  /-- Goes on where a condition holds. -/
  | check (l : Look)
  /-- Remembers the place under a number. -/
  | save (slot : Nat)
  /-- Goes on at another instruction. -/
  | jump (target : Nat)
  /-- Goes on at either of two instructions, the first one preferred. -/
  | fork (first second : Nat)
  /-- Ends a match. -/
  | accept
deriving DecidableEq

/-- A row of instructions. -/
abbrev Program := Array Inst

/-- A branch into a body and past it; the body is preferred if the repetition is greedy. -/
def forkInto (greedy : Bool) (body past : Nat) : Inst :=
  if greedy then .fork body past else .fork past body

/-- The code of `count` rounds in a row. -/
def rounds (code : Nat → List Inst) (size : Nat) : Nat → Nat → List Inst
  | 0, _ => []
  | count + 1, start => code start ++ rounds code size count (start + size)

/-- The code of up to `count` rounds, each of which may be the last; `past` is where the last one
ends. -/
def optionalRounds (greedy : Bool) (code : Nat → List Inst) (size past : Nat) :
    Nat → Nat → List Inst
  | 0, _ => []
  | count + 1, start =>
    forkInto greedy (start + 1) past :: code (start + 1)
      ++ optionalRounds greedy code size past count (start + 1 + size)

namespace Expr

/-- The length of the code of an expression. -/
def size : Expr → Nat
  | empty => 0
  | set _ => 1
  | look _ => 1
  | seq a b => a.size + b.size
  | alt a b => a.size + b.size + 2
  | loop min max _ e =>
    match max with
    | some max => min * e.size + (max - min) * (e.size + 1)
    | none => if min = 0 then e.size + 2 else min * e.size + 1
  | group _ e => e.size + 2

/-- The code of an expression that starts at a given place and ends right behind itself. A body
that may take nothing is left by a branch of its own, so that a round without progress is the last
one. -/
def code : Expr → Nat → List Inst
  | empty, _ => []
  | set s, _ => [.take s]
  | look l, _ => [.check l]
  | seq a b, start => a.code start ++ b.code (start + a.size)
  | alt a b, start =>
    .fork (start + 1) (start + a.size + 2) :: a.code (start + 1)
      ++ .jump (start + a.size + b.size + 2) :: b.code (start + a.size + 2)
  | loop min max greedy e, start =>
    match max with
    | some max =>
      let optional := start + min * e.size
      let past := optional + (max - min) * (e.size + 1)
      rounds e.code e.size min start
        ++ optionalRounds greedy e.code e.size past (max - min) optional
    | none =>
      if min = 0 then
        let body := start + 1
        let past := start + e.size + 2
        forkInto greedy body past :: e.code body
          ++ [if e.consumes then .jump start else forkInto greedy body past]
      else
        let last := start + (min - 1) * e.size
        rounds e.code e.size (min - 1) start
          ++ e.code last ++ [forkInto greedy last (last + e.size + 1)]
  | group index e, start =>
    .save (2 * index) :: e.code (start + 1) ++ [.save (2 * index + 1)]

/-- The program of an expression. -/
def program (e : Expr) : Program :=
  (e.code 0 ++ [Inst.accept]).toArray

end Expr

end PathRouting.Regex
