import PathRouting.Regex.Program
import PathRouting.Regex.Property

/-!
# Running a program

A thread stands at an instruction and at a place of the text. Threads are tried in the order of
preference, the whole text to the right of the first branch before the second branch. A thread that
comes to an instruction and a place where another one has been before is dropped: whatever it could
still reach has been reached already or is being tried. So each pair is visited once, and a search
takes time proportional to the size of the program times the length of the text.
-/

namespace PathRouting.Regex

/-- Whether the character at a place is one of a word. -/
def isWordAt (unicode : Bool) (c : Option Char) : Bool :=
  c.any (if unicode then wordChars else asciiWord).contains

/-- Whether a condition holds between two characters, `none` standing for a bound of the text. -/
def Look.holds (l : Look) (before after : Option Char) : Bool :=
  match l with
  | textStart => before.isNone
  | textEnd => after.isNone
  | lineStart => before.isNone || before == some '\n'
  | lineEnd => after.isNone || after == some '\n'
  | crlfStart =>
    before.isNone || before == some '\n' || (before == some '\r' && after != some '\n')
  | crlfEnd =>
    after.isNone || after == some '\r' || (after == some '\n' && before != some '\r')
  | word unicode bound =>
    let left := isWordAt unicode before
    let right := isWordAt unicode after
    match bound with
    | .either => left != right
    | .neither => left == right
    | .start => !left && right
    | .finish => left && !right
    | .startHalf => !left
    | .finishHalf => !right

/-- A way to go on with a match. -/
structure Thread where
  /-- The instruction that is next. -/
  inst : Nat
  /-- The number of characters before the place that has been reached. -/
  place : Nat
  /-- The places that have been remembered with their numbers, last one first. -/
  saved : List (Nat × Nat)

/-- What one instruction makes of a thread. -/
inductive Step where
  /-- The thread ends a match. -/
  | accepted
  /-- The thread goes on as one of these, the earlier ones preferred. -/
  | threads (next : List Thread)

/-- Runs one instruction. -/
def Thread.step (p : Program) (input : Array Char) (t : Thread) : Step :=
  match p[t.inst]? with
  | none => .threads []
  | some inst =>
    match inst with
    | .take s =>
      match input[t.place]? with
      | some c => if s.contains c then .threads [⟨t.inst + 1, t.place + 1, t.saved⟩] else .threads []
      | none => .threads []
    | .check l =>
      let before := if t.place = 0 then none else input[t.place - 1]?
      if l.holds before input[t.place]? then .threads [{ t with inst := t.inst + 1 }]
      else .threads []
    | .save slot => .threads [{ t with inst := t.inst + 1, saved := (slot, t.place) :: t.saved }]
    | .jump target => .threads [{ t with inst := target }]
    | .fork first second => .threads [{ t with inst := first }, { t with inst := second }]
    | .accept => .accepted

/-- A set of natural numbers below a bound, as the bits of words. -/
abbrev BitSet := Array Nat

namespace BitSet

/-- The number of bits of a word. -/
def wordSize : Nat := 32

/-- The empty set of numbers below a bound. -/
def empty (bound : Nat) : BitSet :=
  Array.replicate (bound / wordSize + 1) 0

/-- Whether a number is in a set. -/
def contains (s : BitSet) (n : Nat) : Bool :=
  (s[n / wordSize]?.getD 0).testBit (n % wordSize)

/-- Puts a number into a set. -/
def insert (s : BitSet) (n : Nat) : BitSet :=
  s.modify (n / wordSize) (· ||| 1 <<< (n % wordSize))

end BitSet

/-- The number of the instruction and the place at which a thread stands, among all pairs of
both. -/
def Thread.key (p : Program) (t : Thread) : Nat :=
  t.place * p.size + t.inst

/-- Runs threads in the order of preference until one is accepted. -/
def runThreads (p : Program) (input : Array Char) :
    Nat → List Thread → BitSet → Option (List (Nat × Nat))
  | 0, _, _ => none
  | _ + 1, [], _ => none
  | fuel + 1, t :: rest, visited =>
    if visited.contains (t.key p) then runThreads p input fuel rest visited
    else match t.step p input with
      | .accepted => some t.saved
      | .threads next => runThreads p input fuel (next ++ rest) (visited.insert (t.key p))

/-- The places that the preferred match remembers, the leftmost matches being preferred. The fuel
is one more than the number of threads that can come up: one for each place to start at, and two
for each instruction at each place. -/
def Program.search (p : Program) (input : Array Char) : Option (List (Nat × Nat)) :=
  let places := input.size + 1
  runThreads p input (places + 2 * p.size * places + 1)
    ((List.range places).map fun place => ⟨0, place, []⟩) (BitSet.empty (places * p.size))

end PathRouting.Regex
