import PathRouting.Regex.Expr

/-!
# The weight of an expression

An expression that grows too much when its repetitions are written out is refused. Its weight is an
estimate, in bytes, of an automaton over UTF-8 that matches it: some thirty bytes for each state,
and for a set of characters about as much for each run of neighbours in each part of the encoding.
-/

namespace PathRouting.Regex

namespace CharSet

/-- The weight of one state. -/
def stateWeight : Nat := 32

/-- The weight of one transition. -/
def edgeWeight : Nat := 8

/-- The weight of a run of neighbours of a table. -/
def runWeight : Nat := 62

/-- The weight of a complement beyond that of its set. -/
def complementWeight : Nat := 900

/-- The weight of the code points of a stride. -/
def strideWeight (s : Unicode.Stride) : Nat :=
  if s.step = 1 then runWeight else ((s.last - s.first) / s.step + 1) * (stateWeight + edgeWeight)

/-- The weight of a set of characters without the states around it. -/
def innerWeight : CharSet → Nat
  | none => 0
  | range first last =>
    if last.toNat < 0x80 then edgeWeight
    else (first.utf8Size + last.utf8Size) * (stateWeight + edgeWeight) / 2
  | table codes => codes.foldl (fun weight s => weight + strideWeight s) 0
  | union a b => a.innerWeight + b.innerWeight
  | inter a b => a.innerWeight + b.innerWeight
  | diff a b => a.innerWeight + b.innerWeight
  | symmDiff a b => a.innerWeight + b.innerWeight
  | compl a => a.innerWeight + complementWeight
  | ignoreCase a => 2 * a.innerWeight
  | ignoreAsciiCase a => 2 * a.innerWeight

/-- The weight of a set of characters. A single character takes a state for each of its bytes. -/
def weight (s : CharSet) : Nat :=
  match s with
  | range first last =>
    if first = last then stateWeight * first.utf8Size else s.innerWeight + 2 * stateWeight
  | s => s.innerWeight + 2 * stateWeight

end CharSet

open CharSet (stateWeight edgeWeight)

/-- The weight of an expression. -/
def Expr.weight : Expr → Nat
  | empty => stateWeight
  | set s => s.weight
  | look _ => stateWeight
  | seq a b => a.weight + b.weight
  | alt a b => a.weight + b.weight + stateWeight + edgeWeight
  | loop min max _ e =>
    match max with
    | some max =>
      min * e.weight + (max - min) * (e.weight + stateWeight + edgeWeight) + stateWeight
    | none => Nat.max min 1 * e.weight + stateWeight + edgeWeight
  | group _ e => e.weight + 2 * stateWeight

/-- The greatest weight of an expression that is not refused. -/
def weightLimit : Nat := 10 * Nat.pow 2 20

end PathRouting.Regex
