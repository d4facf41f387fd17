import PathRouting.Text.Basic

/-!
# Binary floating point numbers

A number of double precision is an exact dyadic fraction, an infinity or no number. Reading a
decimal fraction gives the nearest such number, of two equally near ones that with the even
significand. Writing one gives the fewest digits that read back.
-/

namespace PathRouting

/-- A number of double precision. -/
inductive Binary64 where
  /-- The number `significand * 2 ^ exponent`, negated if so told. The exponent is at least -1074,
  and the significand has 53 bits, or fewer with the least exponent. -/
  | finite (negative : Bool) (significand : Nat) (exponent : Int)
  /-- A number beyond all finite ones. -/
  | infinite (negative : Bool)
  /-- No number. -/
  | nan
deriving DecidableEq, Repr

namespace Binary64

/-- The exponent of the numbers nearest to zero. -/
def leastExponent : Int := -1074

/-- The greatest exponent. -/
def greatestExponent : Int := 971

/-- The number of bits of a significand. -/
def precision : Nat := 53

/-- The quotient of two natural numbers, rounded to the nearest one; half goes to the even
neighbour. -/
def roundedQuotient (num den : Nat) : Nat :=
  let quotient := num / den
  let twice := 2 * (num % den)
  if twice < den ∨ (twice = den ∧ quotient % 2 = 0) then quotient else quotient + 1

/-- The fraction `num / den` as one of two natural numbers after division by a power of two. -/
def scaleDown (num den : Nat) (exponent : Int) : Nat × Nat :=
  if exponent < 0 then (num * Nat.pow 2 (-exponent).toNat, den)
  else (num, den * Nat.pow 2 exponent.toNat)

/-- The number nearest to a positive fraction. -/
def ofFraction (negative : Bool) (num den : Nat) : Binary64 :=
  let estimate : Int := (num.log2 : Int) - den.log2 - precision
  let exponent := max leastExponent estimate
  let round (exponent : Int) : Nat :=
    let (num, den) := scaleDown num den exponent
    roundedQuotient num den
  let exponent := if Nat.pow 2 precision ≤ round exponent then exponent + 1 else exponent
  let significand := round exponent
  let (significand, exponent) :=
    if significand = Nat.pow 2 precision then (Nat.pow 2 (precision - 1), exponent + 1)
    else (significand, exponent)
  if greatestExponent < exponent then infinite negative
  else finite negative significand exponent

/-- The number nearest to `digits * 10 ^ exponent`. Beyond the bounds on the place of the first
digit everything is infinite, or zero. -/
def ofDecimal (negative : Bool) (digits : Nat) (exponent : Int) : Binary64 :=
  let places : Int := (Nat.toDigits 10 digits).length + exponent
  if digits = 0 ∨ places < -330 then finite negative 0 leastExponent
  else if 310 < places then infinite negative
  else if exponent < 0 then ofFraction negative digits (Nat.pow 10 (-exponent).toNat)
  else ofFraction negative (digits * Nat.pow 10 exponent.toNat) 1

/-- Whether a number is finite. -/
def isFinite : Binary64 → Bool
  | finite .. => true
  | _ => false

/-- The place of the first digit of a positive fraction: the greatest `p` for which `10 ^ p` does
not exceed it. -/
def decimalPlace (num den : Nat) : Int :=
  if den ≤ num then (Nat.toDigits 10 (num / den)).length - 1
  else
    let inverse := (num + den - 1) / num
    let places := (Nat.toDigits 10 (inverse - 1)).length
    Int.negOfNat places

/-- The fraction `num / den` after division by a power of ten. -/
def scaleDownDecimal (num den : Nat) (place : Int) : Nat × Nat :=
  if place < 0 then (num * Nat.pow 10 (-place).toNat, den)
  else (num, den * Nat.pow 10 place.toNat)

/-- The natural number nearest to `num / den` among the two next to it, if one of them lies between
`low / den` and `high / den`, the bounds included or not. Of two equally near ones the greater one
is taken. -/
def nearestBetween? (num low high den : Nat) (closed : Bool) : Option Nat :=
  let below := num / den
  let fits (n : Nat) : Bool :=
    (low < n * den && n * den < high) || (closed && (n * den == low || n * den == high))
  let nearest := if 2 * (num % den) < den then below else below + 1
  let other := if nearest = below then below + 1 else below
  if fits nearest then some nearest else if fits other then some other else none

/-- The fewest digits that read back as `significand * 2 ^ exponent`, which is positive, with the
place of the last digit. Where the fewest digits end in a zero they are a power of ten, and the
zero is left out. -/
def shortestDigits (significand : Nat) (exponent : Int) : Nat × Int :=
  -- All bounds are counted in quarters of the last bit.
  let center := 4 * significand
  let high := center + 2
  let low :=
    if significand = Nat.pow 2 (precision - 1) ∧ leastExponent < exponent then center - 1
    else center - 2
  let quarter := exponent - 2
  let fraction (n : Nat) : Nat × Nat :=
    if quarter < 0 then (n, Nat.pow 2 (-quarter).toNat) else (n * Nat.pow 2 quarter.toNat, 1)
  let (num, den) := fraction center
  let (lowNum, _) := fraction low
  let (highNum, _) := fraction high
  let place := decimalPlace num den
  let withCount (count : Nat) : Option (Nat × Int) :=
    let last := place - count + 1
    let (scaledNum, scaledDen) := scaleDownDecimal num den last
    let (scaledLow, _) := scaleDownDecimal lowNum den last
    let (scaledHigh, _) := scaleDownDecimal highNum den last
    (nearestBetween? scaledNum scaledLow scaledHigh scaledDen (significand % 2 = 0)).map
      fun digits => if digits % 10 = 0 then (digits / 10, last + 1) else (digits, last)
  ((List.range 17).findSome? fun count => withCount (count + 1)).getD (0, 0)

/-- Digits of which the last one stands at a given place, in positional notation. -/
def positional (digits : Nat) (last : Int) : String :=
  let text := Nat.toDigits 10 digits
  if 0 ≤ last then String.ofList (text ++ List.replicate last.toNat '0')
  else
    let places := (-last).toNat
    let padded := List.replicate (places + 1 - text.length) '0' ++ text
    let whole := padded.take (padded.length - places)
    String.ofList (whole ++ '.' :: padded.drop (padded.length - places))

/-- A number in positional notation, with at least one digit behind the point. -/
def render : Binary64 → String
  | finite negative significand exponent =>
    let sign := if negative then "-" else ""
    if significand = 0 then sign ++ "0.0"
    else
      let (digits, last) := shortestDigits significand exponent
      let text := positional digits last
      if 0 ≤ last then sign ++ text ++ ".0" else sign ++ text
  | infinite negative => if negative then "-inf" else "inf"
  | nan => "NaN"

end Binary64

end PathRouting
