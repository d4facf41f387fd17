import PathRouting.Json.Basic

/-!
# Tokens of JSON

A text is cut into tokens up to the first place where none can be read. That place is a token of
its own, so that whoever goes through the tokens comes to it in its turn.
-/

namespace PathRouting.Json

/-- A token. -/
inductive Token where
  /-- An opening brace. -/
  | openBrace
  /-- A closing brace. -/
  | closeBrace
  /-- An opening bracket. -/
  | openBracket
  /-- A closing bracket. -/
  | closeBracket
  /-- A comma. -/
  | comma
  /-- A colon. -/
  | colon
  /-- The absence of a value. -/
  | null
  /-- A truth value. -/
  | boolean (b : Bool)
  /-- A number. -/
  | number
  /-- A text. -/
  | string (t : Text)
  /-- A place where no token can be read. -/
  | malformed
deriving DecidableEq

mutual

/-- The tokens of a value. -/
def tokens : Json → List Token
  | null => [.null]
  | boolean b => [.boolean b]
  | integer _ => [.number]
  | floating _ => [.number]
  | string t => [.string t]
  | array items => .openBracket :: itemTokens true items ++ [.closeBracket]
  | object entries => .openBrace :: entryTokens true entries ++ [.closeBrace]

/-- The tokens of the items of a list. -/
def itemTokens : (isFirst : Bool) → List Json → List Token
  | _, [] => []
  | isFirst, v :: rest => (if isFirst then [] else [.comma]) ++ v.tokens ++ itemTokens false rest

/-- The tokens of the entries of an object. -/
def entryTokens : (isFirst : Bool) → List (Text × Json) → List Token
  | _, [] => []
  | isFirst, (name, v) :: rest =>
    (if isFirst then [] else [.comma]) ++ .string name :: .colon :: v.tokens
      ++ entryTokens false rest

end

namespace Token

/-- The value of four hexadecimal digits. -/
def unit? (a b c d : Char) : Option Nat := do
  return Text.ofDigits 16
    [← Text.hexValue? a, ← Text.hexValue? b, ← Text.hexValue? c, ← Text.hexValue? d]

/-- The character that a backslash and another character stand for. -/
def escape? (c : Char) : Option Char :=
  match c with
  | '"' => some '"'
  | '\\' => some '\\'
  | '/' => some '/'
  | 'b' => some '\x08'
  | 'f' => some '\x0c'
  | 'n' => some '\n'
  | 'r' => some '\r'
  | 't' => some '\t'
  | _ => none

/-- The character of two halves of which the first one is high and the second one low. -/
def joinHalves? (high low : Nat) : Option Char :=
  if 0xD800 ≤ high ∧ high ≤ 0xDBFF ∧ 0xDC00 ≤ low ∧ low ≤ 0xDFFF then
    Text.charOfCode? (0x10000 + (high - 0xD800) * 0x400 + (low - 0xDC00))
  else none

/-- Puts a character before a text that was read up to its closing quote. -/
def before (c : Option Char) (t : Option (Text × Text)) : Option (Text × Text) := do
  let (text, rest) ← t
  return ((← c) :: text, rest)

/-- Whether a code unit is the first half of a character. -/
def isHigh (n : Nat) : Bool :=
  0xD800 ≤ n && n ≤ 0xDBFF

/-- A text up to its closing quote, with what follows. If the first half of a character came right
before, the second half has to follow. -/
def readStringFrom : (high : Option Nat) → Text → Option (Text × Text)
  | _, [] => none
  | high, '\\' :: 'u' :: a :: b :: c :: d :: rest =>
    match high, unit? a b c d with
    | _, none => none
    | none, some n =>
      if isHigh n then readStringFrom (some n) rest
      else before (Text.charOfCode? n) (readStringFrom none rest)
    | some high, some n => before (joinHalves? high n) (readStringFrom none rest)
  | some _, _ => none
  | none, '"' :: rest => some ([], rest)
  | none, '\\' :: c :: rest => before (escape? c) (readStringFrom none rest)
  | none, c :: rest =>
    if c.toNat < 0x20 ∨ c = '\\' then none else before (some c) (readStringFrom none rest)

/-- A text up to its closing quote, with what follows. -/
def readString (t : Text) : Option (Text × Text) :=
  readStringFrom none t

/-- The digits at the start of a text, with what follows; there has to be one. -/
def readDigits (t : Text) : Option (Text × Text) :=
  let digits := t.takeWhile Text.isDigit
  if digits.isEmpty then none else some (digits, t.drop digits.length)

/-- The digits of the whole part of a number, which starts with a zero only if it is one. -/
def readWhole (t : Text) : Option (Text × Text) := do
  let (digits, rest) ← readDigits t
  if digits.head? = some '0' ∧ digits ≠ ['0'] then none else some (digits, rest)

/-- The digits behind a point, if there is one. -/
def readFraction : Text → Option (Text × Text)
  | '.' :: rest => readDigits rest
  | t => some ([], t)

/-- The value of an exponent, if there is one. -/
def readExponent : Text → Option (Int × Text)
  | [] => some (0, [])
  | c :: rest =>
    if c = 'e' ∨ c = 'E' then do
      let (isNegative, rest) := match rest with
        | '-' :: rest => (true, rest)
        | '+' :: rest => (false, rest)
        | rest => (false, rest)
      let (digits, rest) ← readDigits rest
      let value := Text.ofDigits 10 (digits.map fun d => d.toNat - '0'.toNat)
      return (if isNegative then -value else value, rest)
    else some (0, c :: rest)

/-- What follows a number, which has to be finite when it is read with double precision. -/
def readNumber (t : Text) : Option Text := do
  let unsigned := match t with
    | '-' :: rest => rest
    | t => t
  let (whole, rest) ← readWhole unsigned
  let (fraction, rest) ← readFraction rest
  let (exponent, rest) ← readExponent rest
  let digits := Text.ofDigits 10 ((whole ++ fraction).map fun d => d.toNat - '0'.toNat)
  if (Binary64.ofDecimal false digits (exponent - fraction.length)).isFinite then some rest
  else none

/-- Whether a character is white space. -/
def isBlank (c : Char) : Bool :=
  c == ' ' || c == '\n' || c == '\t' || c == '\r'

/-- The token that a character starts, with what follows. -/
def readAt (c : Char) (rest : Text) : Option (Token × Text) :=
  match c, rest with
  | '\x7b', _ => some (.openBrace, rest)
  | '\x7d', _ => some (.closeBrace, rest)
  | '[', _ => some (.openBracket, rest)
  | ']', _ => some (.closeBracket, rest)
  | ',', _ => some (.comma, rest)
  | ':', _ => some (.colon, rest)
  | 'n', 'u' :: 'l' :: 'l' :: rest => some (.null, rest)
  | 't', 'r' :: 'u' :: 'e' :: rest => some (.boolean true, rest)
  | 'f', 'a' :: 'l' :: 's' :: 'e' :: rest => some (.boolean false, rest)
  | '"', _ => (readString rest).map fun (t, rest) => (.string t, rest)
  | _, _ =>
    if c = '-' ∨ Text.isDigit c then (readNumber (c :: rest)).map fun rest => (.number, rest)
    else none

/-- The tokens of a text; each takes at least one character. -/
def scanFrom : Nat → Text → List Token
  | 0, _ => []
  | fuel + 1, t =>
    match t.dropWhile isBlank with
    | [] => []
    | c :: rest =>
      match readAt c rest with
      | some (token, rest) => token :: scanFrom fuel rest
      | none => [.malformed]

/-- The tokens of a text. -/
def scan (t : Text) : List Token :=
  scanFrom (t.length + 1) t

end Token

end PathRouting.Json
