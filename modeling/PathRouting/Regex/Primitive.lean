import PathRouting.Regex.Blanks
import PathRouting.Regex.Error
import PathRouting.Regex.Escape
import PathRouting.Regex.Expr
import PathRouting.Regex.Flags
import PathRouting.Regex.Property

/-!
# Escape sequences

What a backslash starts: a character, a set of characters or a condition on a place. The same
sequences are read outside and inside of bracketed classes.
-/

namespace PathRouting.Regex

/-- What an escape sequence stands for. -/
inductive Primitive where
  /-- One character; `isByte` tells that it was written as two hexadecimal digits. -/
  | char (c : Char) (isByte : Bool)
  /-- A set of characters. -/
  | set (s : CharSet)
  /-- A condition on a place. -/
  | look (l : Look)

/-- A set with the case variants of its members, where flags ask for them. -/
def Flags.close (f : Flags) (s : CharSet) : CharSet :=
  if f.ignoreCase then
    if f.unicode then .ignoreCase s else .ignoreAsciiCase s
  else s

/-- A set closed under case variants and then negated, in this order. Without the Unicode flag a
negated set would hold parts of characters. -/
def Flags.closeNegate (f : Flags) (negated : Bool) (s : CharSet) : Except Error CharSet :=
  if negated && !f.unicode then .error .partialCharacter
  else .ok ((f.close s).negatedIf negated)

/-- The character that was written, unless it is a byte that is no character by itself. -/
def Flags.literal (f : Flags) (c : Char) (isByte : Bool) : Except Error Char :=
  if isByte && !f.unicode && 128 ≤ c.toNat then .error .partialCharacter else .ok c

/-- Reads `count` hexadecimal digits. -/
def hexDigits (verbose : Bool) : Nat → Text → Option (List Nat × Text)
  | 0, t => some ([], t)
  | count + 1, t =>
    match t with
    | [] => none
    | c :: rest =>
      match Text.hexValue? c with
      | none => none
      | some digit =>
        (hexDigits verbose count (skipBlanks verbose rest)).map fun (digits, left) =>
          (digit :: digits, left)

/-- The character whose code point has the given hexadecimal digits. -/
def charOfDigits (digits : List Nat) : Except Error Char :=
  match Text.charOfCode? (Text.ofDigits 16 digits) with
  | some c => .ok c
  | none => .error .codePoint

/-- Reads the code point behind `\x`, `\u` or `\U`: in braces, or as a fixed number of digits. -/
def hexEscape (verbose : Bool) (width : Nat) (t : Text) : Except Error (Primitive × Text) :=
  match skipBlanks verbose t with
  | '\x7b' :: rest =>
    match collect verbose (fun c => (Text.hexValue? c).isSome) rest with
    | (c :: digits, '\x7d' :: left) => do
      let c ← charOfDigits ((c :: digits).filterMap Text.hexValue?)
      return (.char c false, skipBlanks verbose left)
    | _ => .error .codePoint
  | t =>
    match hexDigits verbose width t with
    | none => .error .codePoint
    | some (digits, left) => do
      let c ← charOfDigits digits
      return (.char c (width == 2), left)

/-- The set of a property that is given by one text, in which `!=`, `:` or `=` may separate the
name of a property from the name of its value. -/
def propertySet? (content : Text) : Option CharSet :=
  match splitAtNotEqual content with
  | some (property, value) => valuedProperty? property value
  | none =>
    match Text.splitFirst ':' content with
    | some (property, value) => valuedProperty? property value
    | none =>
      match Text.splitFirst '=' content with
      | some (property, value) => valuedProperty? property value
      | none => namedProperty? content
where
  /-- What stands around the first `!=`. -/
  splitAtNotEqual : Text → Option (Text × Text)
    | '!' :: '=' :: rest => some ([], rest)
    | c :: rest => (splitAtNotEqual rest).map fun (before, after) => (c :: before, after)
    | [] => none

/-- Reads the property behind `\p` or `\P`: one letter, or a text in braces. -/
def propertyEscape (f : Flags) (negated : Bool) (t : Text) : Except Error (Primitive × Text) := do
  let (content, left) ← match skipBlanks f.verbose t with
    | [] => .error .escape
    | '\x7b' :: rest =>
      match collect f.verbose (· != '\x7d') rest with
      | (content, _ :: left) => .ok (content, left)
      | (_, []) => .error .escape
    | c :: rest => if c = '\\' then .error .escape else .ok ([c], skipBlanks f.verbose rest)
  if !f.unicode then .error .unicodeNeeded
  else match propertySet? content with
    | none => .error .propertyUnknown
    | some s => return (.set ((f.close s).negatedIf negated), left)

/-- The set of digits, white space or word characters that a letter stands for; a capital letter
stands for the complement. -/
def perlSet (f : Flags) (letter : Char) : Except Error CharSet :=
  let set := match letter with
    | 'd' | 'D' => if f.unicode then digitChars else asciiDigits
    | 's' | 'S' => if f.unicode then spaceChars else asciiSpace
    | _ => if f.unicode then wordChars else asciiWord
  let negated := letter == 'D' || letter == 'S' || letter == 'W'
  if negated && !f.unicode then .error .partialCharacter else .ok (set.negatedIf negated)

/-- The kind of word bound that a name in braces asks for. -/
def wordBoundNamed? (name : String) : Option WordBound :=
  match name with
  | "start" => some .start
  | "end" => some .finish
  | "start-half" => some .startHalf
  | "end-half" => some .finishHalf
  | _ => none

/-- Reads what follows `\b`: braces with the name of a word bound in it, if they do not hold a
repetition count. -/
def wordBoundEscape (f : Flags) (t : Text) : Except Error (Primitive × Text) :=
  let isNameChar (c : Char) := Text.isLetter c || c == '-'
  match t with
  | '\x7b' :: rest =>
    match skipBlanks f.verbose rest with
    | [] => .error .wordBoundary
    | c :: rest =>
      if isNameChar c then
        match collect f.verbose isNameChar (c :: rest) with
        | (name, '\x7d' :: left) =>
          match wordBoundNamed? (String.ofList name) with
          | some bound => .ok (.look (.word f.unicode bound), left)
          | none => .error .wordBoundary
        | _ => .error .wordBoundary
      else .ok (.look (.word f.unicode .either), t)
  | _ => .ok (.look (.word f.unicode .either), t)

/-- Whether a character that has no meaning of its own may be escaped all the same: any of ASCII
but the letters, the digits and the angle brackets. -/
def isEscapable (c : Char) : Bool :=
  c.toNat < 128 && !Text.isLetter c && !Text.isDigit c && c != '<' && c != '>'

/-- Reads an escape sequence from what follows its backslash. -/
def primitive (f : Flags) (t : Text) : Except Error (Primitive × Text) :=
  match t with
  | [] => .error .escape
  | c :: rest =>
    match c with
    | 'x' => hexEscape f.verbose 2 rest
    | 'u' => hexEscape f.verbose 4 rest
    | 'U' => hexEscape f.verbose 8 rest
    | 'p' => propertyEscape f false rest
    | 'P' => propertyEscape f true rest
    | 'd' | 'D' | 's' | 'S' | 'w' | 'W' => (perlSet f c).map fun s => (.set s, rest)
    | 'a' => .ok (.char '\x07' false, rest)
    | 'f' => .ok (.char '\x0c' false, rest)
    | 't' => .ok (.char '\t' false, rest)
    | 'n' => .ok (.char '\n' false, rest)
    | 'r' => .ok (.char '\r' false, rest)
    | 'v' => .ok (.char '\x0b' false, rest)
    | 'A' => .ok (.look .textStart, rest)
    | 'z' => .ok (.look .textEnd, rest)
    | 'b' => wordBoundEscape f rest
    | 'B' => .ok (.look (.word f.unicode .neither), rest)
    | '<' => .ok (.look (.word f.unicode .start), rest)
    | '>' => .ok (.look (.word f.unicode .finish), rest)
    | c =>
      if Text.isDigit c then .error .backReference
      else if isMeta c || isEscapable c then .ok (.char c false, rest)
      else .error .escape

end PathRouting.Regex
