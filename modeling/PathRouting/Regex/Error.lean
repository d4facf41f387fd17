/-!
# Why an expression is refused

Each cause is one rule of the expression language that the text breaks.
-/

namespace PathRouting.Regex

/-- A reason to refuse the text of an expression. -/
inductive Error where
  /-- A group is not closed. -/
  | groupUnclosed
  /-- A closing parenthesis has no group to close. -/
  | groupUnopened
  /-- The name of a group is missing, cut off or malformed. -/
  | groupName
  /-- Two groups have the same name. -/
  | groupNameRepeated
  /-- The flags of a group are malformed. -/
  | flags
  /-- The expression looks around the place where it matches. -/
  | lookAround
  /-- A repetition has nothing to repeat. -/
  | repetitionMissing
  /-- The counts of a repetition are malformed, out of order or too large. -/
  | repetitionCount
  /-- An escape is cut off or has no meaning. -/
  | escape
  /-- An escape refers back to a group. -/
  | backReference
  /-- A hexadecimal escape is malformed or names no character. -/
  | codePoint
  /-- The name of a word boundary is malformed or unknown. -/
  | wordBoundary
  /-- A bracketed class is not closed. -/
  | classUnclosed
  /-- A range of a bracketed class is out of order or has an end that is no character. -/
  | classRange
  /-- An escape has no meaning inside a bracketed class. -/
  | classEscape
  /-- A character property, or a value of it, is unknown. -/
  | propertyUnknown
  /-- A construct needs the Unicode flag. -/
  | unicodeNeeded
  /-- The expression could match part of a character. -/
  | partialCharacter
  /-- The expression is nested too deeply. -/
  | nesting
  /-- The expression is too large once its repetitions are written out. -/
  | size
deriving DecidableEq, Repr

/-- The rule that is broken, in words. -/
def Error.cause : Error → String
  | groupUnclosed => "unclosed group"
  | groupUnopened => "unopened group"
  | groupName => "invalid capture group name"
  | groupNameRepeated => "duplicate capture group name"
  | flags => "invalid flags"
  | lookAround => "look-around is not supported"
  | repetitionMissing => "repetition operator missing expression"
  | repetitionCount => "invalid repetition count"
  | escape => "unrecognized escape sequence"
  | backReference => "backreferences are not supported"
  | codePoint => "invalid hexadecimal escape"
  | wordBoundary => "unrecognized word boundary"
  | classUnclosed => "unclosed character class"
  | classRange => "invalid character class range"
  | classEscape => "invalid escape sequence in a character class"
  | propertyUnknown => "unknown character property"
  | unicodeNeeded => "Unicode is not allowed here"
  | partialCharacter => "pattern can match part of a character"
  | nesting => "expression is nested too deeply"
  | size => "Compiled regex exceeds size limit of 10485760 bytes."

/-- A reason in words. Faults in the text itself are introduced as such. -/
def Error.message (e : Error) : String :=
  match e with
  | size => e.cause
  | _ =>
    let cause := e.cause
    s!"regex parse error: {cause}"

end PathRouting.Regex
