import PathRouting.Text.Basic

/-!
# Media types

A media type is a type and a subtype with parameters behind them. A subtype may end in a suffix that
tells the format on which it is built.
-/

namespace PathRouting

/-- A media type without its parameters, in small letters. -/
structure MediaType where
  /-- The type. -/
  type : Text
  /-- The subtype, without its suffix. -/
  subtype : Text
  /-- What follows the last plus sign of the subtype. -/
  suffix : Option Text
deriving DecidableEq

namespace MediaType

/-- Whether a character can be in a name or an unquoted value. -/
def isTokenChar (c : Char) : Bool :=
  Text.isLetter c || Text.isDigit c || "!#$%&'*+-.^_`|~".toList.contains c

/-- Whether a character can be in a quoted value. Nothing beyond ASCII can be in a media type. -/
def isQuotedChar (c : Char) : Bool :=
  0x20 ≤ c.toNat && c.toNat < 0x7F

/-- Where the reading of parameters stands. -/
inductive Mode where
  /-- At the start of a name, where blanks are skipped. -/
  | nameStart
  /-- Within a name. -/
  | name
  /-- At the start of a value. -/
  | valueStart
  /-- Within a value. -/
  | value
  /-- At the start of a quoted value, where a quote is part of it. -/
  | quotedStart
  /-- Within a quoted value. -/
  | quoted
  /-- Behind a quoted value. -/
  | afterQuoted

/-- Where the reading stands after one more character, if it may stand there. -/
def Mode.step? (m : Mode) (c : Char) : Option Mode :=
  match m with
  | nameStart => if c = ' ' then some nameStart else if isTokenChar c then some name else none
  | name => if isTokenChar c then some name else if c = '=' then some valueStart else none
  | valueStart =>
    if c = '"' then some quotedStart else if isTokenChar c then some value else none
  | value => if isTokenChar c then some value else if c = ';' then some nameStart else none
  | quotedStart => if isQuotedChar c then some quoted else none
  | quoted =>
    if c = '"' then some afterQuoted else if isQuotedChar c then some quoted else none
  | afterQuoted =>
    if c = ';' then some nameStart else if c = ' ' then some afterQuoted else none

/-- Whether parameters may end here. -/
def Mode.isComplete : Mode → Bool
  | nameStart => true
  | valueStart => true
  | value => true
  | afterQuoted => true
  | _ => false

/-- Whether a text is a row of parameters. -/
def areParameters (t : Text) : Bool :=
  (t.foldlM Mode.step? Mode.nameStart).any (·.isComplete)

/-- A subtype with its suffix split off. A plus sign at the very start splits nothing. -/
def splitSuffix : Text → Text × Option Text
  | [] => ([], none)
  | c :: rest =>
    match Text.splitLast '+' rest with
    | some (front, suffix) => (c :: front, some suffix)
    | none => (c :: rest, none)

/-- Reads a media type. -/
def parse? (t : Text) : Option MediaType := do
  let (type, rest) ← Text.splitFirst '/' t
  let (whole, parameters) :=
    match Text.splitFirst ';' rest with
    | some (whole, parameters) => (whole, some parameters)
    | none => (rest, none)
  let hasSubtype := parameters.isNone || !whole.isEmpty
  if !type.isEmpty && type.all isTokenChar && hasSubtype && whole.all isTokenChar
      && parameters.all areParameters then
    let (subtype, suffix) := splitSuffix (whole.map Char.toLower)
    some ⟨type.map Char.toLower, subtype, suffix⟩
  else none

/-- Whether a text of a media type is JSON. -/
def isJson (m : MediaType) : Bool :=
  let json := "json".toList
  m.type == "application".toList && (m.subtype == json || m.suffix == some json)

end MediaType

end PathRouting
