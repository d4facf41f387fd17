import PathRouting.Text.Basic

/-!
# Request targets

The target of a request is a path with an optional query string, a whole address, an authority
alone, or an asterisk. Characters beyond ASCII are let through as they are; a fragment is dropped.
-/

namespace PathRouting

/-- What a request asks for. -/
structure Uri where
  /-- The path, still encoded. -/
  path : Text
  /-- The query string, still encoded. -/
  query : Option Text := none
deriving DecidableEq

namespace Uri

/-- The bound on the length of a target, in bytes. -/
def lengthLimit : Nat := 65534

/-- Whether a character can be in a path. Quotes and braces should be encoded there and are let
through all the same. -/
def isPathChar (c : Char) : Bool :=
  let n := c.toNat
  n == 0x21 || n == 0x22 || (0x24 ≤ n && n ≤ 0x3B) || n == 0x3D || (0x40 ≤ n && n ≤ 0x5F)
    || (0x61 ≤ n && n ≤ 0x7F) || 0x80 ≤ n

/-- Whether a character can be in a query string. -/
def isQueryChar (c : Char) : Bool :=
  let n := c.toNat
  n == 0x21 || (0x24 ≤ n && n ≤ 0x3B) || n == 0x3D || 0x3F ≤ n

/-- Whether a character can be in an authority, encoded ones apart. -/
def isAuthorityChar (c : Char) : Bool :=
  Text.isLetter c || Text.isDigit c || "!$&'()*+,-.:;=@[]_~".toList.contains c

/-- A path with an optional query string, from a text that may end in a fragment. -/
def ofPath? (t : Text) : Option Uri :=
  let t := t.takeWhile (· != '#')
  match Text.splitFirst '?' t with
  | none => if t.all isPathChar then some ⟨t, none⟩ else none
  | some (path, query) =>
    if path.all isPathChar ∧ query.all isQueryChar then some ⟨path, some query⟩ else none

/-- What has been seen of an authority. -/
structure Authority where
  /-- The number of colons that are not part of user information or of a bracketed host. -/
  colons : Nat := 0
  /-- Whether a bracket has been opened. -/
  opened : Bool := false
  /-- Whether a bracket has been closed. -/
  closed : Bool := false
  /-- Whether a percent sign came up since user information or a bracketed host ended. -/
  percent : Bool := false
  /-- Whether the last character ended user information. -/
  atSign : Bool := false

/-- Takes one more character of an authority into account, if it may stand there. -/
def Authority.step? (a : Authority) (c : Char) : Option Authority :=
  let a := { a with atSign := c == '@' }
  if c = '%' then some { a with percent := true }
  else if !isAuthorityChar c then none
  else if c = ':' then if 8 ≤ a.colons then none else some { a with colons := a.colons + 1 }
  else if c = '[' then if a.percent ∨ a.opened then none else some { a with opened := true }
  else if c = ']' then
    if !a.opened ∨ a.closed then none
    else some { a with closed := true, colons := 0, percent := false }
  else if c = '@' then some { a with colons := 0, percent := false }
  else some a

/-- Whether an authority may end here. -/
def Authority.isComplete (a : Authority) : Bool :=
  a.opened == a.closed && a.colons ≤ 1 && !a.atSign && !a.percent

/-- Splits a text into an authority, which may be empty, and the rest. -/
def splitAuthority? (t : Text) : Option (Text × Text) := do
  let authority := t.takeWhile fun c => c != '/' && c != '?' && c != '#'
  let state ← authority.foldlM Authority.step? {}
  if state.isComplete then some (authority, t.drop authority.length) else none

/-- Whether a character can be in a scheme. -/
def isSchemeChar (c : Char) : Bool :=
  Text.isLetter c || Text.isDigit c || c == '+' || c == '-' || c == '.'

/-- The length of the longest scheme. -/
def schemeLimit : Nat := 64

/-- What follows the scheme of a text. Without a scheme nothing does; a scheme that is too long has
no place in a target at all. -/
def afterScheme? (t : Text) : Option (Option Text) :=
  let scheme := t.takeWhile isSchemeChar
  match t.drop scheme.length with
  | ':' :: '/' :: '/' :: rest => if schemeLimit < scheme.length then none else some (some rest)
  | _ => some none

/-- A whole address, or an authority alone. -/
def ofAddress? (t : Text) : Option Uri := do
  match ← afterScheme? t with
  | none =>
    let (_, rest) ← splitAuthority? t
    if rest.isEmpty then some ⟨[], none⟩ else none
  | some address =>
    let (authority, rest) ← splitAuthority? address
    if authority.isEmpty then none
    let uri ← ofPath? rest
    if uri.path.isEmpty then return { uri with path := ['/'] } else return uri

/-- Reads the target of a request. -/
def parse? (t : Text) : Option Uri :=
  if t.isEmpty ∨ lengthLimit < Text.utf8Length t then none
  else if t = ['*'] then some ⟨t, none⟩
  else if t.head? = some '/' then ofPath? t
  else ofAddress? t

end Uri

end PathRouting
