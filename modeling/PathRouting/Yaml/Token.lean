import PathRouting.Yaml.Scalar
import PathRouting.Yaml.Tag

/-!
# Tokens

The tokens of a stream show its structure without indentation: block collections are opened and
closed by tokens of their own. What turns out to be a key of a mapping is known only at the colon
behind it, so a place where a key may have started is remembered until then.
-/

namespace PathRouting.Yaml

/-- A token. -/
inductive Token where
  /-- A directive that tells the version of the language. -/
  | version (major minor : Nat)
  /-- A directive that declares a handle. -/
  | handle (name : Text) (start : List UInt8)
  /-- The mark before a document. -/
  | documentStart
  /-- The mark behind a document. -/
  | documentEnd
  /-- The start of a sequence whose entries are marked by dashes. -/
  | blockSequenceStart
  /-- The start of a mapping whose keys are indented alike. -/
  | blockMappingStart
  /-- The end of a block collection. -/
  | blockEnd
  /-- An opening bracket. -/
  | flowSequenceStart
  /-- A closing bracket. -/
  | flowSequenceEnd
  /-- An opening brace. -/
  | flowMappingStart
  /-- A closing brace. -/
  | flowMappingEnd
  /-- A dash before an entry. -/
  | blockEntry
  /-- A comma between entries. -/
  | flowEntry
  /-- The start of a key. -/
  | key
  /-- The start of a value. -/
  | value
  /-- A reference to an anchor. -/
  | aliasOf (name : Text)
  /-- The name of the node that follows. -/
  | anchor (name : Text)
  /-- The tag of the node that follows. -/
  | tag (t : WrittenTag)
  /-- A scalar. -/
  | scalar (text : Text) (isPlain : Bool)
deriving DecidableEq

/-- A place where a key may have started. -/
structure KeyStart where
  /-- Whether there has to be a key. -/
  isRequired : Bool
  /-- The number of tokens before. -/
  token : Nat
  /-- The place in the stream. -/
  cursor : Cursor

/-- A stream of which some tokens have been read. -/
structure Scanner where
  /-- The place that has been reached. -/
  cursor : Cursor
  /-- The tokens before it. -/
  tokens : Array Token := #[]
  /-- The column of the innermost block collection. -/
  indent : Int := -1
  /-- The columns of the block collections around it, innermost first. -/
  indents : List Int := []
  /-- Whether a key may start at the next token. -/
  keyAllowed : Bool := true
  /-- The place where a key may have started outside flow collections. -/
  blockKey : Option KeyStart := none
  /-- The same for each flow collection that is open, innermost first. -/
  flowKeys : List (Option KeyStart) := []

namespace Scanner

/-- Whether a flow collection is open. -/
def inFlow (s : Scanner) : Bool :=
  !s.flowKeys.isEmpty

/-- The place where a key of the innermost collection may have started. -/
def keyStart? (s : Scanner) : Option KeyStart :=
  s.flowKeys.head?.getD s.blockKey

/-- Replaces the place where a key of the innermost collection may have started. -/
def setKeyStart (s : Scanner) (start : Option KeyStart) : Scanner :=
  match s.flowKeys with
  | [] => { s with blockKey := start }
  | _ :: outer => { s with flowKeys := start :: outer }

/-- Appends a token. -/
def push (s : Scanner) (t : Token) : Scanner :=
  { s with tokens := s.tokens.push t }

/-- Moves on by a number of characters. -/
def skip (s : Scanner) (count : Nat) : Scanner :=
  { s with cursor := s.cursor.skip count }

/-- Inserts a token behind so many others. -/
def insertAt (s : Scanner) (place : Nat) (t : Token) : Scanner :=
  { s with tokens := s.tokens.extract 0 place ++ #[t] ++ s.tokens.extract place s.tokens.size }

/-- Gives up on a key of the innermost collection; it must not be one that is required. -/
def dropKeyStart (s : Scanner) : Except Error Scanner :=
  if s.keyStart?.any (·.isRequired) then .error .keyWithoutColon else .ok (s.setKeyStart none)

/-- Remembers that a key may start here. It has to be one if it stands at the indentation of a block
collection. -/
def saveKeyStart (s : Scanner) : Except Error Scanner := do
  if !s.keyAllowed then return s
  let isRequired := !s.inFlow && s.indent == (s.cursor.column : Int)
  let s ← s.dropKeyStart
  return s.setKeyStart (some ⟨isRequired, s.tokens.size, s.cursor⟩)

/-- Whether a key can no longer have started at a place: a key ends in its line, and within 1024
characters. -/
def isStale (s : Scanner) (k : KeyStart) : Bool :=
  k.cursor.line < s.cursor.line || k.cursor.index + 1024 < s.cursor.index

/-- Gives up on keys that would be too long. -/
def dropStaleKeys (s : Scanner) : Except Error Scanner :=
  let stale := (s.blockKey :: s.flowKeys).any fun k? => k?.any fun k => k.isRequired && s.isStale k
  if stale then .error .keyWithoutColon
  else .ok { s with
    blockKey := s.blockKey.filter (!s.isStale ·)
    flowKeys := s.flowKeys.map (·.filter (!s.isStale ·)) }

/-- Opens a block collection at a column, unless it is open already; the token for it goes behind so
many others. -/
def openBlock (s : Scanner) (column : Nat) (place : Nat) (t : Token) : Scanner :=
  if s.inFlow ∨ (column : Int) ≤ s.indent then s
  else { s.insertAt place t with indent := column, indents := s.indent :: s.indents }

/-- The outer columns from one on that is not deeper than a column, with the number of those that
are. -/
def closedBlocks (column : Int) (indent : Int) : List Int → Int × List Int × Nat
  | [] => (indent, [], 0)
  | outer :: rest =>
    if column < indent then
      let (indent, indents, count) := closedBlocks column outer rest
      (indent, indents, count + 1)
    else (indent, outer :: rest, 0)

/-- Closes the block collections that are indented deeper than a column. -/
def closeBlocks (s : Scanner) (column : Int) : Scanner :=
  if s.inFlow then s
  else
    let (indent, indents, count) := closedBlocks column s.indent s.indents
    { s with indent, indents, tokens := s.tokens ++ Array.replicate count .blockEnd }

/-- The place of the next token, with whether a line has ended before it. Tabs count as white space
where no key may start. -/
def nextToken (inFlow keyAllowed : Bool) (cursor : Cursor) : Nat → Cursor × Bool
  | 0 => (cursor, keyAllowed)
  | fuel + 1 =>
    let cursor :=
      if cursor.column = 0 ∧ cursor.isAt byteOrderMark then cursor.next else cursor
    let cursor := cursor.skipWhile fun c => c == ' ' || ((inFlow || !keyAllowed) && c == '\t')
    let cursor := cursor.skipComment
    if cursor.head?.any isBreak then nextToken inFlow (keyAllowed || !inFlow) cursor.next fuel
    else (cursor, keyAllowed)

/-- Moves on to the next token. -/
def skipSpace (s : Scanner) : Scanner :=
  let (cursor, keyAllowed) := nextToken s.inFlow s.keyAllowed s.cursor (s.cursor.rest.length + 1)
  { s with cursor, keyAllowed }

/-- Closes all block collections, before what stands between documents. -/
def closeDocument (s : Scanner) : Except Error Scanner := do
  let s ← (s.closeBlocks (-1)).dropKeyStart
  return { s with keyAllowed := false }

/-- Reads the number of a version. -/
def scanVersionNumber (cursor : Cursor) : Except Error (Nat × Cursor) :=
  let (digits, cursor) := cursor.span Text.isDigit
  if digits.isEmpty ∨ 9 < digits.length then .error .directive
  else .ok (Text.ofDigits 10 (digits.map fun c => c.toNat - '0'.toNat), cursor)

/-- Reads what follows the name of a version directive. -/
def scanVersion (cursor : Cursor) : Except Error (Token × Cursor) := do
  let (major, cursor) ← scanVersionNumber (cursor.skipWhile isBlank)
  if !cursor.isAt '.' then .error .directive
  let (minor, cursor) ← scanVersionNumber cursor.next
  return (.version major minor, cursor)

/-- Reads what follows the name of a directive that declares a handle. -/
def scanHandleDirective (cursor : Cursor) : Except Error (Token × Cursor) := do
  let (name, cursor) ← scanHandle (cursor.skipWhile isBlank)
  if 2 ≤ name.length ∧ name.getLast? ≠ some '!' then .error .directive
  if !cursor.head?.any isBlank then .error .directive
  let (start, cursor) ← scanTagBytes true (cursor.skipWhile isBlank)
  if start.isEmpty ∨ !Cursor.isEnd cursor.rest then .error .directive
  return (.handle name start, cursor)

/-- Reads a directive, which takes a line of its own. -/
def scanDirective (cursor : Cursor) : Except Error (Token × Cursor) := do
  let (name, cursor) := cursor.next.span isNameChar
  if !Cursor.isEnd cursor.rest then .error .directive
  let (token, cursor) ←
    if name = "YAML".toList then scanVersion cursor
    else if name = "TAG".toList then scanHandleDirective cursor
    else .error Error.directive
  match cursor.endLine? with
  | some cursor => return (token, cursor)
  | none => .error .directive

/-- Reads the name of an anchor or of an alias. -/
def scanAnchor (cursor : Cursor) : Except Error (Text × Cursor) :=
  let (name, cursor) := cursor.next.span isNameChar
  let ends := Cursor.isEnd cursor.rest || cursor.head?.any ("?:,]\x7d%@`".toList.contains ·)
  if name.isEmpty ∨ !ends then .error .anchorName else .ok (name, cursor)

/-- Reads a directive. -/
def directive (s : Scanner) : Except Error Scanner := do
  let s ← s.closeDocument
  let (token, cursor) ← scanDirective s.cursor
  return { s with cursor }.push token

/-- Reads the mark before or behind a document. -/
def documentMarker (s : Scanner) (t : Token) : Except Error Scanner := do
  let s ← s.closeDocument
  return (s.push t).skip 3

/-- Opens a flow collection, which may be a key itself. -/
def openFlow (s : Scanner) (t : Token) : Except Error Scanner := do
  let s ← s.saveKeyStart
  return { s with flowKeys := none :: s.flowKeys, keyAllowed := true }.push t |>.skip 1

/-- Closes a flow collection. -/
def closeFlow (s : Scanner) (t : Token) : Except Error Scanner := do
  let s ← s.dropKeyStart
  return { s with flowKeys := s.flowKeys.tail, keyAllowed := false }.push t |>.skip 1

/-- Reads a comma. -/
def flowEntry (s : Scanner) : Except Error Scanner := do
  let s ← s.dropKeyStart
  return { s with keyAllowed := true }.push .flowEntry |>.skip 1

/-- Reads a dash. -/
def blockEntry (s : Scanner) : Except Error Scanner := do
  if !s.inFlow ∧ !s.keyAllowed then .error .misplacedIndicator
  let s ← (s.openBlock s.cursor.column s.tokens.size .blockSequenceStart).dropKeyStart
  return { s with keyAllowed := true }.push .blockEntry |>.skip 1

/-- Reads a question mark. -/
def key (s : Scanner) : Except Error Scanner := do
  if !s.inFlow ∧ !s.keyAllowed then .error .misplacedIndicator
  let s ← (s.openBlock s.cursor.column s.tokens.size .blockMappingStart).dropKeyStart
  return { s with keyAllowed := !s.inFlow }.push .key |>.skip 1

/-- Reads a colon. If a key may have started before, it did. -/
def value (s : Scanner) : Except Error Scanner := do
  match s.keyStart? with
  | some k =>
    let s := s.insertAt k.token .key
    let s := s.openBlock k.cursor.column k.token .blockMappingStart
    return { s.setKeyStart none with keyAllowed := false }.push .value |>.skip 1
  | none =>
    if !s.inFlow ∧ !s.keyAllowed then .error .misplacedIndicator
    let s := s.openBlock s.cursor.column s.tokens.size .blockMappingStart
    return { s with keyAllowed := !s.inFlow }.push .value |>.skip 1

/-- Reads the name of an anchor or of an alias. -/
def anchor (s : Scanner) (token : Text → Token) : Except Error Scanner := do
  let s ← s.saveKeyStart
  let (name, cursor) ← scanAnchor s.cursor
  return { s with cursor, keyAllowed := false }.push (token name)

/-- Reads a tag. -/
def tag (s : Scanner) : Except Error Scanner := do
  let s ← s.saveKeyStart
  let (t, cursor) ← scanTag s.inFlow s.cursor
  return { s with cursor, keyAllowed := false }.push (.tag t)

/-- Reads a block scalar. -/
def blockScalar (s : Scanner) (isLiteral : Bool) : Except Error Scanner := do
  let s ← s.dropKeyStart
  let scanned ← scanBlock isLiteral s.indent s.cursor
  return { s with cursor := scanned.cursor, keyAllowed := true }.push (.scalar scanned.text false)

/-- Reads a quoted scalar. -/
def quotedScalar (s : Scanner) (quote : Char) : Except Error Scanner := do
  let s ← s.saveKeyStart
  let scanned ← scanQuoted quote s.cursor
  return { s with cursor := scanned.cursor, keyAllowed := false }.push (.scalar scanned.text false)

/-- Reads a plain scalar. -/
def plainScalar (s : Scanner) : Except Error Scanner := do
  let s ← s.saveKeyStart
  let scanned ← scanPlain s.inFlow (s.indent + 1) s.cursor
  return { s with cursor := scanned.cursor, keyAllowed := scanned.newLine }.push
    (.scalar scanned.text true)

/-- Whether a character starts a plain scalar wherever it stands. -/
def startsPlain (c : Char) : Bool :=
  !isSpace c && !"-?:,[]\x7b\x7d#&*!|>'\"%@`".toList.contains c

/-- Reads the token that starts with a character, which another text follows. -/
def tokenAt (s : Scanner) (c : Char) (rest : Text) : Except Error Scanner :=
  let isAlone := Cursor.isEnd rest
  if s.cursor.column = 0 ∧ c = '%' then s.directive
  else if s.cursor.isMarker '-' then s.documentMarker .documentStart
  else if s.cursor.isMarker '.' then s.documentMarker .documentEnd
  else if c = '[' then s.openFlow .flowSequenceStart
  else if c = '\x7b' then s.openFlow .flowMappingStart
  else if c = ']' then s.closeFlow .flowSequenceEnd
  else if c = '\x7d' then s.closeFlow .flowMappingEnd
  else if c = ',' then s.flowEntry
  else if c = '-' ∧ isAlone then s.blockEntry
  else if c = '?' ∧ (s.inFlow ∨ isAlone) then s.key
  else if c = ':' ∧ (s.inFlow ∨ isAlone) then s.value
  else if c = '*' then s.anchor .aliasOf
  else if c = '&' then s.anchor .anchor
  else if c = '!' then s.tag
  else if c = '|' ∧ !s.inFlow then s.blockScalar true
  else if c = '>' ∧ !s.inFlow then s.blockScalar false
  else if c = '\'' ∨ c = '"' then s.quotedScalar c
  else if startsPlain c ∨ c = '-' ∨ (!s.inFlow ∧ (c = '?' ∨ c = ':')) then s.plainScalar
  else .error .tokenStart

/-- Ends the stream. -/
def finish (s : Scanner) : Except Error (List Token) := do
  return (← s.closeDocument).tokens.toList

/-- Reads tokens up to the end of the stream. -/
def run (s : Scanner) : Nat → Except Error (List Token)
  | 0 => s.finish
  | fuel + 1 => do
    let s ← s.skipSpace.dropStaleKeys
    let s := s.closeBlocks s.cursor.column
    match s.cursor.rest with
    | [] => s.finish
    | c :: rest => (← s.tokenAt c rest).run fuel

end Scanner

/-- The tokens of a text. Each token but the ones for block collections takes at least one
character. -/
def Token.scan (t : Text) : Except Error (List Token) := do
  let stream ← prepare t
  Scanner.run { cursor := { rest := stream } } (stream.length + 1)

end PathRouting.Yaml
