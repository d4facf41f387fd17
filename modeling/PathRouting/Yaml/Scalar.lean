import PathRouting.Yaml.Cursor

/-!
# Scalars

A plain or a quoted scalar may go over several lines. White space in it is held back until it is
known what follows: line ends are folded, so a single one is a blank and of several ones the first
is dropped. A block scalar is made of the lines that are indented far enough.
-/

namespace PathRouting.Yaml

/-- White space that has been read within a scalar and not been written yet. -/
inductive Gap where
  /-- None. -/
  | none
  /-- Blanks within a line, last one first. -/
  | blanks (t : Text)
  /-- A line end and the ones that follow it, last one first. The first one is absent if it was
  escaped. -/
  | breaks (first : Option Char) (further : Text)

namespace Gap

/-- White space with one more blank. Blanks at the start of a line do not count. -/
def blank (c : Char) : Gap → Gap
  | none => blanks [c]
  | blanks t => blanks (c :: t)
  | breaks first further => breaks first further

/-- White space with one more line end. Blanks before it do not count. -/
def lineEnd (c : Char) : Gap → Gap
  | breaks first further => breaks first (c :: further)
  | _ => breaks (some c) []

/-- White space as it is written. -/
def text : Gap → Text
  | none => []
  | blanks t => t.reverse
  | breaks (some '\n') [] => [' ']
  | breaks (some '\n') further => further.reverse
  | breaks first further => first.toList ++ further.reverse

/-- Whether there is white space. -/
def isSome : Gap → Bool
  | none => false
  | _ => true

/-- Whether a line has ended. -/
def hasBreak : Gap → Bool
  | breaks .. => true
  | _ => false

end Gap

/-- A scalar that has been read, with the place behind it. -/
structure Scanned where
  /-- The value of the scalar. -/
  text : Text
  /-- The place behind the scalar. -/
  cursor : Cursor
  /-- Whether the scalar was followed by line ends, so that a key may follow. -/
  newLine : Bool := false

/-- Whether a character delimits entries and collections in a flow collection. -/
def isFlowIndicator (c : Char) : Bool :=
  c == ',' || c == '[' || c == ']' || c == '\x7b' || c == '\x7d'

/-- Whether a plain scalar ends before its next line, or before a comment. -/
def endsPlain (inFlow : Bool) (indent : Int) (cursor : Cursor) : Bool :=
  (!inFlow && (cursor.column : Int) < indent) || cursor.isDocumentMarker || cursor.isAt '#'

/-- Reads on in a plain scalar, whose text so far is given with its last character first. -/
def plainFrom (inFlow : Bool) (indent : Int) (text : Text) (gap : Gap) (cursor : Cursor) :
    Text → Except Error Scanned
  | [] => .ok ⟨text.reverse, cursor, gap.hasBreak⟩
  | c :: rest =>
    let next := cursor.past c rest
    if isBlank c then
      if gap.hasBreak ∧ (cursor.column : Int) < indent ∧ c = '\t' then .error .tabInIndentation
      else plainFrom inFlow indent text (gap.blank c) next rest
    else if isBreak c then plainFrom inFlow indent text (gap.lineEnd c) next rest
    else if gap.isSome ∧ endsPlain inFlow indent cursor then
      .ok ⟨text.reverse, cursor, gap.hasBreak⟩
    else if inFlow ∧ c = ':' ∧ rest.head?.any (fun d => isFlowIndicator d || d == '?') then
      .error .colonInFlow
    else if (c = ':' ∧ Cursor.isEnd rest) ∨ (inFlow ∧ isFlowIndicator c) then
      .ok ⟨text.reverse, cursor, gap.hasBreak⟩
    else plainFrom inFlow indent (c :: (gap.text.reverse ++ text)) .none next rest

/-- Reads a plain scalar. -/
def scanPlain (inFlow : Bool) (indent : Int) (cursor : Cursor) : Except Error Scanned :=
  plainFrom inFlow indent [] .none cursor cursor.rest

/-- What an escape stands for: a character, or a code point of so many digits. -/
inductive Escape where
  /-- A character. -/
  | char (c : Char)
  /-- A code point. -/
  | code (digits : Nat)

/-- The escape that a character starts. -/
def escape? (c : Char) : Option Escape :=
  match c with
  | '0' => some (.char '\x00')
  | 'a' => some (.char '\x07')
  | 'b' => some (.char '\x08')
  | 't' => some (.char '\t')
  | '\t' => some (.char '\t')
  | 'n' => some (.char '\n')
  | 'v' => some (.char '\x0b')
  | 'f' => some (.char '\x0c')
  | 'r' => some (.char '\r')
  | 'e' => some (.char '\x1b')
  | ' ' => some (.char ' ')
  | '"' => some (.char '"')
  | '/' => some (.char '/')
  | '\\' => some (.char '\\')
  | 'N' => some (.char '\u0085')
  | '_' => some (.char '\u00a0')
  | 'L' => some (.char '\u2028')
  | 'P' => some (.char '\u2029')
  | 'x' => some (.code 2)
  | 'u' => some (.code 4)
  | 'U' => some (.code 8)
  | _ => none

/-- Where the reading of a quoted scalar stands. -/
inductive QuotedMode where
  /-- Between characters. -/
  | content
  /-- Behind a backslash. -/
  | escaped
  /-- In a code point, with the number of digits to come and the value of those before. -/
  | code (digits value : Nat)

/-- Reads on in a quoted scalar, whose text so far is given with its last character first. Only
between double quotes a backslash starts an escape; between single quotes a quote is doubled. -/
def quotedFrom (quote : Char) (mode : QuotedMode) (text : Text) (gap : Gap) (cursor : Cursor) :
    Text → Except Error Scanned
  | [] => .error .quoteUnclosed
  | c :: rest =>
    let next := cursor.past c rest
    match mode with
    | .escaped =>
      if isBreak c then quotedFrom quote .content text (.breaks none []) next rest
      else match escape? c with
        | some (.char d) => quotedFrom quote .content (d :: text) .none next rest
        | some (.code digits) => quotedFrom quote (.code digits 0) text .none next rest
        | none => .error .escape
    | .code digits value =>
      match Text.hexValue? c with
      | none => .error .escape
      | some digit =>
        let value := value * 16 + digit
        if digits ≤ 1 then
          match Text.charOfCode? value with
          | some d => quotedFrom quote .content (d :: text) .none next rest
          | none => .error .escape
        else quotedFrom quote (.code (digits - 1) value) text .none next rest
    | .content =>
      if isBlank c then quotedFrom quote .content text (gap.blank c) next rest
      else if isBreak c then quotedFrom quote .content text (gap.lineEnd c) next rest
      else if cursor.isDocumentMarker then .error .quoteUnclosed
      else
        let text := gap.text.reverse ++ text
        if c = quote then
          match quote, rest with
          | '\'', '\'' :: more =>
            quotedFrom quote .content ('\'' :: text) .none (next.past '\'' more) more
          | _, _ => .ok ⟨text.reverse, next, false⟩
        else if c = '\\' ∧ quote = '"' then quotedFrom quote .escaped text .none next rest
        else quotedFrom quote .content (c :: text) .none next rest

/-- Reads a quoted scalar from its opening quote on. -/
def scanQuoted (quote : Char) (cursor : Cursor) : Except Error Scanned :=
  let cursor := cursor.next
  quotedFrom quote .content [] .none cursor cursor.rest

/-- What becomes of the line ends behind a block scalar. -/
inductive Chomping where
  /-- None of them counts. -/
  | strip
  /-- The first one counts. -/
  | clip
  /-- All of them count. -/
  | keep
deriving DecidableEq

/-- The header of a block scalar. -/
structure BlockHeader where
  /-- Whether line ends are kept instead of folded. -/
  isLiteral : Bool
  /-- What becomes of the line ends behind the scalar. -/
  chomping : Chomping := .clip
  /-- How far the lines are indented beyond their surroundings, or zero if the first line tells. -/
  increment : Nat := 0

/-- The chomping that a character asks for. -/
def chomping? (c : Char) : Option Chomping :=
  if c = '+' then some .keep else if c = '-' then some .strip else none

/-- Reads the sign of a header, if there is one. -/
def scanChomping (cursor : Cursor) : Chomping × Cursor :=
  match cursor.head?.bind chomping? with
  | some chomping => (chomping, cursor.next)
  | none => (.clip, cursor)

/-- Reads the digit of a header, if there is one; it cannot be zero. -/
def scanIncrement (cursor : Cursor) : Except Error (Nat × Cursor) :=
  match cursor.head?.filter Text.isDigit with
  | none => .ok (0, cursor)
  | some c =>
    if c = '0' then .error .blockHeader else .ok (c.toNat - '0'.toNat, cursor.next)

/-- Reads the header of a block scalar behind its indicator: a sign and a digit in any order, either
of which may be missing, and nothing else in the line. -/
def scanBlockHeader (isLiteral : Bool) (cursor : Cursor) : Except Error (BlockHeader × Cursor) := do
  let (chomping, increment, cursor) ←
    if cursor.head?.any Text.isDigit then do
      let (increment, cursor) ← scanIncrement cursor
      let (chomping, cursor) := scanChomping cursor
      pure (chomping, increment, cursor)
    else do
      let (chomping, cursor) := scanChomping cursor
      let (increment, cursor) ← scanIncrement cursor
      pure (chomping, increment, cursor)
  match cursor.endLine? with
  | some cursor => return (⟨isLiteral, chomping, increment⟩, cursor)
  | none => .error .blockHeader

/-- A block scalar that is being read. -/
structure Block where
  /-- The text so far, last character first. -/
  text : Text := []
  /-- The end of the line before, if there is one. -/
  lineBreak : Text := []
  /-- The ends of the empty lines behind it, last one first. -/
  emptyLines : Text := []
  /-- Whether the line before started with a blank. -/
  wasBlank : Bool := false

/-- Starts a line with a character. Line ends are folded between two lines that do not start with
a blank. -/
def Block.startLine (b : Block) (isLiteral : Bool) (c : Char) : Block :=
  let folds := !isLiteral && b.lineBreak == ['\n'] && !b.wasBlank && !isBlank c
  let between := if folds then (if b.emptyLines.isEmpty then [' '] else []) else b.lineBreak
  { text := c :: (b.emptyLines ++ between ++ b.text), wasBlank := isBlank c }

/-- The value of a block scalar. -/
def Block.finish (b : Block) (chomping : Chomping) : Text :=
  match chomping with
  | .strip => b.text.reverse
  | .clip => (b.lineBreak ++ b.text).reverse
  | .keep => (b.emptyLines ++ b.lineBreak ++ b.text).reverse

/-- Reads on in a block scalar, in the margin of a line or within its text. The indentation is zero
as long as it is not known; `deepest` is how far any line went so far. -/
def blockFrom (header : BlockHeader) (parentIndent : Int) (indent deepest : Nat) (inMargin : Bool)
    (b : Block) (cursor : Cursor) : Text → Except Error Scanned
  | [] => .ok ⟨b.finish header.chomping, cursor, true⟩
  | c :: rest =>
    let next := cursor.past c rest
    if inMargin then
      let isShort : Bool := indent == 0 || cursor.column < indent
      if isShort ∧ c = ' ' then
        blockFrom header parentIndent indent deepest true b next rest
      else
        let deepest := max deepest cursor.column
        if isShort ∧ c = '\t' then .error .tabInIndentation
        else if isBreak c then
          blockFrom header parentIndent indent deepest true
            { b with emptyLines := c :: b.emptyLines } next rest
        else
          let indent :=
            if indent = 0 then max (max deepest (parentIndent + 1).toNat) 1 else indent
          if cursor.column = indent then
            blockFrom header parentIndent indent deepest false
              (b.startLine header.isLiteral c) next rest
          else .ok ⟨b.finish header.chomping, cursor, true⟩
    else if isBreak c then
      blockFrom header parentIndent indent deepest true { b with lineBreak := [c] } next rest
    else
      blockFrom header parentIndent indent deepest false { b with text := c :: b.text } next rest

/-- Reads a block scalar from its indicator on, within lines that are indented so far. -/
def scanBlock (isLiteral : Bool) (parentIndent : Int) (cursor : Cursor) : Except Error Scanned := do
  let (header, cursor) ← scanBlockHeader isLiteral cursor.next
  let indent :=
    if header.increment = 0 then 0 else (max parentIndent 0).toNat + header.increment
  blockFrom header parentIndent indent 0 true {} cursor cursor.rest

end PathRouting.Yaml
