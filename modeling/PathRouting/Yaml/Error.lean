/-!
# Why a YAML text is refused

Each cause is one rule of the language, or one limit, that the text breaks.
-/

namespace PathRouting.Yaml

/-- A reason to refuse a YAML text. -/
inductive Error where
  /-- A character is not allowed anywhere. -/
  | character
  /-- No token starts with a character. -/
  | tokenStart
  /-- A tab stands where a line is indented. -/
  | tabInIndentation
  /-- A key that has to be one is not followed by a colon. -/
  | keyWithoutColon
  /-- An entry, a key or a value stands where none may start. -/
  | misplacedIndicator
  /-- A directive is malformed, unknown or repeated. -/
  | directive
  /-- The text asks for another version of the language. -/
  | version
  /-- The name of an anchor or an alias is malformed. -/
  | anchorName
  /-- A tag is malformed. -/
  | tag
  /-- A tag has a handle that has not been declared. -/
  | tagHandle
  /-- The header of a block scalar is malformed. -/
  | blockHeader
  /-- A quoted scalar is not closed. -/
  | quoteUnclosed
  /-- An escape is cut off or has no meaning. -/
  | escape
  /-- A colon in a flow collection leaves open what it belongs to. -/
  | colonInFlow
  /-- A node is missing. -/
  | nodeMissing
  /-- A collection goes on with something that is no entry of it. -/
  | collection
  /-- The text goes on behind its document. -/
  | furtherDocument
  /-- An alias names no anchor. -/
  | unknownAlias
  /-- A mapping has a key twice. -/
  | duplicateKey
  /-- A scalar is not of the kind that its tag tells. -/
  | scalarKind
  /-- A whole number is out of range. -/
  | numberRange
  /-- The document is nested too deeply. -/
  | nesting
  /-- Aliases are followed too often. -/
  | repetition
  /-- The document is no sequence. -/
  | notSequence
deriving DecidableEq, Repr

/-- A reason in words. -/
def Error.message : Error → String
  | character => "control characters are not allowed"
  | tokenStart => "found character that cannot start any token"
  | tabInIndentation => "found a tab character that violates indentation"
  | keyWithoutColon => "could not find expected ':'"
  | misplacedIndicator => "an entry, key or value is not allowed in this context"
  | directive => "found a malformed, unknown or repeated directive"
  | version => "found incompatible YAML document"
  | anchorName => "did not find expected alphabetic or numeric character"
  | tag => "found a malformed tag"
  | tagHandle => "found undefined tag handle"
  | blockHeader => "did not find expected comment or line break"
  | quoteUnclosed => "found unexpected end of a quoted scalar"
  | escape => "found unknown escape character"
  | colonInFlow => "found unexpected ':'"
  | nodeMissing => "did not find expected node content"
  | collection => "did not find expected entry of a collection"
  | furtherDocument => "found more than one document"
  | unknownAlias => "unknown anchor"
  | duplicateKey => "duplicate entry in a mapping"
  | scalarKind => "invalid value for a tag"
  | numberRange => "number is out of range"
  | nesting => "recursion limit exceeded"
  | repetition => "repetition limit exceeded"
  | notSequence => "invalid type, expected a sequence"

end PathRouting.Yaml
