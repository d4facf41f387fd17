import PathRouting.Yaml.Token

/-!
# Nodes

A document is a tree of nodes. Anchors are numbered, and an alias refers to a number; the document
knows for each number the node that it stands for.
-/

namespace PathRouting.Yaml

/-- A node of a document. -/
inductive Node where
  /-- A scalar; a plain one is resolved by its text. -/
  | scalar (tag : Tag) (text : Text) (isPlain : Bool)
  /-- A sequence of nodes. -/
  | sequence (tag : Tag) (items : List Node)
  /-- A mapping, as its keys with their values in order. -/
  | mapping (tag : Tag) (entries : List (Node × Node))
  /-- The node that an anchor stands for. -/
  | aliasOf (anchor : Nat)

namespace Node

/-- The node that stands where none is written. -/
def missing : Node :=
  .scalar .absent [] true

/-- A node under a tag. -/
def withTag (tag : Tag) : Node → Node
  | scalar _ text isPlain => scalar tag text isPlain
  | sequence _ items => sequence tag items
  | mapping _ entries => mapping tag entries
  | aliasOf anchor => aliasOf anchor

end Node

/-- Tokens that are being read as a document. The parts of a document are counted as they come up:
one for a scalar or an alias, one for each end of a collection. -/
structure Reader where
  /-- The tokens that are still to come. -/
  tokens : List Token
  /-- The handles that have been declared. -/
  handles : Handles := Handles.known
  /-- The number of parts that have come up. -/
  parts : Nat := 0
  /-- The names of anchors with their numbers. -/
  names : List (Text × Nat) := []
  /-- For each number of an anchor the part where its node starts, the latest first. -/
  starts : List (Nat × Nat) := []
  /-- The nodes that have anchors, by the parts where they start. -/
  nodes : List (Nat × Node) := []

/-- A step of reading a document. -/
abbrev Read := StateT Reader (Except Error)

namespace Read

/-- The next token. -/
def peek : Read (Option Token) := do
  return (← get).tokens.head?

/-- Moves on by one token. -/
def advance : Read Unit :=
  modify fun r => { r with tokens := r.tokens.tail }

/-- Counts parts. -/
def count (parts : Nat) : Read Unit :=
  modify fun r => { r with parts := r.parts + parts }

/-- The node that stands where none is written, as a part of its own. -/
def missing : Read Node := do
  count 1
  return .missing

/-- Gives the number of a new anchor, which is the number of different names so far. A name that is
used again takes that number too, without adding a name. -/
def declare (name : Text) : Read Unit :=
  modify fun r =>
    let number := r.names.length
    { r with
      names := (name, number) :: r.names.filter (·.1 != name)
      starts := (number, r.parts) :: r.starts }

/-- Keeps a node that has an anchor. -/
def keep (start : Nat) (n : Node) : Read Unit :=
  modify fun r => { r with nodes := (start, n) :: r.nodes }

/-- Reads an anchor, if there is one. -/
def anchor? : Read (Option Text) := do
  match ← peek with
  | some (.anchor name) => advance; return some name
  | _ => return none

/-- Reads a tag, if there is one. -/
def tag? : Read (Option WrittenTag) := do
  match ← peek with
  | some (.tag t) => advance; return some t
  | _ => return none

/-- Reads an anchor and a tag, which come in any order. -/
def properties : Read (Option Text × Option WrittenTag) := do
  match ← anchor? with
  | some name => return (some name, ← tag?)
  | none =>
    let tag ← tag?
    if tag.isSome then return (← anchor?, tag) else return (none, none)

/-- Whether a token is one of the kinds that end the entries of a block mapping. -/
def endsBlockEntry : Option Token → Bool
  | some .key => true
  | some .value => true
  | some .blockEnd => true
  | _ => false

/-- Whether a token ends an entry of a flow collection with a given closing token. -/
def endsFlowEntry (close : Token) (t : Option Token) : Bool :=
  t == some .flowEntry || t == some close

/-- Moves behind a comma, which has to stand before every entry but the first one, and gives the
next token. -/
def separate (isFirst : Bool) : Read (Option Token) := do
  if isFirst then peek
  else match ← peek with
    | some .flowEntry => advance; peek
    | _ => throw .collection

mutual

/-- Reads a node. Block collections start only where they may; entries that are marked by dashes but
not indented make up a sequence only as a key or a value of a block mapping. -/
def node : Nat → (inBlock inMapping : Bool) → Read Node
  | 0, _, _ => throw .nesting
  | fuel + 1, inBlock, inMapping => do
    if let some (.aliasOf name) ← peek then
      advance
      match (← get).names.lookup name with
      | some number => count 1; return .aliasOf number
      | none => throw .unknownAlias
    let (anchor, written) ← properties
    let tag ← match written with
      | some t => liftM (t.resolve (← get).handles)
      | none => pure Tag.absent
    let next ← peek
    let start := (← get).parts
    let isMissing := anchor.isSome || written.isSome
    let isCollection := match next with
      | some .blockEntry => inMapping
      | some .flowSequenceStart => true
      | some .flowMappingStart => true
      | some .blockSequenceStart => inBlock
      | some .blockMappingStart => inBlock
      | _ => false
    let isScalar := match next with
      | some (.scalar ..) => true
      | _ => false
    if !isCollection && !isScalar && !isMissing then throw .nodeMissing
    if let some name := anchor then declare name
    count 1
    let n ←
      match next with
      | some (.scalar text isPlain) => advance; pure (Node.scalar tag text isPlain)
      | some t =>
        if isCollection then do
          let n ← collection fuel t
          count 1
          pure (n.withTag tag)
        else pure (Node.scalar tag [] true)
      | none => pure (Node.scalar tag [] true)
    if anchor.isSome then keep start n
    return n

/-- Reads the collection that a token starts. -/
def collection : Nat → Token → Read Node
  | 0, _ => throw .nesting
  | fuel + 1, t => do
    match t with
    | .blockEntry => return .sequence .absent (← looseEntries fuel)
    | .flowSequenceStart => advance; return .sequence .absent (← flowEntries fuel true)
    | .flowMappingStart => advance; return .mapping .absent (← flowPairs fuel true)
    | .blockSequenceStart => advance; return .sequence .absent (← blockEntries fuel)
    | _ => advance; return .mapping .absent (← blockPairs fuel)

/-- Reads the entries of a sequence that is indented. -/
def blockEntries : Nat → Read (List Node)
  | 0 => throw .nesting
  | fuel + 1 => do
    match ← peek with
    | some .blockEntry =>
      advance
      let next ← peek
      let item ← if next == some .blockEntry || next == some .blockEnd then missing
        else node fuel true false
      return item :: (← blockEntries fuel)
    | some .blockEnd => advance; return []
    | _ => throw .collection

/-- Reads the entries of a sequence that is not indented. -/
def looseEntries : Nat → Read (List Node)
  | 0 => throw .nesting
  | fuel + 1 => do
    match ← peek with
    | some .blockEntry =>
      advance
      let next ← peek
      let item ← if next == some .blockEntry || endsBlockEntry next then missing
        else node fuel true false
      return item :: (← looseEntries fuel)
    | _ => return []

/-- Reads the pairs of a block mapping. -/
def blockPairs : Nat → Read (List (Node × Node))
  | 0 => throw .nesting
  | fuel + 1 => do
    match ← peek with
    | some .key =>
      advance
      let key ← if endsBlockEntry (← peek) then missing else node fuel true true
      let value ←
        if (← peek) == some .value then do
          advance
          if endsBlockEntry (← peek) then missing else node fuel true true
        else missing
      return (key, value) :: (← blockPairs fuel)
    | some .blockEnd => advance; return []
    | _ => throw .collection

/-- Reads the entries of a sequence in brackets; an entry can be a mapping of one pair. -/
def flowEntries : Nat → (isFirst : Bool) → Read (List Node)
  | 0, _ => throw .nesting
  | fuel + 1, isFirst => do
    if (← peek) == some .flowSequenceEnd then
      advance
      return []
    match ← separate isFirst with
    | some .flowSequenceEnd => advance; return []
    | some .key =>
      advance
      count 1
      let next ← peek
      -- A key without a text takes the token behind it along.
      let key ← if next == some .value || endsFlowEntry .flowSequenceEnd next then do
          advance
          missing
        else node fuel false false
      let value ← flowValue fuel .flowSequenceEnd
      count 1
      return .mapping .absent [(key, value)] :: (← flowEntries fuel false)
    | _ =>
      let item ← node fuel false false
      return item :: (← flowEntries fuel false)

/-- Reads the value of a pair in a flow collection, if there is one. -/
def flowValue : Nat → (close : Token) → Read Node
  | 0, _ => throw .nesting
  | fuel + 1, close => do
    if (← peek) == some .value then
      advance
      if endsFlowEntry close (← peek) then missing else node fuel false false
    else missing

/-- Reads the pairs of a mapping in braces; the value of a pair can be missing. -/
def flowPairs : Nat → (isFirst : Bool) → Read (List (Node × Node))
  | 0, _ => throw .nesting
  | fuel + 1, isFirst => do
    if (← peek) == some .flowMappingEnd then
      advance
      return []
    match ← separate isFirst with
    | some .flowMappingEnd => advance; return []
    | some .key =>
      advance
      let next ← peek
      let key ← if next == some .value || endsFlowEntry .flowMappingEnd next then missing
        else node fuel false false
      let value ← flowValue fuel .flowMappingEnd
      return (key, value) :: (← flowPairs fuel false)
    | _ =>
      let key ← node fuel false false
      let value ← missing
      return (key, value) :: (← flowPairs fuel false)

end

/-- Reads the directives before a document. -/
def directives : (hasVersion : Bool) → Handles → List Token → Except Error (Handles × List Token)
  | hasVersion, declared, .version major minor :: rest =>
    if hasVersion then .error .directive
    else if major = 1 ∧ (minor = 1 ∨ minor = 2) then directives true declared rest
    else .error .version
  | hasVersion, declared, .handle name start :: rest =>
    if (declared.lookup name).isSome then .error .directive
    else directives hasVersion ((name, start) :: declared) rest
  | _, declared, tokens => .ok (declared ++ Handles.known, tokens)

/-- Whether a token stands between documents. -/
def isBetweenDocuments : Option Token → Bool
  | none => true
  | some (.version ..) => true
  | some (.handle ..) => true
  | some .documentStart => true
  | some .documentEnd => true
  | _ => false

end Read

/-- A document. -/
structure Document where
  /-- The outermost node. -/
  root : Node
  /-- The nodes that have anchors, by the parts where they start. -/
  nodes : List (Nat × Node)
  /-- For each number of an anchor the part where its node starts, the latest first. -/
  starts : List (Nat × Nat)
  /-- The number of parts. -/
  parts : Nat

namespace Document

/-- The node that an anchor stands for. -/
def node? (d : Document) (anchor : Nat) : Option Node := do
  d.nodes.lookup (← d.starts.lookup anchor)

/-- The document of tokens. A stream without tokens has one too, without a value. -/
def ofTokens (tokens : List Token) : Except Error Document := do
  let (handles, rest) ← Read.directives false [] tokens
  let isMarked := rest.head? == some .documentStart
  -- Directives have to be followed by a mark.
  if !isMarked && rest.length != tokens.length then .error .directive
  let rest := if isMarked then rest.tail else rest
  let isEmpty := if isMarked then Read.isBetweenDocuments rest.head? else tokens.isEmpty
  let read := if isEmpty then Read.missing else Read.node (4 * tokens.length + 4) true false
  let (root, reader) ← read.run { tokens := rest, handles }
  if (reader.tokens.dropWhile (· == .documentEnd)).isEmpty then
    return ⟨root, reader.nodes, reader.starts, reader.parts⟩
  else .error .furtherDocument

/-- The document of a text. -/
def read (t : Text) : Except Error Document := do
  ofTokens (← Token.scan t)

end Document

end PathRouting.Yaml
