import PathRouting.Proofs.Regex.Reading

/-!
# Tokens of expressions

Reading a part of an expression is done in two steps. The first one reads a token from the text, for
which only the flags in force count. The second one adds the token to what has been read, for which
the text no longer counts. So what holds of the text that is left is a matter of tokens, and what
holds of the groups and their names is a matter of adding them.
-/

namespace PathRouting.Regex

/-- What a part of an expression asks for. -/
inductive Token where
  /-- A group that remembers where it matched is opened. -/
  | capture (name : Option Text)
  /-- A group that has flags of its own is opened. -/
  | flagged (flags : Flags)
  /-- Other flags hold from here on. -/
  | switch (flags : Flags)
  /-- A group is closed. -/
  | close
  /-- Another branch begins. -/
  | bar
  /-- A bracketed class. -/
  | bracketed (nested : Nested)
  /-- A character, a set of characters or a condition on a place. -/
  | primitive (p : Primitive)
  /-- The last piece is repeated. -/
  | repetition (min : Nat) (max : Option Nat) (greedy : Bool)

namespace Token

/-- Reads a list of flags, and the colon or the parenthesis behind it. -/
def flagList (f : Flags) (t : Text) : Except Error (Token × Text) :=
  let isEnd (c : Char) := c == ':' || c == ')'
  let letters := t.takeWhile (!isEnd ·)
  match t.dropWhile (!isEnd ·) with
  | [] => .error .groupUnclosed
  | c :: left =>
    match f.adjusted? letters with
    | none => .error .flags
    | some flags =>
      if c = ':' then .ok (.flagged flags, left)
      else if letters.isEmpty then .error .repetitionMissing
      else .ok (.switch flags, left)

/-- Reads the start of a group, or a list of flags, with no blanks in front. -/
def groupHead (f : Flags) : Text → Except Error (Token × Text)
  | '?' :: '=' :: _ => .error .lookAround
  | '?' :: '!' :: _ => .error .lookAround
  | '?' :: '<' :: '=' :: _ => .error .lookAround
  | '?' :: '<' :: '!' :: _ => .error .lookAround
  | '?' :: 'P' :: '<' :: rest => do
    let (name, left) ← groupName rest
    return (.capture (some name), left)
  | '?' :: '<' :: rest => do
    let (name, left) ← groupName rest
    return (.capture (some name), left)
  | '?' :: rest => flagList f rest
  | t => .ok (.capture none, t)

/-- Reads the start of a group, or a list of flags, from behind its parenthesis. -/
def groupStart (f : Flags) (t : Text) : Except Error (Token × Text) :=
  groupHead f (skipBlanks f.verbose t)

/-- Reads what follows a sign of repetition or its counts. -/
def sign (min : Nat) (max : Option Nat) : Text → Except Error (Token × Text)
  | '?' :: left => .ok (.repetition min max false, left)
  | left => .ok (.repetition min max true, left)

/-- Reads a repetition with counts from behind its brace. -/
def counted (f : Flags) (t : Text) : Except Error (Token × Text) := do
  let ((min, max), left) ← counts f.verbose t
  if countLimit < min || max.any (fun max => countLimit < max || max < min) then
    .error .repetitionCount
  else sign min max (skipBlanks f.verbose left)

/-- The set of the dot. -/
def dotSet (f : Flags) : Except Error CharSet :=
  if !f.unicode then .error .partialCharacter
  else if f.dotAll then .ok .any
  else if f.crlf then .ok (.compl (.union (.single '\r') (.single '\n')))
  else .ok (.compl (.single '\n'))

/-- Reads the token that starts with a given character. -/
def read (f : Flags) (c : Char) (rest : Text) : Except Error (Token × Text) :=
  match c with
  | '(' => groupStart f rest
  | ')' => .ok (.close, rest)
  | '|' => .ok (.bar, rest)
  | '[' => do
    let (nested, left) ← bracketedClass f rest
    return (.bracketed nested, left)
  | '?' => sign 0 (some 1) rest
  | '*' => sign 0 none rest
  | '+' => sign 1 none rest
  | '\x7b' => counted f rest
  | '\\' => do
    let (p, left) ← Regex.primitive f rest
    return (.primitive p, left)
  | '.' => do return (.primitive (.set (← dotSet f)), rest)
  | '^' => .ok (.primitive (.look (startLook f)), rest)
  | '$' => .ok (.primitive (.look (endLook f)), rest)
  | c => .ok (.primitive (.set (f.close (.single c))), rest)

end Token

/-- Adds a token to what has been read. -/
def Reading.take (r : Reading) : Token → Except Error Reading
  | .capture name => r.openCapture name
  | .flagged flags => .ok (r.openGroup flags none)
  | .switch flags => .ok { r with flags := flags, level := r.level.add ⟨.empty, 0, false⟩ }
  | .close => r.closeGroup
  | .bar => .ok { r with level := r.level.nextBranch }
  | .bracketed nested => r.add (.set nested.set) nested.height
  | .primitive p => r.addPrimitive p
  | .repetition min max greedy => r.repeatLast min max greedy

/-- Reads a part of an expression as a token. -/
def Reading.viaToken (r : Reading) (g : Text → Except Error (Token × Text)) (t : Text) :
    Except Error (Reading × Text) :=
  g t >>= fun p => r.take p.1 >>= fun r' => .ok (r', p.2)

/-- A list of flags is a token. -/
theorem flagList_eq (r : Reading) (t : Text) :
    flagList r t = r.viaToken (Token.flagList r.flags) t := by
  unfold flagList Reading.viaToken Token.flagList
  dsimp only
  cases t.dropWhile fun c => !(c == ':' || c == ')') with
  | nil => rfl
  | cons c left =>
    dsimp only
    cases r.flags.adjusted? (t.takeWhile fun c => !(c == ':' || c == ')')) with
    | none => rfl
    | some flags =>
      dsimp only
      split
      · rfl
      · split
        · rfl
        · rfl

/-- The start of a group is a token. -/
theorem groupStart_eq (r : Reading) (t : Text) :
    groupStart r t = r.viaToken (Token.groupStart r.flags) t := by
  have hnamed : ∀ rest, (do
      let (name, left) ← groupName rest
      return (← r.openCapture (some name), left)) = r.viaToken (fun t => do
        let (name, left) ← groupName t
        return (.capture (some name), left)) rest := by
    intro rest
    unfold Reading.viaToken
    dsimp only
    cases groupName rest <;> rfl
  unfold groupStart Reading.viaToken Token.groupStart
  generalize skipBlanks r.flags.verbose t = u
  split
  · rfl
  · rfl
  · rfl
  · rfl
  · exact hnamed _
  · rename_i rest hequal hbang
    rw [Token.groupHead.eq_6 r.flags rest hequal hbang]
    exact hnamed rest
  · rename_i rest hequal hbang hbehind hnotBehind hnamed' hangle
    rw [Token.groupHead.eq_7 r.flags rest hequal hbang hbehind hnotBehind hnamed' hangle]
    exact flagList_eq r rest
  · rename_i h1 h2 h3 h4 h5 h6 h7
    rw [Token.groupHead.eq_8 r.flags u h1 h2 h3 h4 h5 h6 h7]
    rfl

/-- A sign of repetition is a token. -/
theorem signRepetition_eq (r : Reading) (min : Nat) (max : Option Nat) (t : Text) :
    signRepetition r min max t = r.viaToken (Token.sign min max) t := by
  unfold signRepetition Reading.viaToken
  split
  · rfl
  · rename_i hmark
    rw [Token.sign.eq_2 min max t hmark]
    rfl

/-- A repetition with counts is a token. -/
theorem countedRepetition_eq (r : Reading) (t : Text) :
    countedRepetition r t = r.viaToken (Token.counted r.flags) t := by
  unfold countedRepetition Reading.viaToken Token.counted
  cases counts r.flags.verbose t with
  | error e => rfl
  | ok p =>
    dsimp only [bind, Except.bind]
    split
    · rfl
    · exact signRepetition_eq r _ _ _

/-- The dot matches a set. -/
theorem dot_eq (f : Flags) : dot f = (Token.dotSet f).map .set := by
  unfold dot Token.dotSet
  repeat' split
  all_goals rfl

/-- Each part of an expression is a token. -/
theorem readPart_eq (r : Reading) (c : Char) (t : Text) :
    readPart r c t = r.viaToken (Token.read r.flags c) t := by
  unfold readPart
  split
  · exact groupStart_eq r t
  · rfl
  · rfl
  · unfold Reading.viaToken
    change _ = (bracketedClass r.flags t >>= _) >>= _
    cases bracketedClass r.flags t <;> rfl
  · exact signRepetition_eq r _ _ t
  · exact signRepetition_eq r _ _ t
  · exact signRepetition_eq r _ _ t
  · exact countedRepetition_eq r t
  · unfold Reading.viaToken
    change _ = (primitive r.flags t >>= _) >>= _
    cases primitive r.flags t <;> rfl
  · rw [dot_eq]
    unfold Reading.viaToken
    change _ = (Token.dotSet r.flags >>= _) >>= _
    cases Token.dotSet r.flags <;> rfl
  · rfl
  · rfl
  · unfold Reading.viaToken Token.read
    split
    all_goals first
      | contradiction
      | rfl

/-- A part that is read is a token that is read and added. -/
theorem readPart_eq_ok {r r' : Reading} {c : Char} {t left : Text} :
    readPart r c t = .ok (r', left) ↔
      ∃ token, Token.read r.flags c t = .ok (token, left) ∧ r.take token = .ok r' := by
  rw [readPart_eq]
  constructor
  · intro h
    obtain ⟨⟨token, left'⟩, htoken, h⟩ := bind_eq_ok h
    obtain ⟨r'', htake, h⟩ := bind_eq_ok h
    cases h
    exact ⟨token, htoken, htake⟩
  · rintro ⟨token, htoken, htake⟩
    unfold Reading.viaToken
    rw [htoken]
    change (r.take token >>= _) = _
    rw [htake]
    rfl

/-- A part is an error if its token cannot be added. -/
theorem readPart_eq_error {r : Reading} {c : Char} {t left : Text} {token : Token} {e : Error}
    (htoken : Token.read r.flags c t = .ok (token, left)) (htake : r.take token = .error e) :
    readPart r c t = .error e := by
  rw [readPart_eq]
  unfold Reading.viaToken
  rw [htoken]
  change (r.take token >>= _) = _
  rw [htake]
  rfl

end PathRouting.Regex
