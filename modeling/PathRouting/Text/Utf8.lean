import PathRouting.Text.Basic

/-!
# UTF-8

A text is encoded as bytes character by character. Decoding goes through the bytes once and gives,
in place of each sequence that is no character, nothing: such a sequence is the longest start of a
character that the bytes allow, or else one byte.
-/

namespace PathRouting.Utf8

/-- The bytes of a text. -/
def encode (t : Text) : List UInt8 :=
  t.flatMap String.utf8EncodeChar

/-- A character of which some bytes are still to come. -/
structure Unfinished where
  /-- How many bytes are still to come after the next one. -/
  further : Nat
  /-- The least next byte. -/
  low : Nat
  /-- The greatest next byte. -/
  high : Nat
  /-- The bits that have been read. -/
  bits : Nat

/-- What a byte starts: a character of one byte, a longer one, or nothing. -/
inductive Lead where
  /-- The byte is a character. -/
  | char (c : Char)
  /-- The byte starts a character. -/
  | more (u : Unfinished)
  /-- No character starts with the byte. -/
  | invalid

/-- What a byte starts. The bounds on the second byte keep out surrogates, numbers beyond the last
character and needlessly long forms. -/
def lead (b : UInt8) : Lead :=
  let n := b.toNat
  if n < 0x80 then .char (Char.ofNat n)
  else if n < 0xC2 then .invalid
  else if n < 0xE0 then .more ⟨0, 0x80, 0xBF, n - 0xC0⟩
  else if n < 0xF0 then
    .more ⟨1, if n = 0xE0 then 0xA0 else 0x80, if n = 0xED then 0x9F else 0xBF, n - 0xE0⟩
  else if n < 0xF5 then
    .more ⟨2, if n = 0xF0 then 0x90 else 0x80, if n = 0xF4 then 0x8F else 0xBF, n - 0xF0⟩
  else .invalid

/-- The characters of bytes that follow an unfinished one, with nothing for each sequence of bytes
that is no character. -/
def decodeFrom : Option Unfinished → List UInt8 → List (Option Char)
  | none, [] => []
  | some _, [] => [none]
  | none, b :: rest =>
    match lead b with
    | .char c => some c :: decodeFrom none rest
    | .more u => decodeFrom (some u) rest
    | .invalid => none :: decodeFrom none rest
  | some u, b :: rest =>
    let n := b.toNat
    if u.low ≤ n ∧ n ≤ u.high then
      let bits := u.bits * 64 + (n - 0x80)
      match u.further with
      | 0 => some (Char.ofNat bits) :: decodeFrom none rest
      | further + 1 => decodeFrom (some ⟨further, 0x80, 0xBF, bits⟩) rest
    else
      none :: match lead b with
        | .char c => some c :: decodeFrom none rest
        | .more u => decodeFrom (some u) rest
        | .invalid => none :: decodeFrom none rest

/-- The text of bytes, if they are the bytes of a text. -/
def decode? (bytes : List UInt8) : Option Text :=
  (decodeFrom none bytes).mapM id

/-- The text of bytes, with a replacement character for each sequence that is no character. -/
def decodeLossy (bytes : List UInt8) : Text :=
  (decodeFrom none bytes).map (·.getD '\ufffd')

end PathRouting.Utf8
