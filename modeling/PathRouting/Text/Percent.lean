import PathRouting.Text.Utf8

/-!
# Percent encoding

A byte is written as a percent sign and two hexadecimal digits. Decoding works on the bytes of the
text and keeps a percent sign that no two digits follow.
-/

namespace PathRouting.Percent

/-- The value of a byte that is a hexadecimal digit. -/
def digit? (b : UInt8) : Option UInt8 :=
  (Text.hexValue? (Char.ofNat b.toNat)).map UInt8.ofNat

/-- The percent sign. -/
def sign : UInt8 := 0x25

/-- Decodes bytes. -/
def decodeBytes : List UInt8 → List UInt8
  | a :: b :: c :: rest =>
    if a = sign then
      match digit? b, digit? c with
      | some high, some low => (high * 16 + low) :: decodeBytes rest
      | _, _ => a :: decodeBytes (b :: c :: rest)
    else a :: decodeBytes (b :: c :: rest)
  | bytes => bytes

/-- Decodes a text, if what results is a text. -/
def decode? (t : Text) : Option Text :=
  Utf8.decode? (decodeBytes (Utf8.encode t))

/-- Whether a character is written as it is: a letter, a digit or one of four marks. -/
def isUnreserved (c : Char) : Bool :=
  Text.isLetter c || Text.isDigit c || c == '-' || c == '.' || c == '_' || c == '~'

/-- A hexadecimal digit, with capital letters. -/
def hexDigit (n : UInt8) : Char :=
  if n < 10 then Char.ofNat ('0'.toNat + n.toNat) else Char.ofNat ('A'.toNat + n.toNat - 10)

/-- A byte as it is written in encoded form. -/
def encodeByte (b : UInt8) : Text :=
  ['%', hexDigit (b / 16), hexDigit (b % 16)]

/-- Encodes a text. -/
def encode (t : Text) : Text :=
  t.flatMap fun c =>
    if isUnreserved c then [c] else (String.utf8EncodeChar c).flatMap encodeByte

end PathRouting.Percent
