import KqlCompletion.Text.Hex
import KqlCompletion.Text.Utf8

/-! Percent encoding: a character that may not stand for itself is written as its UTF-8 bytes, each
as `%` and two upper-case hexadecimal digits. -/
namespace KqlCompletion.Text.Percent

def encodeByte (byte : UInt8) : List Char :=
  ['%', upperHex (byte.toNat / 16), upperHex (byte.toNat % 16)]

def encodeChar (keep : Char → Bool) (c : Char) : List Char :=
  if keep c then [c] else (Utf8.encodeChar c).flatMap encodeByte

/-- Keeps the characters that satisfy `keep` and encodes all others. -/
def encode (keep : Char → Bool) (text : List Char) : List Char := text.flatMap (encodeChar keep)

/-- The bytes that a text stands for. A `%` without two hexadecimal digits stands for itself. -/
def bytes : List Char → List UInt8
  | '%' :: a :: b :: text =>
    match hexValue? a, hexValue? b with
    | some high, some low => UInt8.ofNat (high * 16 + low) :: bytes text
    | _, _ => 0x25 :: bytes (a :: b :: text)
  | c :: text => Utf8.encodeChar c ++ bytes text
  | [] => []

/-- The text behind an encoded one. Bytes that are no UTF-8 are replaced. -/
def decode (text : List Char) : List Char := Utf8.decodeReplacing none (bytes text)

def isUnreserved (c : Char) : Bool :=
  c.isAlphanum || c == '-' || c == '.' || c == '_' || c == '~'

end KqlCompletion.Text.Percent
