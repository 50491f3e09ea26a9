import KqlCompletion.Text.Hex
import KqlCompletion.Text.Utf8

/-! The encoding of a text that does not name it: told by a byte order mark, else by where zero
bytes stand among the first four, else UTF-8. A surrogate without its partner is kept as it is. -/
namespace KqlCompletion.Text

inductive Encoding where
  | utf8
  | utf16 (bigEndian : Bool)
  | utf32 (bigEndian : Bool)
  deriving DecidableEq, Repr

def Encoding.name : Encoding → String
  | .utf8 => "utf-8"
  | .utf16 false => "utf-16-le"
  | .utf16 true => "utf-16-be"
  | .utf32 false => "utf-32-le"
  | .utf32 true => "utf-32-be"

structure Encoding.Detected where
  encoding : Encoding
  markLength : Nat
  deriving DecidableEq, Repr

/-- The byte order marks. The longer ones come first, as one begins with another. -/
def Encoding.marks : List (List UInt8 × Encoding) := [
  ([0x00, 0x00, 0xFE, 0xFF], .utf32 true),
  ([0xFF, 0xFE, 0x00, 0x00], .utf32 false),
  ([0xFE, 0xFF], .utf16 true),
  ([0xFF, 0xFE], .utf16 false),
  ([0xEF, 0xBB, 0xBF], .utf8)]

def Encoding.ofZeros : List UInt8 → Encoding
  | a :: b :: c :: d :: _ =>
    if a == 0 then (if b == 0 then .utf32 true else .utf16 true)
    else if b == 0 then (if c == 0 && d == 0 then .utf32 false else .utf16 false)
    else .utf8
  | [a, b] => if a == 0 then .utf16 true else if b == 0 then .utf16 false else .utf8
  | _ => .utf8

def Encoding.detect (bytes : List UInt8) : Encoding.Detected :=
  match Encoding.marks.find? fun mark => mark.1.isPrefixOf bytes with
  | some (mark, encoding) => ⟨encoding, mark.length⟩
  | none => ⟨.ofZeros bytes, 0⟩

namespace Wide

def isHigh (unit : Nat) : Bool := 0xD800 ≤ unit && unit < 0xDC00
def isLow (unit : Nat) : Bool := 0xDC00 ≤ unit && unit < 0xE000

def join (high low : Nat) : Char := Char.ofNat (0x10000 + (high - 0xD800) * 0x400 + (low - 0xDC00))

def ofUnits : Option Nat → List Nat → Text
  | none, [] => []
  | some high, [] => [.ofNat high]
  | none, unit :: units =>
    if isHigh unit then ofUnits (some unit) units else .ofNat unit :: ofUnits none units
  | some high, unit :: units =>
    if isLow unit then join high unit :: ofUnits none units
    else if isHigh unit then .ofNat high :: ofUnits (some unit) units
    else .ofNat high :: .ofNat unit :: ofUnits none units

def pair (bigEndian : Bool) (a b : UInt8) : Nat :=
  if bigEndian then a.toNat * 256 + b.toNat else b.toNat * 256 + a.toNat

def units (bigEndian : Bool) (position : Nat) : List UInt8 → Except DecodeFault (List Nat)
  | [] => .ok []
  | [_] => .error ⟨.truncated, position, 1⟩
  | a :: b :: bytes => (units bigEndian (position + 2) bytes).map (pair bigEndian a b :: ·)

def codes (bigEndian : Bool) (position : Nat) : List UInt8 → Except DecodeFault Text
  | [] => .ok []
  | a :: b :: c :: d :: bytes =>
    let code := if bigEndian then pair true a b * 65536 + pair true c d
      else pair false c d * 65536 + pair false a b
    if 0x110000 ≤ code then .error ⟨.codeOutOfRange, position, 4⟩
    else (codes bigEndian (position + 4) bytes).map (.ofNat code :: ·)
  | bytes => .error ⟨.truncated, position, bytes.length⟩

end Wide

/-- Bytes that are no text in the encoding they seem to be in. `first` is the first wrong byte. -/
structure DecodeError where
  encoding : Encoding
  fault : DecodeFault
  first : UInt8
  deriving DecidableEq, Repr

def DecodeError.message (e : DecodeError) : String :=
  let place :=
    if e.fault.width == 1 then
      "byte 0x" ++ String.ofList (hexPadded 2 e.first.toNat) ++ " in position " ++
        toString e.fault.position
    else
      "bytes in position " ++ toString e.fault.position ++ "-" ++
        toString (e.fault.position + e.fault.width - 1)
  "'" ++ e.encoding.name ++ "' codec can't decode " ++ place ++ ": " ++ e.fault.reason.message

/-- Positions count from the first byte, but from behind the mark in UTF-8. -/
def decodeDetected (bytes : List UInt8) : Except DecodeError Text :=
  let found := Encoding.detect bytes
  let body := bytes.drop found.markLength
  let outcome : Except DecodeFault Text :=
    match found.encoding with
    | .utf8 => Utf8.decodeFrom true none 0 body
    | .utf16 bigEndian => (Wide.units bigEndian found.markLength body).map (Wide.ofUnits none)
    | .utf32 bigEndian => Wide.codes bigEndian found.markLength body
  let counted := if found.encoding = .utf8 then body else bytes
  outcome.mapError fun fault => ⟨found.encoding, fault, counted.getD fault.position 0⟩

end KqlCompletion.Text
