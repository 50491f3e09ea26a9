import KqlCompletion.Text.CodePoint

/-! UTF-8: the bytes of a character, and an exact reader that takes one byte at a time. The reader
reports the first byte sequence that is no character, or puts the replacement character in its
place. -/
namespace KqlCompletion.Text

inductive DecodeReason where
  | invalidStart
  | invalidContinuation
  | unexpectedEnd
  | truncated
  | codeOutOfRange
  deriving DecidableEq, Repr

def DecodeReason.message : DecodeReason → String
  | .invalidStart => "invalid start byte"
  | .invalidContinuation => "invalid continuation byte"
  | .unexpectedEnd => "unexpected end of data"
  | .truncated => "truncated data"
  | .codeOutOfRange => "code point not in range(0x110000)"

structure DecodeFault where
  reason : DecodeReason
  position : Nat
  width : Nat
  deriving DecidableEq, Repr

namespace Utf8

def tail (n shift : Nat) : UInt8 := UInt8.ofNat (0x80 + (n >>> shift) % 64)

def encodeChar (c : Char) : List UInt8 :=
  let n := c.toNat
  if n < 0x80 then [UInt8.ofNat n]
  else if n < 0x800 then [UInt8.ofNat (0xC0 + n / 64), tail n 0]
  else if n < 0x10000 then [UInt8.ofNat (0xE0 + n / 4096), tail n 6, tail n 0]
  else [UInt8.ofNat (0xF0 + n / 262144), tail n 12, tail n 6, tail n 0]

def encode (text : List Char) : List UInt8 := text.flatMap encodeChar

/-- A character of which `seen` bytes are read and `need` are to come. The next one lies between
`low` and `high`. -/
structure Partial where
  seen : Nat
  need : Nat
  value : Nat
  low : Nat := 0x80
  high : Nat := 0xBF

inductive Lead where
  | char (c : Char)
  | partly (p : Partial)
  | invalid

/-- What a byte starts. With `surrogates`, the three bytes that would encode a surrogate are let
through; otherwise they are as wrong as an overlong form or a code above U+10FFFF. -/
def lead (surrogates : Bool) (byte : UInt8) : Lead :=
  let n := byte.toNat
  if n < 0x80 then .char (Char.ofNat n)
  else if n < 0xC2 then .invalid
  else if n < 0xE0 then .partly ⟨1, 1, n - 0xC0, 0x80, 0xBF⟩
  else if n == 0xE0 then .partly ⟨1, 2, 0, 0xA0, 0xBF⟩
  else if n == 0xED && !surrogates then .partly ⟨1, 2, 0xD, 0x80, 0x9F⟩
  else if n < 0xF0 then .partly ⟨1, 2, n - 0xE0, 0x80, 0xBF⟩
  else if n == 0xF0 then .partly ⟨1, 3, 0, 0x90, 0xBF⟩
  else if n < 0xF4 then .partly ⟨1, 3, n - 0xF0, 0x80, 0xBF⟩
  else if n == 0xF4 then .partly ⟨1, 3, 4, 0x80, 0x8F⟩
  else .invalid

def Partial.admits (p : Partial) (byte : UInt8) : Bool :=
  p.low ≤ byte.toNat && byte.toNat ≤ p.high

def Partial.push (p : Partial) (byte : UInt8) : Partial :=
  ⟨p.seen + 1, p.need - 1, p.value * 64 + (byte.toNat - 0x80), 0x80, 0xBF⟩

/-- The start of a surrogate: its second byte already was a wrong continuation. -/
def Partial.isSurrogate (p : Partial) : Bool :=
  p.seen == 2 && p.need == 1 && 0x360 ≤ p.value && p.value < 0x380

def Partial.fault (p : Partial) (reason : DecodeReason) (position : Nat) : DecodeFault :=
  if p.isSurrogate then ⟨.invalidContinuation, position - p.seen, 1⟩
  else ⟨reason, position - p.seen, p.seen⟩

def decodeFrom (surrogates : Bool) :
    Option Partial → Nat → List UInt8 → Except DecodeFault Text
  | none, _, [] => .ok []
  | some p, position, [] => .error (p.fault .unexpectedEnd position)
  | none, position, byte :: bytes =>
    match lead surrogates byte with
    | .char c => (decodeFrom surrogates none (position + 1) bytes).map (.char c :: ·)
    | .partly p => decodeFrom surrogates (some p) (position + 1) bytes
    | .invalid => .error ⟨.invalidStart, position, 1⟩
  | some p, position, byte :: bytes =>
    if p.admits byte then
      if p.need == 1 then
        (decodeFrom surrogates none (position + 1) bytes).map (.ofNat (p.push byte).value :: ·)
      else decodeFrom surrogates (some (p.push byte)) (position + 1) bytes
    else .error (p.fault .invalidContinuation position)

def decode (bytes : List UInt8) : Except DecodeFault Text := decodeFrom false none 0 bytes

/-- Every longest start of a character that does not go on, and every byte that starts none, is
replaced by one replacement character. -/
def decodeReplacing : Option Partial → List UInt8 → List Char
  | none, [] => []
  | some _, [] => [replacement]
  | begun, byte :: bytes =>
    let afresh (before : List Char) : List Char :=
      match lead false byte with
      | .char c => before ++ c :: decodeReplacing none bytes
      | .partly p => before ++ decodeReplacing (some p) bytes
      | .invalid => before ++ replacement :: decodeReplacing none bytes
    match begun with
    | none => afresh []
    | some p =>
      if p.admits byte then
        if p.need == 1 then Char.ofNat (p.push byte).value :: decodeReplacing none bytes
        else decodeReplacing (some (p.push byte)) bytes
      else afresh [replacement]

end Utf8
end KqlCompletion.Text
