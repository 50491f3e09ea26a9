import KqlCompletion.Json.Value
import KqlCompletion.Text.Hex
import KqlCompletion.Text.Utf8

/-! JSON text without blanks. In strings quotes, backslashes and control characters are escaped;
which of the other characters stand for themselves is up to who writes. The rest is written as code
escapes, a character beyond U+FFFF as a surrogate pair, and half a pair as what it is. -/
namespace KqlCompletion.Json

open Text (hexPadded)

namespace Writer

def codeEscape (unit : Nat) : List Char := '\\' :: 'u' :: hexPadded 4 unit

/-- Characters that have an escape of two characters, and the second of these. -/
def shortEscape? : Char → Option Char
  | '"' => some '"'
  | '\\' => some '\\'
  | '\x08' => some 'b'
  | '\x0c' => some 'f'
  | '\n' => some 'n'
  | '\r' => some 'r'
  | '\t' => some 't'
  | _ => none

def character (direct : Char → Bool) (c : Char) : List Char :=
  match shortEscape? c with
  | some letter => ['\\', letter]
  | none =>
    let n := c.toNat
    if direct c then [c]
    else if n < 0x10000 then codeEscape n
    else codeEscape (0xD800 + (n - 0x10000) / 0x400) ++ codeEscape (0xDC00 + (n - 0x10000) % 0x400)

def codePoint (direct : Char → Bool) : Text.CodePoint → List Char
  | .char c => character direct c
  | .half offset => codeEscape (0xD800 + offset)

def isAscii (c : Char) : Bool := 0x20 ≤ c.toNat && c.toNat < 0x7F

def isPlain (c : Char) : Bool := 0x20 ≤ c.toNat

def string (direct : Char → Bool) (text : Text) : List Char :=
  '"' :: text.flatMap (codePoint direct) ++ ['"']

def integer (n : Int) : List Char :=
  if n < 0 then '-' :: Nat.toDigits 10 n.natAbs else Nat.toDigits 10 n.natAbs

mutual

def value (direct : Char → Bool) : Value → List Char
  | .null => "null".toList
  | .bool true => "true".toList
  | .bool false => "false".toList
  | .int n => integer n
  | .float x => (x.write "NaN" "Infinity").toList
  | .str text => string direct text
  | .arr [] => ['[', ']']
  | .arr (item :: items) => '[' :: value direct item ++ restItems direct items
  | .obj [] => ['{', '}']
  | .obj ((name, v) :: members) =>
    '{' :: string direct name ++ ':' :: value direct v ++ restMembers direct members

def restItems (direct : Char → Bool) : List Value → List Char
  | [] => [']']
  | item :: items => ',' :: value direct item ++ restItems direct items

def restMembers (direct : Char → Bool) : List (Text × Value) → List Char
  | [] => ['}']
  | (name, v) :: members =>
    ',' :: string direct name ++ ':' :: value direct v ++ restMembers direct members

end

end Writer

def Value.write (v : Value) : String := String.ofList (Writer.value Writer.isAscii v)

def Value.bytes (v : Value) : List UInt8 := Text.Utf8.encode (Writer.value Writer.isPlain v)

end KqlCompletion.Json
