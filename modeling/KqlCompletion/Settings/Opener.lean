import KqlCompletion.Text.Blank
import KqlCompletion.Text.Hex
import KqlCompletion.Text.Identifier
import KqlCompletion.Text.LetterCase

/-! What flags on a command line open with. Where letter case is ignored, a flag is found by a
pattern that begins with a backslash and the opener. So an opener whose first character names an
escape stands for what that escape stands for, and some openers make no pattern at all. -/
namespace KqlCompletion.CommandLine

open Text (isBlank isWordChar digitValue? hexValue?)

/-- Each of its characters may open a flag. -/
abbrev Opener := List Char

namespace Opener

/-- A flag opens with two characters, unless its name is a single letter. There are always two, as
the opener is written twice. -/
def flag (opener : Opener) (size : Nat) (name : String) : String :=
  String.ofList ((opener ++ opener).take (if size = 1 then 1 else 2)) ++ name

def helpFlags (opener : Opener) : List String := [flag opener 1 "h", flag opener 2 "help"]

inductive Fault where
  | incomplete (escape : String)
  | unknown (escape : String)
  | tooLarge (escape : String)
  | openGroup
  | unknownGroup (group : Nat)
  | noCharacterName
  | unknownCharacterName
  | nothingRepeated
  | repeatedTwice (position : Nat)
  deriving DecidableEq, Repr

def Fault.message : Fault → String
  | .incomplete escape => "incomplete escape " ++ escape ++ " at position 2"
  | .unknown escape => "bad escape " ++ escape ++ " at position 2"
  | .tooLarge escape =>
    "octal escape value " ++ escape ++ " outside of range 0-0o377 at position 2"
  | .openGroup => "cannot refer to an open group at position 2"
  | .unknownGroup group => "invalid group reference " ++ toString group ++ " at position 3"
  | .noCharacterName => "missing \x7b at position 4"
  | .unknownCharacterName => "undefined character name '1,2' at position 2"
  | .nothingRepeated => "nothing to repeat at position 4"
  | .repeatedTwice position => "multiple repeat at position " ++ toString position

/-- A part of a pattern: one character of some class, or a condition on the character ahead. -/
inductive Part where
  | one (fits : Char → Bool)
  | ahead (fits : Option Char → Bool)

def Part.isOne : Part → Bool
  | .one _ => true
  | .ahead _ => false

def Part.skip? : Part → List Char → Option (List Char)
  | .one fits, c :: text => if fits c then some text else none
  | .one _, [] => none
  | .ahead fits, text => if fits text.head? then some text else none

def character (c : Char) : Part := .one (· == c)

def ofCode (code : Nat) : Part := .one (·.toNat == code)

def escapeText (escape : List Char) : String := String.ofList ('\\' :: escape)

/-- A code point in hexadecimal digits of a fixed number. -/
def hexEscape (size : Nat) (c : Char) (text : List Char) : Except Fault (Part × List Char) :=
  let digits := (text.takeWhile fun c => (hexValue? c).isSome).take size
  let code := digits.foldl (fun n c => n * 16 + (hexValue? c).getD 0) 0
  if digits.length < size then .error (.incomplete (escapeText (c :: digits)))
  else if 0x10FFFF < code then .error (.unknown (escapeText (c :: digits)))
  else .ok (ofCode code, text.drop size)

def isOctal (c : Char) : Bool := '0' ≤ c && c ≤ '7'

def octalOf (digits : List Char) : Nat := digits.foldl (fun n c => n * 8 + (c.toNat - 48)) 0

def octalLimit : Nat := 0xFF

/-- A code point in octal digits, which are three unless the first is a zero. Other digits are the
number of a group, and the only group is the one that the opener stands in. -/
def digitEscape (c : Char) (text : List Char) : Except Fault (Part × List Char) :=
  if c == '0' then
    let digits := (text.takeWhile isOctal).take 2
    .ok (ofCode (octalOf digits), text.drop digits.length)
  else
    match text with
    | d :: rest =>
      if !d.isDigit then group
      else if rest.head?.any fun e => [c, d, e].all isOctal then
        let digits := c :: text.take 2
        if octalLimit < octalOf digits then .error (.tooLarge (escapeText digits))
        else .ok (ofCode (octalOf digits), text.drop 2)
      else .error (.unknownGroup ((c.toNat - 48) * 10 + (d.toNat - 48)))
    | [] => group
where
  group : Except Fault (Part × List Char) :=
    .error (if c == '1' then .openGroup else .unknownGroup (c.toNat - 48))

/-- The part that the first character makes behind a backslash, and what it leaves of the text. -/
def escape (c : Char) (text : List Char) : Except Fault (Part × List Char) :=
  let isDecimal (c : Char) : Bool := (digitValue? c).isSome
  match c with
  | 'a' => .ok (ofCode 0x07, text)
  | 'f' => .ok (ofCode 0x0C, text)
  | 'n' => .ok (ofCode 0x0A, text)
  | 'r' => .ok (ofCode 0x0D, text)
  | 't' => .ok (ofCode 0x09, text)
  | 'v' => .ok (ofCode 0x0B, text)
  | 'd' => .ok (.one isDecimal, text)
  | 'D' => .ok (.one (!isDecimal ·), text)
  | 's' => .ok (.one (isBlank ·), text)
  | 'S' => .ok (.one (!isBlank ·), text)
  | 'w' => .ok (.one isWordChar, text)
  | 'W' => .ok (.one (!isWordChar ·), text)
  | 'A' => .ok (.ahead fun _ => true, text)
  | 'Z' => .ok (.ahead Option.isNone, text)
  | 'b' => .ok (.ahead (·.any isWordChar), text)
  | 'B' => .ok (.ahead (·.any (!isWordChar ·)), text)
  | 'x' => hexEscape 2 c text
  | 'u' => hexEscape 4 c text
  | 'U' => hexEscape 8 c text
  | 'N' => .error (if text.isEmpty then .unknownCharacterName else .noCharacterName)
  | _ =>
    if c.isDigit then digitEscape c text
    else if c.isAlpha then .error (.unknown (escapeText [c]))
    else .ok (character c, text)

def isRepetition (c : Char) : Bool := c == '*' || c == '+' || c == '?'

def parts (opener : Opener) : Except Fault (List Part) := do
  match opener with
  | [] => return []
  | c :: text =>
    let (part, rest) ← escape c text
    let repeated := rest.length == 1 && rest.all isRepetition
    if !part.isOne && (rest.isEmpty || repeated) then throw .nothingRepeated
    if repeated then throw (.repeatedTwice (opener.length + 3))
    return part :: rest.map character

def behind? (parts : List Part) (text : List Char) : Option (List Char) :=
  parts.foldlM (fun text part => part.skip? text) text

/-- A flag ends at a blank or an equals sign. -/
def isFlagChar (c : Char) : Bool := !isBlank c && c != '='

/-- The flag that the pattern finds at the front of a text, and what follows it on its line. -/
def front? (parts : List Part) (text : List Char) : Option (List Char × List Char) :=
  let once := behind? parts text
  let twice := once.bind fun text => parts.getLast?.bind (·.skip? text)
  (([twice, once].filterMap id).find? (·.head?.any isFlagChar)).map fun rest =>
    let size := text.length - rest.length + (rest.takeWhile isFlagChar).length
    (text.take size, (text.drop size).takeWhile (· != '\n'))

/-- An argument with the flag that it opens with in lower case. The flag is all that the pattern
finds, or else its second character behind the opener, whatever the first one is; a value that
follows keeps its case. An argument that opens with neither stays as it is. -/
def lowered (opener : Opener) (parts : List Part) (isFlag : String → Bool) (argument : String) :
    String :=
  match front? parts argument.toList with
  | none => argument
  | some (flag, rest) =>
    let long := (Text.lower (String.ofList flag)).shown
    let second := (Text.lower (String.ofList ((flag.drop 1).take 1))).shown
    let short := String.ofList opener ++ second
    if isFlag long then long ++ String.ofList rest
    else if isFlag short then short ++ String.ofList (flag.drop 2 ++ rest)
    else argument

end Opener
end KqlCompletion.CommandLine
