import KqlCompletion.Text.Composition
import KqlCompletion.Text.Direction
import KqlCompletion.Text.Joining
import KqlCompletion.Text.Quoted
import KqlCompletion.Text.Script
import KqlCompletion.Url.Label.Table
import KqlCompletion.Url.Punycode

/-! Labels of host names beyond ASCII: which ones are allowed, and their form in ASCII. A label is a
list of code points. The checks come in a fixed order, and the first that fails names the fault. -/
namespace KqlCompletion.Url

open Text (CodeRange Direction inRanges)

/-- Why a host name, or a label of it, is refused. Positions count from one. -/
inductive NameFault where
  | empty
  | notComposed
  | innerHyphens
  | outerHyphen
  | startsWithMark
  | joiner (code position : Nat) (label : List Nat)
  | unknownNeighbour (code position : Nat) (label : List Nat)
  | context (code position : Nat) (label : List Nat)
  | forbidden (code position : Nat) (label : List Nat)
  | unknownDirection (position : Nat) (label : List Nat)
  | firstDirection (label : List Nat)
  | direction (position : Nat) (rightToLeft : Bool)
  | mixedNumbers
  | lastDirection
  | nothingEncoded
  | endsWithHyphen
  | notPunycode
  | notCanonical
  | labelTooLong
  | emptyName
  | nameTooLong
  deriving DecidableEq, Repr

namespace NameFault

def place (position : Nat) (label : List Nat) : String :=
  " at position " ++ toString position ++ " in " ++ Text.quotedCodes label

def message : NameFault → String
  | empty => "Empty Label"
  | notComposed => "Label must be in Normalization Form C"
  | innerHyphens => "Label has disallowed hyphens in 3rd and 4th position"
  | outerHyphen => "Label must not start or end with a hyphen"
  | startsWithMark => "Label begins with an illegal combining character"
  | joiner code position label =>
    "Joiner " ++ Text.codeName code ++ " not allowed" ++ place position label
  | unknownNeighbour code position label =>
    "Unknown codepoint adjacent to joiner " ++ Text.codeName code ++ place position label
  | context code position label =>
    "Codepoint " ++ Text.codeName code ++ " not allowed" ++ place position label
  | forbidden code position label =>
    "Codepoint " ++ Text.codeName code ++ " at position " ++ toString position ++ " of " ++
      Text.quotedCodes label ++ " not allowed"
  | unknownDirection position label =>
    "Unknown directionality in label " ++ Text.quotedCodes label ++ " at position " ++
      toString position
  | firstDirection label =>
    "First codepoint in label " ++ Text.quotedCodes label ++ " must be directionality L, R or AL"
  | direction position rightToLeft =>
    "Invalid direction for codepoint at position " ++ toString position ++ " in a " ++
      (if rightToLeft then "right-to-left" else "left-to-right") ++ " label"
  | mixedNumbers => "Can not mix numeral types in a right-to-left label"
  | lastDirection => "Label ends with illegal codepoint directionality"
  | nothingEncoded => "Malformed A-label, no Punycode eligible content found"
  | endsWithHyphen => "A-label must not end with a hyphen"
  | notPunycode => "Invalid A-label"
  | notCanonical => "A-label is not the canonical Punycode encoding of its U-label"
  | labelTooLong => "Label too long"
  | emptyName => "Empty domain"
  | nameTooLong => "Domain too long"

end NameFault

namespace Label

def isAllowed (code : Nat) : Bool := runs.any (·.covers code) || Text.isAddition code

def nonJoiner : Nat := 0x200C
def joiner : Nat := 0x200D
def middleDot : Nat := 0xB7
def katakanaDot : Nat := 0x30FB
def arabicDigits : CodeRange := (0x660, 0x669)
def extendedArabicDigits : CodeRange := (0x6F0, 0x6F9)

def isIn (range : CodeRange) (code : Nat) : Bool := inRanges [range] code

def isJoiner (code : Nat) : Bool := code == nonJoiner || code == joiner

def isContextual (code : Nat) : Bool :=
  [middleDot, 0x375, 0x5F3, 0x5F4, katakanaDot].contains code || isIn arabicDigits code ||
    isIn extendedArabicDigits code

/-- Marks that join two consonants. -/
def isVirama (code : Nat) : Bool := Text.Composition.combiningClass code == 9

def nearest (p : Nat → Bool) (codes : List Nat) : Bool :=
  (codes.dropWhile Text.Joining.isTransparent).head?.any p

/-- A joiner may stand behind a virama, and a non-joiner also between two characters that would
join. `before` has its last character first. -/
def joinerFits (before : List Nat) (code : Nat) (behind : List Nat) : Bool :=
  before.head?.any isVirama ||
    (code == nonJoiner && nearest Text.Joining.joinsNext before &&
      nearest Text.Joining.joinsPrevious behind)

/-- A middle dot stands between two `l`, a Greek number sign in front of Greek, a Hebrew accent
behind Hebrew, a middle dot of Katakana in a label that has Japanese or Chinese characters; and
Arabic digits of both series do not meet. `before` has its last character first. -/
def contextFits (before : List Nat) (code : Nat) (behind : List Nat) : Bool :=
  let label := before ++ behind
  if code == middleDot then before.head? == some 0x6C && behind.head? == some 0x6C
  else if code == 0x375 then behind.head?.any (inRanges Text.Script.greek)
  else if code == 0x5F3 || code == 0x5F4 then before.head?.any (inRanges Text.Script.hebrew)
  else if code == katakanaDot then
    label.any fun other => other != katakanaDot &&
      inRanges (Text.Script.hiragana ++ Text.Script.katakana ++ Text.Script.han) other
  else if isIn arabicDigits code then !label.any (isIn extendedArabicDigits)
  else !label.any (isIn arabicDigits)

/-- Checks the characters of a label one by one. `before` has its last character first. -/
def checkCodes (label before : List Nat) : List Nat → Except NameFault Unit
  | [] => .ok ()
  | code :: behind =>
    let position := before.length + 1
    if isAllowed code then checkCodes label (code :: before) behind
    else if isJoiner code then
      if before.head?.any Text.isNameless then .error (.unknownNeighbour code position label)
      else if joinerFits before code behind then checkCodes label (code :: before) behind
      else .error (.joiner code position label)
    else if isContextual code then
      if contextFits before code behind then checkCodes label (code :: before) behind
      else .error (.context code position label)
    else .error (.forbidden code position label)

def fitsRightToLeft (direction : Direction) : Bool := direction != .leftToRight

def fitsLeftToRight (direction : Direction) : Bool :=
  [.leftToRight, .europeanNumber, .europeanSeparator, .boundaryNeutral, .nonspacing,
    .neutral].contains direction

def endsRightToLeft (direction : Direction) : Bool :=
  [.rightToLeft, .arabicLetter, .europeanNumber, .arabicNumber].contains direction

def endsLeftToRight (direction : Direction) : Bool :=
  direction == .leftToRight || direction == .europeanNumber

/-- Checks the directions of a label one by one. A label from right to left has numbers of one kind
only, those of `numbers` if it has had any. -/
def checkDirections (rightToLeft : Bool) :
    Nat → Option Direction → List Direction → Except NameFault Unit
  | _, _, [] => .ok ()
  | position, numbers, direction :: directions =>
    let fits := if rightToLeft then fitsRightToLeft direction else fitsLeftToRight direction
    let isNumber := direction == .europeanNumber || direction == .arabicNumber
    if !fits then .error (.direction position rightToLeft)
    else if !(rightToLeft && isNumber) then
      checkDirections rightToLeft (position + 1) numbers directions
    else if numbers.any (· != direction) then .error .mixedNumbers
    else checkDirections rightToLeft (position + 1) (some direction) directions

/-- All directions have to be known. They matter only in a label with characters that run from right
to left: the last one, nonspacing marks aside, is a letter or a number. -/
def checkDirection (label : List Nat) : Except NameFault Unit :=
  let directions := label.filterMap Direction.of?
  if let some index := label.findIdx? fun code => (Direction.of? code).isNone then
    .error (.unknownDirection (index + 1) label)
  else if !directions.any [.rightToLeft, .arabicLetter, .arabicNumber].contains then .ok ()
  else
    let first := directions.headD .neutral
    let rightToLeft := first == .rightToLeft || first == .arabicLetter
    let ends := if rightToLeft then endsRightToLeft else endsLeftToRight
    if !rightToLeft && first != .leftToRight then .error (.firstDirection label)
    else
      match checkDirections rightToLeft 1 none directions with
      | .error fault => .error fault
      | .ok () =>
        if ((directions.reverse.dropWhile (· == .nonspacing)).head?.any ends) then .ok ()
        else .error .lastDirection

def hyphen : Nat := 0x2D

def check (label : List Nat) : Except NameFault Unit := do
  if label.isEmpty then throw .empty
  if !Text.Composition.isComposed label then throw .notComposed
  if (label.drop 2).take 2 == [hyphen, hyphen] then throw .innerHyphens
  if label.head? == some hyphen || label.getLast? == some hyphen then throw .outerHyphen
  if label.head?.any Text.isMark then throw .startsWithMark
  checkCodes label [] label
  checkDirection label

def mark : List Char := ['x', 'n', '-', '-']

def isAscii (label : List Char) : Bool := label.all (·.toNat < 0x80)

/-- The label that a label in ASCII stands for: itself in lower case, unless it is marked as
encoded. -/
def ofAscii (label : List Char) : Except NameFault (List Nat) := do
  let written := label.map Char.toLower
  if !mark.isPrefixOf written then
    let label := written.map Char.toNat
    check label
    return label
  let encoded := written.drop mark.length
  if encoded.isEmpty then throw .nothingEncoded
  if encoded.getLast? == some '-' then throw .endsWithHyphen
  match Punycode.decode? encoded with
  | none => throw .notPunycode
  | some label =>
    if Punycode.encode label != encoded then throw .notCanonical
    check label
    return label

def lengthLimit : Nat := 63

def toAscii (label : List Char) : Except NameFault (List Char) := do
  let codes := label.map Char.toNat
  if isAscii label then discard (ofAscii label) else check codes
  let written := if isAscii label then label else mark ++ Punycode.encode codes
  if lengthLimit < written.length then throw .labelTooLong
  return written

end Label
end KqlCompletion.Url
