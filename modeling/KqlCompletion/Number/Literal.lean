import KqlCompletion.Number.Binary64
import KqlCompletion.Text.Blank
import KqlCompletion.Text.DecimalDigit

/-! Numbers and truth values written as text. -/
namespace KqlCompletion.Number

open Text (trim isBlank digitValue?)

def isDigit (c : Char) : Bool := '0' ≤ c && c ≤ '9'

def natOf (digits : List Char) : Nat := digits.foldl (fun n c => n * 10 + (c.toNat - 48)) 0

/-- Blanks around a number; the separators U+001C to U+001F are none here. -/
def isPadding (c : Char) : Bool := isBlank c && !(0x1C ≤ c.toNat && c.toNat ≤ 0x1F)

/-- A sign, which may be left out, and the rest; `true` is minus. -/
def splitSign : List Char → Bool × List Char
  | '-' :: text => (true, text)
  | '+' :: text => (false, text)
  | text => (false, text)

/-- The text in front of a point that only zeros follow; a text without a point is kept. -/
def dropZeroFraction (text : List Char) : Option (List Char) :=
  let whole := text.takeWhile (· != '.')
  match text.dropWhile (· != '.') with
  | [] => some whole
  | _ :: places => if !places.isEmpty && places.all (· == '0') then some whole else none

def lengthLimit : Nat := 4300

inductive IntegerFault where
  | notAnInteger
  | tooLong
  deriving DecidableEq, Repr

def signed (negative : Bool) (n : Nat) : Int := if negative then -Int.ofNat n else Int.ofNat n

/-- Removes single underscores that stand neither first nor last. -/
def dropUnderscores (text : List Char) : Option (List Char) :=
  if text.head? == some '_' || text.getLast? == some '_' ||
      Text.occursIn ['_', '_'] text then none
  else some (text.filter (· != '_'))

def splitMinus : List Char → Bool × List Char
  | '-' :: text => (true, text)
  | text => (false, text)

/-- A plain integer with more digits than are read, whatever follows it. -/
def startsTooLong (text : List Char) : Bool :=
  let (_, body) := splitMinus text
  body.head? != some '0' && lengthLimit < (body.takeWhile isDigit).length

/-- An integer as it is usually written: a minus, if need be, and digits without a needless zero. -/
def plainInteger? (text : List Char) : Option Int :=
  let (negative, digits) := splitMinus text
  if !digits.isEmpty && digits.all isDigit && (digits.length == 1 || digits.head? != some '0') &&
      digits.length ≤ lengthLimit then some (signed negative (natOf digits))
  else none

/-- Goes on over zeros and underscores behind `last`, up to a digit or a minus. What ends before
there is one keeps `last`. -/
def skipZeros (last : Char) : List Char → Option (List Char)
  | [] => some [last]
  | c :: text =>
    if c == '0' || c == '_' then skipZeros c text
    else if c == '.' then some (last :: c :: text)
    else if isDigit c || c == '-' then some (c :: text)
    else none

def dropLeadingZeros : List Char → Option (List Char)
  | [] => none
  | c :: text =>
    if c == '0' then skipZeros c text
    else if isDigit c || c == '-' then some (c :: text)
    else none

def dropPlusAndZeros : List Char → Option (List Char)
  | '+' :: '-' :: _ => none
  | '+' :: text => dropLeadingZeros text
  | '-' :: text => (dropLeadingZeros text).map ('-' :: ·)
  | text => dropLeadingZeros text

/-- An integer in decimal digits: padding around it, a plus, leading zeros, single underscores
between digits and a fraction of zeros are allowed. Too long is only what starts with a plain
integer; with padding in front it is no integer. -/
def readInteger (text : List Char) : Except IntegerFault Int :=
  if startsTooLong text then .error .tooLong
  else
    let body := trim isPadding text
    let plain := ((dropPlusAndZeros body).bind dropZeroFraction).bind dropUnderscores
    match plain.bind plainInteger? with
    | some n => .ok n
    | none => .error .notAnInteger

/-- `digits . digits e exponent`, where either side of the point may be empty but not both. -/
def readDecimal (negative : Bool) (text : List Char) : Option Binary64 :=
  let whole := text.takeWhile isDigit
  let rest := text.dropWhile isDigit
  let (places, rest) :=
    match rest with
    | '.' :: rest => (rest.takeWhile isDigit, rest.dropWhile isDigit)
    | _ => ([], rest)
  let value (exponent : Int) : Binary64 :=
    Binary64.ofDecimal negative (natOf (whole ++ places)) (exponent - Int.ofNat places.length)
  if whole.isEmpty && places.isEmpty then none
  else
    match rest with
    | [] => some (value 0)
    | mark :: rest =>
      let (below, digits) := splitSign rest
      if (mark == 'e' || mark == 'E') && !digits.isEmpty && digits.all isDigit then
        some (value (signed below (natOf digits)))
      else none

/-- A number, or a name of infinity or of no number, in any case. -/
def readPlainFloat (text : List Char) : Option Binary64 :=
  let (negative, body) := splitSign text
  let name := body.map Char.toLower
  if name == "inf".toList || name == "infinity".toList then some (.infinite negative)
  else if name == "nan".toList then some .nan
  else readDecimal negative body

/-- Padding is allowed, or single underscores are, but not both. -/
def readFloat (text : List Char) : Option Binary64 :=
  match readPlainFloat (trim isPadding text) with
  | some x => some x
  | none => (dropUnderscores text).bind readPlainFloat

def readBoolean (text : List Char) : Option Bool :=
  let word := String.ofList (text.map Char.toLower)
  if ["true", "t", "yes", "y", "on", "1"].contains word then some true
  else if ["false", "f", "no", "n", "off", "0"].contains word then some false
  else none

/-- The value of digits of any script with single underscores between them; `count` digits of it
are read. -/
def scriptDigits (value count : Nat) (afterDigit : Bool) : List Char → Option Nat
  | [] => if afterDigit && count ≤ lengthLimit then some value else none
  | c :: text =>
    if c == '_' then if afterDigit then scriptDigits value count false text else none
    else
      match digitValue? c with
      | some digit => scriptDigits (value * 10 + digit) (count + 1) true text
      | none => none

/-- An integer in the digits of any script, with blanks around it and one sign. -/
def readScriptInteger (text : List Char) : Option Int :=
  let (negative, digits) := splitSign (trim (isBlank ·) text)
  (scriptDigits 0 0 false digits).map (signed negative)

def plainDigit (c : Char) : Char :=
  match digitValue? c with
  | some digit => Char.ofNat (48 + digit)
  | none => c

/-- Removes underscores, each of which has to stand between two digits. -/
def joinDigits (afterDigit : Bool) : List Char → Option (List Char)
  | [] => some []
  | c :: text =>
    if c == '_' then
      if afterDigit && text.head?.any isDigit then joinDigits false text else none
    else (joinDigits (isDigit c) text).map (c :: ·)

/-- A number, or the name of one, in the digits of any script. -/
def isScriptNumber (text : List Char) : Bool :=
  ((joinDigits false (text.map plainDigit)).bind readPlainFloat).isSome

end KqlCompletion.Number
