/-! Binary floating-point numbers of 64 bits as exact values: a decimal is rounded to the nearest
one, and one is written with the fewest digits that read back as it. No arithmetic on them is
needed. -/
namespace KqlCompletion.Number

/-- A finite number is `mantissa * 2 ^ exponent`, up to its sign. It is in least form: the mantissa
has 53 bits, or fewer with the least exponent, -1074. -/
inductive Binary64 where
  | nan
  | infinite (negative : Bool)
  | finite (negative : Bool) (mantissa : Nat) (exponent : Int)
  deriving DecidableEq, Repr

/-- Nearest natural number to a quotient; of two equally near ones the even one. -/
def roundDiv (num den : Nat) : Nat :=
  let q := num / den
  let r := num % den
  if 2 * r < den then q else if den < 2 * r then q + 1 else q + q % 2

/-- A quotient times a power of two, or of ten, as a quotient. -/
def scale (base : Nat) (exponent : Int) (num den : Nat) : Nat × Nat :=
  let power := base.pow exponent.natAbs
  if exponent < 0 then (num, den * power) else (num * power, den)

namespace Binary64

def leastExponent : Int := -1074
def greatestExponent : Int := 971

def zero (negative : Bool) : Binary64 := finite negative 0 leastExponent

/-- The exponent with which a positive quotient has a mantissa of 53 bits, if the least exponent
allows. The two lengths in bits leave a choice of two, which one comparison settles. -/
def exponentOf (num den : Nat) : Int :=
  let guess : Int := Int.ofNat num.log2 - Int.ofNat den.log2 - 52
  let (n, d) := scale 2 (-guess) num den
  max leastExponent (if n < d <<< 52 then guess - 1 else guess)

def ofRatio (negative : Bool) (num den : Nat) : Binary64 :=
  if num == 0 then zero negative
  else
    let exponent := exponentOf num den
    let (n, d) := scale 2 (-exponent) num den
    let mantissa := roundDiv n d
    let (mantissa, exponent) :=
      if mantissa == 1 <<< 53 then (1 <<< 52, exponent + 1) else (mantissa, exponent)
    if greatestExponent < exponent then infinite negative else finite negative mantissa exponent

def digitCount (n : Nat) : Nat := (Nat.toDigits 10 n).length

/-- `digits * 10 ^ exponent`, rounded. Beyond 10^310 all is infinite, and below 10^-330 all is
zero, so no larger power is ever formed. -/
def ofDecimal (negative : Bool) (digits : Nat) (exponent : Int) : Binary64 :=
  let magnitude := exponent + digitCount digits
  if digits == 0 || magnitude < -330 then zero negative
  else if 310 < magnitude then infinite negative
  else
    let (num, den) := scale 10 exponent digits 1
    ofRatio negative num den

def ofInt (n : Int) : Binary64 := ofDecimal (n < 0) n.natAbs 0

def toInt? : Binary64 → Option Int
  | finite negative mantissa exponent =>
    let (num, den) := scale 2 exponent mantissa 1
    if num % den == 0 then
      some (if negative then -Int.ofNat (num / den) else Int.ofNat (num / den))
    else none
  | _ => none

/-- The number of digits before the point; not positive for numbers below 0.1. -/
def pointPlace (num den : Nat) : Int :=
  if den ≤ num then digitCount (num / den)
  else
    match (List.range 330).find? fun places => den ≤ num * Nat.pow 10 (places + 1) with
    | some places => -Int.ofNat places
    | none => -330

/-- On the grid of numbers with `count` digits, a neighbour of the value that reads back as it, the
nearer one if both do. -/
def shortestWith (mantissa : Nat) (exponent : Int) (count : Nat) : Option (Nat × Int) :=
  let (num, den) := scale 2 exponent mantissa 1
  let grid := pointPlace num den - count
  let (n, d) := scale 10 (-grid) num den
  let below := n / d
  let nearer := roundDiv n d
  let farther := if nearer == below then below + 1 else below
  [nearer, farther].findSome? fun digits =>
    if ofDecimal false digits grid = finite false mantissa exponent then some (digits, grid)
    else none

/-- The fewest decimal digits, and the power of ten they count, that read back as a positive
finite number. Seventeen digits always do. -/
def shortest (mantissa : Nat) (exponent : Int) : Nat × Int :=
  ((List.range 17).findSome? fun k => shortestWith mantissa exponent (k + 1)).getD (0, 0)

/-- Which numbers are written without an exponent, as bounds on the exponent of the first digit,
and how an exponent is written. -/
structure Layout where
  leastPositional : Int
  greatestPositional : Int
  exponentDigits : Nat

/-- Positional from 0.0001 to below 10^16; an exponent has a sign and two digits at least. -/
def layout : Layout := ⟨-4, 15, 2⟩

def padLeft (width : Nat) (digits : List Char) : List Char :=
  List.replicate (width - digits.length) '0' ++ digits

/-- Digits with the point in its place; a whole number keeps one zero behind the point. -/
def positional (digits : List Char) (lead : Int) : List Char :=
  if lead < 0 then '0' :: '.' :: List.replicate (lead.natAbs - 1) '0' ++ digits
  else
    let whole := lead.natAbs + 1
    let front := digits.take whole ++ List.replicate (whole - digits.length) '0'
    front ++ '.' :: (if digits.length ≤ whole then ['0'] else digits.drop whole)

def scientific (digits : List Char) (lead : Int) : List Char :=
  let point := if digits.length ≤ 1 then [] else '.' :: digits.drop 1
  digits.take 1 ++ point ++ 'e' :: (if lead < 0 then '-' else '+') ::
    padLeft layout.exponentDigits (Nat.toDigits 10 lead.natAbs)

def dropTrailingZeros (digits : List Char) : List Char :=
  (digits.reverse.dropWhile (· == '0')).reverse

def writeFinite (mantissa : Nat) (exponent : Int) : List Char :=
  if mantissa == 0 then ['0', '.', '0']
  else
    let (value, grid) := shortest mantissa exponent
    let written := Nat.toDigits 10 value
    let lead := grid + written.length - 1
    let digits := dropTrailingZeros written
    if layout.leastPositional ≤ lead && lead ≤ layout.greatestPositional then positional digits lead
    else scientific digits lead

/-- The spelling of what is no finite number is left to the caller. -/
def write (nanText infinityText : String) : Binary64 → String
  | nan => nanText
  | infinite negative => (if negative then "-" else "") ++ infinityText
  | finite negative mantissa exponent =>
    (if negative then "-" else "") ++ String.ofList (writeFinite mantissa exponent)

end Binary64
end KqlCompletion.Number
