import KqlCompletion.Number.Literal
import KqlCompletion.Validation.Checked

/-! Integers, truth values and numbers, read from any value that plainly stands for one. -/
namespace KqlCompletion.Validation

open Json (Value)
open Number (Binary64)
open Checked (fail)

def wordLimit : Int := 9223372036854775808

/-- Integers of 64 bits. A number without a fraction mark has to be one to count as a truth
value. -/
def fitsWord (n : Int) : Bool := -wordLimit ≤ n && n < wordLimit

/-- A number with a fraction mark counts as an integer, or as a truth value, only between the
limits of 64 bits, both of them left out. -/
def fitsFloat (n : Int) : Bool := -wordLimit < n && n < wordLimit

def integer : Value → Checked Int
  | .int n => .ok n
  | .bool b => .ok (if b then 1 else 0)
  | .float x =>
    match x, x.toInt? with
    | .finite .., some n => if fitsFloat n then .ok n else fail .integerSize (.float x)
    | .finite .., none => fail .integral (.float x)
    | _, _ => fail .finite (.float x)
  | .str s => do
    match Number.readInteger (← characters s) with
    | .ok n => .ok n
    | .error .notAnInteger => fail .integerText (.str s)
    | .error .tooLong => fail .integerSize (.str s)
  | v => fail .integer v

/-- One and zero stand for truth values; `fits` tells whether another integer could have. -/
def booleanOf (n : Int) (fits : Bool) (input : Value) : Checked Bool :=
  if n = 1 then .ok true
  else if n = 0 then .ok false
  else fail (if fits then .booleanText else .boolean) input

def boolean : Value → Checked Bool
  | .bool b => .ok b
  | .int n => booleanOf n (fitsWord n) (.int n)
  | .float x =>
    match x.toInt? with
    | some n => booleanOf n (fitsFloat n) (.float x)
    | none => fail .boolean (.float x)
  | .str s => do
    match Number.readBoolean (← characters s) with
    | some b => .ok b
    | none => fail .booleanText (.str s)
  | v => fail .boolean v

/-- An integer so large that it would round to infinity is no number. -/
def number : Value → Checked Binary64
  | .float x => .ok x
  | .int n =>
    match Binary64.ofInt n with
    | .infinite _ => fail .number (.int n)
    | x => .ok x
  | .bool b => .ok (Binary64.ofInt (if b then 1 else 0))
  | .str s => do
    match Number.readFloat (← characters s) with
    | some x => .ok x
    | none => fail .numberText (.str s)
  | v => fail .number v

end KqlCompletion.Validation
