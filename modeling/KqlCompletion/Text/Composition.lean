import KqlCompletion.Text.Composition.Table

/-! Composed text: characters are taken apart, their marks put in order, and everything put together
again as far as it goes. Text is composed if that leaves it as it is (normalization form C). -/
namespace KqlCompletion.Text.Composition

def combiningClass (code : Nat) : Nat :=
  ((classes.find? fun entry => entry.1 ≤ code && code ≤ entry.2.1).map (·.2.2)).getD 0

/-- Hangul syllables are made of a lead, a vowel and perhaps a tail, by arithmetic alone. -/
def syllables : Nat := 0xAC00
def leads : Nat := 0x1100
def vowels : Nat := 0x1161
def noTail : Nat := 0x11A7

def splitSyllable? (code : Nat) : Option (Nat × Nat) :=
  if syllables ≤ code && code < syllables + 11172 then
    let index := code - syllables
    if index % 28 == 0 then some (leads + index / 588, vowels + index % 588 / 28)
    else some (code - index % 28, noTail + index % 28)
  else none

def joinSyllable? (first second : Nat) : Option Nat :=
  if leads ≤ first && first < leads + 19 && vowels ≤ second && second < vowels + 21 then
    some (syllables + (first - leads) * 588 + (second - vowels) * 28)
  else if syllables ≤ first && first < syllables + 11172 && (first - syllables) % 28 == 0 &&
      noTail < second && second < noTail + 28 then
    some (first + (second - noTail))
  else none

def split? (code : Nat) : Option (Nat × Nat) :=
  match splitSyllable? code with
  | some parts => some parts
  | none => composites.findSome? fun (second, wholes) =>
    (wholes.find? (·.2 == code)).map fun entry => (entry.1, second)

def join? (first second : Nat) : Option Nat :=
  match joinSyllable? first second with
  | some whole => some whole
  | none => (composites.find? (·.1 == second)).bind fun entry =>
    (entry.2.find? (·.1 == first)).map (·.2)

/-- Only the first part of a composite can be a composite again, and no composite has more than
four parts. -/
def takeApart : Nat → Nat → List Nat
  | 0, code => [code]
  | fuel + 1, code =>
    match split? code with
    | some (first, second) => takeApart fuel first ++ [second]
    | none => [code]

/-- Puts a mark in front of the marks of a higher class at the end. The list has its last character
first. -/
def place (code : Nat) : List Nat → List Nat
  | [] => [code]
  | last :: front =>
    if combiningClass code != 0 && combiningClass code < combiningClass last then
      last :: place code front
    else code :: last :: front

def decompose (codes : List Nat) : List Nat :=
  ((codes.flatMap (takeApart 4)).foldl (fun front code => place code front) []).reverse

/-- A text being composed. `front` is finished, `marks` are those behind `starter` that did not join
it; both have their last character first. -/
structure Composing where
  front : List Nat := []
  starter : Option Nat := none
  marks : List Nat := []

/-- A character joins the starter unless one of the same or a higher class, or of class zero, stands
in between. -/
def Composing.add (state : Composing) (code : Nat) : Composing :=
  let startsAnew := combiningClass code == 0
  match state.starter with
  | none =>
    if startsAnew then { state with starter := some code }
    else { state with front := code :: state.front }
  | some starter =>
    let isFree :=
      match state.marks with
      | [] => true
      | last :: _ => combiningClass last < combiningClass code
    match if isFree then join? starter code else none with
    | some whole => { state with starter := some whole }
    | none =>
      if startsAnew then ⟨state.marks ++ starter :: state.front, some code, []⟩
      else { state with marks := code :: state.marks }

def compose (codes : List Nat) : List Nat :=
  let last := codes.foldl Composing.add {}
  (last.marks ++ last.starter.toList ++ last.front).reverse

def isComposed (codes : List Nat) : Bool :=
  !codes.any (inRanges replaced) && compose (decompose codes) == codes

end KqlCompletion.Text.Composition
