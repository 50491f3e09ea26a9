/-! Labels of host names in ASCII (Punycode): the ASCII characters of a label, and the other ones as
a series of distances in digits of varying weight. Labels are lists of code points. -/
namespace KqlCompletion.Url.Punycode

def digit (d : Nat) : Char := if d < 26 then Char.ofNat (97 + d) else Char.ofNat (22 + d)

def digitValue? (c : Char) : Option Nat :=
  if c.isLower then some (c.toNat - 97) else if c.isDigit then some (c.toNat - 22) else none

def threshold (k bias : Nat) : Nat :=
  if k ≤ bias then 1 else if bias + 26 ≤ k then 26 else k - bias

/-- Every digit but the last takes at least a 36th of the number away, so `fuel` need not exceed
the number. -/
def digits (bias : Nat) : Nat → Nat → Nat → List Char
  | 0, _, _ => []
  | fuel + 1, k, n =>
    let t := threshold k bias
    if n < t then [digit n]
    else digit (t + (n - t) % (36 - t)) :: digits bias fuel (k + 36) ((n - t) / (36 - t))

/-- Reads a number on; `value` has been read and the next digit counts `weight`. -/
def number? (bias : Nat) : Nat → Nat → Nat → List Char → Option (Nat × List Char)
  | _, _, _, [] => none
  | k, value, weight, c :: text =>
    match digitValue? c with
    | none => none
    | some d =>
      let value := value + d * weight
      let t := threshold k bias
      if d < t then some (value, text) else number? bias (k + 36) value (weight * (36 - t)) text

theorem length_of_number? {bias k value weight n : Nat} {text rest : List Char}
    (h : number? bias k value weight text = some (n, rest)) : rest.length < text.length := by
  fun_induction number? bias k value weight text with
  | case1 => simp at h
  | case2 => simp at h
  | case3 k value weight c text d digit value' t ends => simp_all
  | case4 k value weight c text d digit value' t goesOn ih => exact Nat.lt_succ_of_lt (ih h)

def adaptLoop : Nat → Nat → Nat → Nat
  | 0, k, _ => k
  | fuel + 1, k, delta =>
    if 455 < delta then adaptLoop fuel (k + 36) (delta / 35) else k + 36 * delta / (delta + 38)

/-- The bias that suits the next distance, after one of `delta` to the character with which the
label has `count`. -/
def adapt (delta count : Nat) (first : Bool) : Nat :=
  let delta := if first then delta / 700 else delta / 2
  let delta := delta + delta / count
  adaptLoop (delta + 1) 0 delta

structure State where
  output : List Char
  delta : Nat
  bias : Nat
  handled : Nat

/-- One character of the label while all characters with code `code` are put in their places. -/
def visit (basic code : Nat) (state : State) (c : Nat) : State :=
  if c < code then { state with delta := state.delta + 1 }
  else if c == code then
    { output := state.output ++ digits state.bias (state.delta + 1) 36 state.delta
      delta := 0
      bias := adapt state.delta (state.handled + 1) (state.handled == basic)
      handled := state.handled + 1 }
  else state

/-- The codes come in ascending order; `next` is the least code not yet handled. -/
def rounds (label : List Nat) (basic : Nat) : Nat → List Nat → State → State
  | _, [], state => state
  | next, code :: codes, state =>
    let state := { state with delta := state.delta + (code - next) * (state.handled + 1) }
    let state := label.foldl (visit basic code) state
    rounds label basic (code + 1) codes { state with delta := state.delta + 1 }

def insertCode (code : Nat) : List Nat → List Nat
  | [] => [code]
  | other :: codes =>
    if code < other then code :: other :: codes
    else if code == other then other :: codes
    else other :: insertCode code codes

def encode (label : List Nat) : List Char :=
  let basic := (label.filter (· < 0x80)).map Char.ofNat
  let codes := (label.filter (0x80 ≤ ·)).foldr insertCode []
  let start : State := ⟨basic ++ (if basic.isEmpty then [] else ['-']), 0, 72, basic.length⟩
  (rounds label basic.length 0x80 codes start).output

/-- Inserts one character for each number of a text. The next one has code `code` if it stands at
`position` or behind it; every run through the label on the way raises the code by one. -/
def insertAll (first : Bool) (code position bias : Nat) (label : List Nat) (text : List Char) :
    Option (List Nat) :=
  if text.isEmpty then some label
  else
    match _h : number? bias 36 0 1 text with
    | none => none
    | some (delta, rest) =>
      let count := label.length + 1
      let code := code + (position + delta) / count
      let place := (position + delta) % count
      if 0x10FFFF < code then none
      else
        insertAll false code (place + 1) (adapt delta count first)
          (label.take place ++ code :: label.drop place) rest
termination_by text.length
decreasing_by exact length_of_number? _h

/-- The last hyphen ends the ASCII characters. -/
def decode? (text : List Char) : Option (List Nat) :=
  let numbers := (text.reverse.takeWhile (· != '-')).reverse
  let basic := text.take (text.length - numbers.length - 1)
  insertAll true 0x80 0 72 (basic.map Char.toNat) numbers

end KqlCompletion.Url.Punycode
