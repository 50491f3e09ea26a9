import KqlCompletion.Flate.Reader

/-! Prefix codes, given by the lengths of their code words alone: shorter words come first, and
words of one length come in the order of their symbols. -/
namespace KqlCompletion.Flate

/-- `counts` has the number of words of each length from one on, and `symbols` the symbols in the
order of their words. -/
structure Code where
  counts : List Nat
  symbols : Array Nat

namespace Code

/-- The lengths of the words of the symbols from zero on; a length of zero is no word. A code
without words still takes a bit to find that out. -/
def ofLengths (lengths : List Nat) : Code :=
  let greatest := max 1 (lengths.foldl max 0)
  let ofLength (length : Nat) : List Nat :=
    lengths.zipIdx.filterMap fun entry => if entry.1 == length then some entry.2 else none
  let groups := (List.range greatest).map fun i => ofLength (i + 1)
  ⟨groups.map List.length, groups.flatten.toArray⟩

def free (code : Code) : Int := 
  code.counts.foldl (fun (free : Int) (count : Nat) => 2 * free - count) 1

/-- All words are in use, or there are none. -/
def isComplete (code : Code) : Bool := code.symbols.isEmpty || code.free == 0

/-- A code with a single word of one bit will do, too. -/
def isUsable (code : Code) : Bool :=
  code.isComplete || (0 < code.free && code.counts.length == 1)

/-- `first` is the first word of the length reached, `passed` the number of shorter words. -/
def symbolFrom (symbols : Array Nat) (word first passed : Nat) : List Nat → Reader (Option Nat)
  | [] => return none
  | count :: counts => do
    let word := word + (← bit).toNat
    if word < first + count then return symbols[passed + (word - first)]?
    symbolFrom symbols (2 * word) (2 * (first + count)) (passed + count) counts

def symbol (code : Code) : Reader (Option Nat) := symbolFrom code.symbols 0 0 0 code.counts

end Code
end KqlCompletion.Flate
