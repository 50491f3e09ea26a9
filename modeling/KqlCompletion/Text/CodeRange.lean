/-! Sets of characters, given by their code points as ranges in ascending order. -/
namespace KqlCompletion.Text

/-- The first and the last code point of a range. -/
abbrev CodeRange := Nat × Nat

def inRanges (ranges : List CodeRange) (code : Nat) : Bool :=
  ranges.any fun range => range.1 ≤ code && code ≤ range.2

/-- Every `stride`-th code point from `first` to `last`. -/
structure CodeRun where
  first : Nat
  last : Nat
  stride : Nat

def CodeRun.covers (run : CodeRun) (code : Nat) : Bool :=
  run.first ≤ code && code ≤ run.last && (code - run.first) % run.stride == 0

end KqlCompletion.Text
