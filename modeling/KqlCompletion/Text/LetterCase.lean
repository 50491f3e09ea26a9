import KqlCompletion.Text.CodePoint
import KqlCompletion.Text.LetterCase.Table

/-! Full lowercase. Every character is mapped on its own, but for the capital sigma, whose
lowercase differs at the end of a word. Nothing is normalized: composed and decomposed forms of
one letter stay different. -/
namespace KqlCompletion.Text
namespace LetterCase

def isCased (c : CodePoint) : Bool := inRanges cased c.toNat
def isIgnorable (c : CodePoint) : Bool := inRanges ignorable c.toNat

def lowerChar (c : Char) : List Char :=
  if c.toNat < 0x80 then [c.toLower]
  else if c.toNat == 0x130 then ['i', '\u0307']
  else
    match runs.find? (·.covers c.toNat) with
    | none => [c]
    | some run => [run.image c]

/-- Half of a surrogate pair has no case. -/
def lowerPoint : CodePoint → Text
  | .char c => (lowerChar c).map .char
  | .half offset => [.half offset]

/-- The first character that is not case-ignorable is cased. -/
def meetsCased (text : Text) : Bool :=
  match text.dropWhile isIgnorable with
  | [] => false
  | c :: _ => isCased c

def capitalSigma : Char := '\u03A3'
def finalSigma : Char := '\u03C2'

/-- `before` is what stands in front of the text, last character first. A capital sigma is final
when, case-ignorable characters aside, a cased character precedes it and none follows. -/
def lowerAfter (before : Text) : Text → Text
  | [] => []
  | c :: text =>
    (if c == capitalSigma && meetsCased before && !meetsCased text then [.char finalSigma]
      else lowerPoint c) ++ lowerAfter (c :: before) text

end LetterCase

def lower (text : Text) : Text := LetterCase.lowerAfter [] text

end KqlCompletion.Text
