import KqlCompletion.Text.Quoted

/-! Texts that have to be ASCII. -/
namespace KqlCompletion.Text

def isAscii (text : Text) : Bool := text.all (·.toNat < 0x80)

/-- Lowercases `A` to `Z` and keeps everything else. -/
def CodePoint.toLower : CodePoint → CodePoint
  | .char c => .char c.toLower
  | .half offset => .half offset

def asciiLower (text : Text) : Text := text.map (·.toLower)

structure BeyondAscii where
  position : Nat
  found : Text
  deriving DecidableEq, Repr

def BeyondAscii.message (beyond : BeyondAscii) : String :=
  let place :=
    match beyond.found with
    | [c] =>
      "character '" ++ String.ofList (escapeCode c.toNat) ++ "' in position " ++
        toString beyond.position
    | several =>
      "characters in position " ++ toString beyond.position ++ "-" ++
        toString (beyond.position + several.length - 1)
  "'ascii' codec can't encode " ++ place ++ ": ordinal not in range(128)"

def checkAscii (text : Text) : Except BeyondAscii Unit :=
  if isAscii text then .ok ()
  else
    let rest := text.dropWhile (·.toNat < 0x80)
    .error ⟨text.length - rest.length, rest.takeWhile (0x80 ≤ ·.toNat)⟩

theorem checkAscii_eq_ok_iff {text : Text} : checkAscii text = .ok () ↔ isAscii text = true := by
  simp [checkAscii]

end KqlCompletion.Text
