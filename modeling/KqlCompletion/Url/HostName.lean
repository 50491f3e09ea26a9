import KqlCompletion.Text.LetterCase
import KqlCompletion.Url.Label

/-! Host names beyond ASCII: labels between dots, of limited length. -/
namespace KqlCompletion.Url.HostName

/-- The ideographic and the wide full stop separate labels too. -/
def isDot (c : Char) : Bool := c == '.' || c == '\u3002' || c == '\uFF0E' || c == '\uFF61'

def labels (name : List Char) : List (List Char) × Bool :=
  let all := (name.map fun c => if isDot c then '.' else c).splitOn '.'
  if all.getLast? == some [] then (all.dropLast, true) else (all, false)

def lengthLimit : Nat := 253

/-- A dot behind the name does not count as a part of it. -/
def toAscii (name : String) : Except NameFault String := do
  if name == "" then throw .emptyName
  let (labels, dotted) := labels (Text.lower name).shown.toList
  let written ← labels.mapM Label.toAscii
  let text := ['.'].intercalate written
  if lengthLimit < text.length then throw .nameTooLong
  return String.ofList (text ++ if dotted then ['.'] else [])

def isEncoded (name : String) : Bool := Label.mark.isPrefixOf name.toList

/-- The name that a name in ASCII stands for. With the dot behind it, it may be longer by one. -/
def ofAscii (name : String) : Except NameFault String := do
  if lengthLimit + 1 < name.length then throw .nameTooLong
  let (labels, dotted) := labels name.toList
  let shown ← labels.mapM Label.ofAscii
  let text := (shown.map fun label => label.map Char.ofNat)
  return String.ofList (['.'].intercalate text ++ if dotted then ['.'] else [])

end KqlCompletion.Url.HostName
