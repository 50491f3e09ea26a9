import KqlCompletion.Json.Value
import KqlCompletion.Number.Literal

/-! Lists on a command line, joined to one text. Every item is read as a list of its own, with or
without brackets around it, so that items which hold commas come apart. -/
namespace KqlCompletion.CommandLine.ListText

open Json (Value)

inductive Fault where
  | openQuotes
  | openBrackets (closing : Char)
  deriving DecidableEq, Repr

def Fault.message : Fault → String
  | .openQuotes => "Mismatched quotes"
  | .openBrackets closing => "Missing end delimiter \"" ++ closing.toString ++ "\""

def isBlank (c : Char) : Bool := Text.isBlank c

/-- A quotation mark behind a backslash neither opens nor closes quotes. -/
def isQuote (escaped : Bool) (c : Char) : Bool := c == '"' && !escaped

/-- A word, and the rest from the first comma outside quotes. All quotes have to be closed. -/
def word? (quoted escaped : Bool) : List Char → Option (List Char × List Char)
  | [] => if quoted then none else some ([], [])
  | c :: text =>
    let quoted := quoted != isQuote escaped c
    if c == ',' && !quoted then some ([], c :: text)
    else (word? quoted (c == '\\') text).map fun (word, rest) => (c :: word, rest)

theorem word?_append {quoted escaped : Bool} {text word rest : List Char}
    (found : word? quoted escaped text = some (word, rest)) : word ++ rest = text := by
  induction text generalizing quoted escaped word with
  | nil =>
    cases quoted <;> simp [word?] at found
    simp [found]
  | cons c text ih =>
    simp only [word?] at found
    split at found
    · simp_all
    · simp only [Option.map_eq_some_iff, Prod.exists, Prod.mk.injEq] at found
      obtain ⟨tail, rest', inner, rfl, rfl⟩ := found
      simp [ih inner]

/-- How many brackets are opened at a character. Both kinds count alike, and none in quotes. -/
def opened (quoted : Bool) (c : Char) : Int :=
  if quoted then 0
  else if c == '{' || c == '[' then 1
  else if c == '}' || c == ']' then -1
  else 0

/-- The text inside brackets with the one that closes them, and the rest. -/
def nested? (closing : Char) (depth : Int) (quoted escaped : Bool) :
    List Char → Option (List Char × List Char)
  | [] => none
  | c :: text =>
    let depth := depth + opened quoted c
    if !quoted && c == closing && depth == 0 then some ([c], text)
    else
      let quoted := quoted != isQuote escaped c
      (nested? closing depth quoted (c == '\\') text).map fun (inner, rest) => (c :: inner, rest)

theorem nested?_append {closing : Char} {depth : Int} {quoted escaped : Bool}
    {text inner rest : List Char}
    (found : nested? closing depth quoted escaped text = some (inner, rest)) :
    inner ++ rest = text := by
  induction text generalizing depth quoted escaped inner with
  | nil => simp [nested?] at found
  | cons c text ih =>
    simp only [nested?] at found
    split at found
    · simp only [Option.some.injEq, Prod.mk.injEq] at found
      obtain ⟨rfl, rfl⟩ := found
      rfl
    · simp only [Option.map_eq_some_iff, Prod.exists, Prod.mk.injEq] at found
      obtain ⟨tail, rest', deeper, rfl, rfl⟩ := found
      simp [ih deeper]

/-- Numbers and the words that JSON knows stay as they are, and so does what is in quotes. -/
def item (null : Option String) (word : List Char) : List Char :=
  let word := Text.trim isBlank word
  let known := if null == some (String.ofList word) then "null".toList else word
  if Number.isScriptNumber word then word
  else if ["true", "false", "null"].contains (String.ofList known) || known.head? == some '"' then
    known
  else '"' :: known ++ ['"']

/-- Items that are found, the last one first, and whether no comma is behind the last. -/
structure Found where
  items : List (List Char) := []
  afterItem : Bool := false

def Found.withItem (item : List Char) (found : Found) : Found := ⟨item :: found.items, true⟩

/-- A comma, or an end, that follows no item stands for an empty one. -/
def Found.withComma (found : Found) : Found :=
  ⟨if found.afterItem then found.items else ['"', '"'] :: found.items, false⟩

/-- Every step takes at least one character off the text. -/
def scan (null : Option String) : Nat → List Char → Found → Except Fault Found
  | 0, _, found => .ok found
  | fuel + 1, text, found =>
    match text.dropWhile isBlank with
    | [] => .ok found
    | c :: text =>
      if c == ',' then scan null fuel text found.withComma
      else if opened false c == 1 then
        let closing := if c == '{' then '}' else ']'
        match nested? closing 1 false false text with
        | some (inner, rest) => scan null fuel rest (found.withItem (c :: inner))
        | none => .error (.openBrackets closing)
      else
        match word? false false (c :: text) with
        | some (word, rest) => scan null fuel rest (found.withItem (item null word))
        | none => .error .openQuotes

def withText (null : Option String) (found : Found) (text : List Char) : Except Fault Found := do
  let text := Text.trim isBlank text
  let inBrackets := text.head? == some '[' && text.getLast? == some ']'
  let body := if inBrackets then Text.trim isBlank (text.drop 1).dropLast else text
  let found ← scan null body.length body found
  return if found.afterItem then found else found.withComma

/-- The items of a list in brackets, up to the first that is no text. -/
def write (null : Option String) (items : List Value) : Except Fault String := do
  let texts := (items.takeWhile (·.str?.isSome)).filterMap Value.string?
  let found ← texts.foldlM (fun found text => withText null found text.toList) {}
  return "[" ++ ",".intercalate (found.items.reverse.map String.ofList) ++ "]"

end KqlCompletion.CommandLine.ListText
