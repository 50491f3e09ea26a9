import KqlCompletion.Text.CodePoint
import KqlCompletion.Text.Hex
import KqlCompletion.Text.Printable

/-! Text in quotes, as messages show it: one line, with everything unprintable escaped. -/
namespace KqlCompletion.Text

/-- Single quotes, unless the text has a single quote and no double quote. -/
def quoteFor (text : List Char) : Char :=
  if text.contains '\'' && !text.contains '"' then '"' else '\''

/-- Two, four or eight hexadecimal digits, the fewest that fit. -/
def escapeCode (n : Nat) : List Char :=
  if n < 0x100 then '\\' :: 'x' :: hexPadded 2 n
  else if n < 0x10000 then '\\' :: 'u' :: hexPadded 4 n
  else '\\' :: 'U' :: hexPadded 8 n

def escapeQuoted (quote c : Char) : List Char :=
  if c == quote || c == '\\' then ['\\', c]
  else if c == '\t' then ['\\', 't']
  else if c == '\n' then ['\\', 'n']
  else if c == '\r' then ['\\', 'r']
  else if isPrintable c then [c]
  else escapeCode c.toNat

/-- Quotes code points. Those that are no characters are escaped. -/
def quotedCodes (codes : List Nat) : String :=
  let quote := quoteFor (codes.map Char.ofNat)
  let escape (code : Nat) : List Char :=
    if code.isValidChar then escapeQuoted quote (Char.ofNat code) else escapeCode code
  String.ofList (quote :: codes.flatMap escape ++ [quote])

def quoted (text : Text) : String := quotedCodes (text.map (·.toNat))

end KqlCompletion.Text
