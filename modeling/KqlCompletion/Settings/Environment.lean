import KqlCompletion.Json.Value
import KqlCompletion.Text.LetterCase

/-! Variables of the environment and how they are looked up. Their names match in any letter case
unless a look-up asks for exactness. -/
namespace KqlCompletion

open Json (Value Members)

abbrev Environment := List (String × String)

/-- Rules of a look-up: what stands in front of every name, whether letter case matters, whether
empty values count as absent, and which value stands for null. -/
structure Lookup where
  front : String := ""
  exactCase : Bool := false
  skipsEmpty : Bool := false
  nullText : Option String := none
  deriving DecidableEq, Repr

namespace Environment

def matchesName (lookup : Lookup) (name written : String) : Bool :=
  if lookup.exactCase then written == lookup.front ++ name
  else Text.lower written == Text.lower (lookup.front ++ name)

/-- Of names that differ in case only, the last counts. -/
def find? (env : Environment) (lookup : Lookup) (name : String) : Option String :=
  (env.reverse.find? fun entry =>
    matchesName lookup name entry.1 && !(lookup.skipsEmpty && entry.2 == "")).map (·.2)

def get? (env : Environment) (name : String) : Option String := env.find? {} name

def fields (env : Environment) (lookup : Lookup) (names : List String) : Members :=
  names.filterMap fun name => (env.find? lookup name).map fun value =>
    (.of name, if lookup.nullText = some value then Value.null else .str value)

end Environment
end KqlCompletion
