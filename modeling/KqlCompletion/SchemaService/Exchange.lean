import KqlCompletion.Text.Ascii
import KqlCompletion.Text.Blank

/-! What the service sends to the schema service and what comes back. -/
namespace KqlCompletion.SchemaService

structure Request where
  url : String
  authorization : String
  deriving DecidableEq, Repr

def withoutTrailingSlashes (address : String) : String :=
  String.ofList (Text.dropEnd (· == '/') address.toList)

def Request.method : String := "GET"

/-- An answer with a status, or a failure of the transport under the failure's own name. The headers
are texts, as a mocked transport gives them: they have to be ASCII for an answer to be made of them
at all, while a server sends bytes, which are not checked. -/
inductive Answer where
  | response (status : Nat) (headers : List (String × String)) (body : List UInt8)
  | failure (kind message : String)
  deriving DecidableEq, Repr

/-- All values of a header, joined; names match in any letter case. -/
def header? (headers : List (String × String)) (name : String) : Option String :=
  match (headers.filter fun header => Text.asciiLower header.1 == name).map (·.2) with
  | [] => none
  | values => some (", ".intercalate values)

end KqlCompletion.SchemaService
