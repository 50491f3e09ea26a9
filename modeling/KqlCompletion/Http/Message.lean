import KqlCompletion.Http.Host
import KqlCompletion.Json.Value

/-! HTTP requests and responses as the application sees them. -/
namespace KqlCompletion.Http

open Text (asciiLower)

/-- `url` is the whole address, as the client has it. -/
structure Request where
  method : String
  url : Url
  headers : List (String × String) := []
  body : List UInt8 := []
  deriving DecidableEq, Repr

/-- The first header of this name; names match in any letter case. -/
def Request.header? (request : Request) (name : String) : Option String :=
  (request.headers.find? fun header => asciiLower header.1 == name).map (·.2)

/-- The host that the service takes for its own if the client names none. A number that the address
leaves out is written as `None`, so no client can follow a redirect to there. -/
def ownHost (url : Url) : String :=
  let host := url.shownHost.toOption.getD url.host
  if url.portNumber.isSome && url.portNumber == Url.defaultPortNumber? url.scheme then host
  else host ++ ":" ++ url.portNumber.elim "None" toString

/-- The scheme and host that the service takes for its own. A client may name another host. -/
def Request.base (request : Request) : String :=
  let named := (request.header? "host").filter isHost
  request.url.scheme ++ "://" ++ named.getD (ownHost request.url)

/-- A path within an address: the characters that would end it are percent-encoded, and so are
backslashes. -/
def escapedPath (path : List Char) : List Char :=
  Text.Percent.encode (fun c => c != '?' && c != '#' && c != '\\') path

def Request.location (request : Request) : String × Option String :=
  let path := String.ofList (Text.Percent.decode request.url.path.toList)
  (if path == "" then "/" else path, request.url.query)

inductive Body where
  | empty
  | text (text : String)
  | json (value : Json.Value)
  | metrics (lines : List String)

structure Response where
  status : Nat
  headers : List (String × String)
  body : Body

def Response.withHeaders (headers : List (String × String)) (response : Response) : Response :=
  { response with headers := response.headers ++ headers }

def Response.json (status : Nat) (value : Json.Value) : Response :=
  ⟨status, [("content-type", "application/json")], .json value⟩

def Response.plain (status : Nat) (text : String) : Response :=
  ⟨status, [("content-type", "text/plain; charset=utf-8")], .text text⟩

def Response.detail (status : Nat) (reason : String) : Response :=
  .json status (.obj [("detail", .str reason)])

/-- A client may name its request with 1 to 64 letters, digits, dots, underscores and hyphens. -/
def isRequestId (id : String) : Bool :=
  let characters := id.toList
  !characters.isEmpty && characters.length ≤ 64 &&
    characters.all fun c => c.isAlphanum || c == '.' || c == '_' || c == '-'

/-- The client's name for its request, if it is one, or else a fresh one. -/
def requestId (fresh : String) (incoming : Option String) : String :=
  (incoming.filter isRequestId).getD fresh

end KqlCompletion.Http
