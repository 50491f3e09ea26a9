import KqlCompletion.Json.Reader
import KqlCompletion.Schema.Format
import KqlCompletion.Text.Ascii
import KqlCompletion.Text.Base64
import KqlCompletion.SchemaService.Coding
import KqlCompletion.SchemaService.Exchange
import KqlCompletion.SchemaService.Status
import KqlCompletion.Url.Reference

/-! One load of a schema: what is asked of the schema service, and what an answer means. The checks
come in a fixed order (address, token, transport, headers, codings, redirect, status, JSON, schema),
and the first that fails names the error. A host name that decodes to none, a redirect to what
stands in wrong brackets, a failure that has nothing to do with the request, or a body beyond the
limits of JSON reading is no failed load: it breaks the load off. -/
namespace KqlCompletion.SchemaService

open Text (isAscii)

inductive LoadError where
  | address (fault : Url.Fault)
  | headerText
  | transport (kind message : String)
  | coding (fault : Flate.Fault)
  | redirect (fault : Url.Fault)
  | status (status : Nat) (url : String) (location : Option String)
  | encoding (error : Text.DecodeError)
  | notJson (complaint : Json.Complaint) (place : Json.Place)
  | notASchema (issues : Nat)
  deriving DecidableEq, Repr

namespace LoadError

def statusMessage (status : Nat) (url : String) (location : Option String) : String :=
  Status.kind status ++ " '" ++ toString status ++ " " ++ Status.phrase status ++ "' for url '" ++
    url ++ "'\n" ++ location.elim "" (fun place => "Redirect location: '" ++ place ++ "'\n") ++
    "For more information check: https://developer.mozilla.org/en-US/docs/Web/HTTP/Status/" ++
    toString status

def message : LoadError → String
  | address fault => "InvalidURL: " ++ fault.message
  | headerText => "invalid token: header values must be ASCII"
  | transport kind text => kind ++ ": " ++ text
  | coding fault => "DecodingError: " ++ fault.message
  | redirect fault => "RemoteProtocolError: " ++ (Url.Unreachable.malformed fault).message
  | status code url location => "HTTPStatusError: " ++ statusMessage code url location
  | encoding error => "invalid JSON: " ++ error.message
  | notJson complaint place => "invalid JSON: " ++ Json.malformedMessage complaint place
  | notASchema issues => "malformed schema body: " ++ toString issues ++ " error(s)"

end LoadError

/-- The workspace is one path segment, so its slashes, question marks and hashes are encoded. -/
def schemaAddress (apiUrl workspace : String) : String :=
  withoutTrailingSlashes apiUrl ++ "/workspaces/" ++
    String.ofList (Text.Percent.encode Text.Percent.isUnreserved workspace.toList) ++ "/schema"

/-- User information in the address takes the place of the token. -/
def authorization (url : Url) (token : Text) : String :=
  let user := url.userinfo.toList.takeWhile (· != ':')
  let password := (url.userinfo.toList.dropWhile (· != ':')).drop 1
  if user.isEmpty && password.isEmpty then "Bearer " ++ token.shown
  else
    let plain (part : List Char) : List UInt8 := Text.Utf8.encode (Text.Percent.decode part)
    "Basic " ++ String.ofList (Text.Base64.encode (plain user ++ 0x3A :: plain password))

/-- What is asked, and where. Nothing is asked if the address or the token is refused; host and
token are headers, which have to be ASCII. -/
def request (apiUrl workspace : String) (token : Text) : Except LoadError (Url × Request) :=
  match Url.parse (schemaAddress apiUrl workspace) with
  | .error fault => .error (.address fault)
  | .ok url =>
    if isAscii token && isAscii url.hostText then .ok (url, ⟨url.text, authorization url token⟩)
    else .error .headerText

inductive Interruption where
  | json (limit : Json.Limit)
  | hostName (fault : Url.NameFault)
  | brackets (fault : Url.BracketFault)
  | transport (kind message : String)
  deriving DecidableEq, Repr

inductive Outcome where
  | loaded (schema : Schema)
  | failed (error : LoadError)
  | brokenOff (cause : Interruption)
  deriving DecidableEq, Repr

def judgeBody (body : List UInt8) : Outcome :=
  match Json.ofBytes body with
  | .error (.encoding error) => .failed (.encoding error)
  | .error (.malformed complaint place) => .failed (.notJson complaint place)
  | .error (.limit limit) => .brokenOff (.json limit)
  | .ok value =>
    match Schema.ofJson value with
    | .ok schema => .loaded schema
    | .error issues => .failed (.notASchema issues.length)

/-- A redirect names another place; no other answer does. -/
def redirectPlace? (status : Nat) (headers : List (String × String)) : Option String :=
  if Status.isRedirect status then header? headers "location" else none

def unreachable : Url.Unreachable → Outcome
  | .malformed fault => .failed (.redirect fault)
  | .noAddress fault => .failed (.address fault)
  | .brackets fault => .brokenOff (.brackets fault)
  | .hostName fault => .brokenOff (.hostName fault)

def judgeStatus (asked : Url) (status : Nat) (headers : List (String × String))
    (body : List UInt8) : Outcome :=
  let place := redirectPlace? status headers
  match place.map asked.follow with
  | some (.error fault) => unreachable fault
  | _ =>
    if Status.isSuccess status then judgeBody body
    else .failed (.status status asked.text place)

/-- Failures of the transport that are no failures of a request. Any other kind is taken for one. -/
def isForeign (kind : String) : Bool :=
  ["StreamError", "StreamConsumed", "StreamClosed", "ResponseNotRead", "RequestNotRead",
    "CookieConflict"].contains kind

/-- What an answer means. Redirects are not followed, but the place they name has to be an
address. -/
def judge (asked : Url) : Answer → Outcome
  | .failure kind message =>
    if isForeign kind then .brokenOff (.transport kind message)
    else .failed (.transport kind message)
  | .response status headers body =>
    if headers.all fun header => isAscii header.1 && isAscii header.2 then
      match decodeBody headers body with
      | .error fault => .failed (.coding fault)
      | .ok body => judgeStatus asked status headers body
    else .failed .headerText

/-- Prepares a load and, if a request can be sent, judges its answer; also gives that request. The
answer is one for every token. A transport of its own would refuse a token with control characters,
and quote it in the message of that failure. -/
def load (apiUrl workspace : String) (token : Text) (answer : Answer) :
    Option Request × Outcome :=
  match request apiUrl workspace token with
  | .error error => (none, .failed error)
  | .ok (asked, request) =>
    match asked.shownHost with
    | .error fault => (none, .brokenOff (.hostName fault))
    | .ok _ => (some request, judge asked answer)

end KqlCompletion.SchemaService
