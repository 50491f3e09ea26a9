import KqlCompletion.Http.App
import KqlCompletion.Text.Ascii

/-! A client of the application. It completes the address of a request, names the host, and looks at
the place that a redirect names, but does not go there. What it cannot send the application never
sees. -/
namespace KqlCompletion.Http.Client

open SchemaService (Answer)

/-- What a client is asked to send. The target is a whole address, or one under the address of the
service. -/
structure Call where
  method : String
  target : String
  headers : List (String × String) := []
  body : List UInt8 := []
  deriving DecidableEq, Repr

inductive Fault where
  | address (fault : Url.Fault)
  | text (found : Text.BeyondAscii)
  | hostName (fault : Url.NameFault)
  | redirect (fault : Url.Unreachable)
  deriving DecidableEq, Repr

def Fault.message : Fault → String
  | .address fault => fault.message
  | .text found => found.message
  | .hostName fault => fault.message
  | .redirect fault => fault.message

/-- A target without a scheme or a host is taken for a path from the root of `service`. Whatever
else it has, but for its query, is dropped. -/
def address (service : Url) (target : String) : Except Fault Url := do
  let url ← (Url.parse target).mapError .address
  if url.scheme != "" && url.host != "" then return url
  let path := String.ofList ('/' :: url.path.toList.dropWhile (· == '/'))
  ({ service with path, query := url.query }.rebuild).mapError .address

def checkHeaders : List (String × String) → Except Fault Unit
  | [] => .ok ()
  | (name, value) :: headers => do
    (Text.checkAscii name).mapError .text
    (Text.checkAscii value).mapError .text
    checkHeaders headers

theorem mapError_ok {α ε ε' : Type} (f : ε → ε') (a : α) :
    (Except.ok a : Except ε α).mapError f = .ok a := rfl

theorem mapError_error {α ε ε' : Type} (f : ε → ε') (error : ε) :
    (Except.error error : Except ε α).mapError f = .error (f error) := rfl

theorem checkHeaders_eq_ok_iff {headers : List (String × String)} :
    checkHeaders headers = .ok () ↔
      ∀ header ∈ headers, Text.isAscii header.1 = true ∧ Text.isAscii header.2 = true := by
  induction headers with
  | nil => simp [checkHeaders]
  | cons header headers ih =>
    rw [List.forall_mem_cons, ← ih, ← Text.checkAscii_eq_ok_iff, ← Text.checkAscii_eq_ok_iff,
      checkHeaders]
    rcases Text.checkAscii header.1 with _ | _ <;> rcases Text.checkAscii header.2 with _ | _ <;>
      simp [mapError_ok, mapError_error, bind, Except.bind]

def withHost (url : Url) (headers : List (String × String)) :
    Except Fault (List (String × String)) := do
  if headers.any fun header => Text.asciiLower header.1 == "host" then return headers
  (Text.checkAscii url.hostText).mapError .text
  return ("host", url.hostText) :: headers

def prepare (service : Url) (call : Call) : Except Fault Request := do
  let url ← address service call.target
  checkHeaders call.headers
  let headers ← withHost url call.headers
  discard (url.shownHost.mapError .hostName)
  return { method := Text.upper call.method, url, headers, body := call.body }

/-- A redirect has to name a place that could be asked. -/
def checkRedirect (request : Request) (response : Response) : Except Fault Unit :=
  match SchemaService.redirectPlace? response.status response.headers with
  | none => .ok ()
  | some place => discard ((request.url.follow place).mapError .redirect)

/-- One call, as one step of the application. -/
def exchange (service : Url) (app : App) (fresh : String) (call : Call) (answer : Answer) :
    Except Fault (App × Response × Effects) := do
  let request ← prepare service call
  let (app, response, effects) := app.handle fresh request answer
  checkRedirect request response
  return (app, response, effects)

end KqlCompletion.Http.Client
