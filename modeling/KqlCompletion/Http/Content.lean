import KqlCompletion.Api.Message
import KqlCompletion.Http.Message
import KqlCompletion.Json.Reader

/-! Request bodies. A body is read as JSON if its content type says so, and stays text otherwise;
reading it can fail before any validation. -/
namespace KqlCompletion.Http

open Json (Value Members)
open Validation (Issue Rule Step Checked)

/-- `application/json`, or any type of applications that ends in `+json`. -/
def isJsonType (contentType : String) : Bool :=
  let written := String.ofList (contentType.toList.takeWhile (· != ';'))
  match (Text.strip (Text.lower written)).splitOn (.char '/') with
  | [kind, subtype] =>
    kind == Text.of "application" &&
      (subtype == Text.of "json" || (Text.of "+json").isSuffixOf subtype)
  | _ => false

inductive Content where
  | absent
  | json (value : Value)
  | raw (bytes : List UInt8)

/-- Why there is no content: the text is no JSON, or it could not even be read as a text. -/
inductive ContentFault where
  | malformed (complaint : Json.Complaint) (position : Nat)
  | unreadable
  deriving DecidableEq, Repr

def Request.content (request : Request) : Except ContentFault Content :=
  if request.body.isEmpty then .ok .absent
  else if (request.header? "content-type").any isJsonType then
    match Json.ofBytes request.body with
    | .ok value => .ok (.json value)
    | .error (.malformed complaint place) => .error (.malformed complaint place.position)
    | .error _ => .error .unreadable
  else .ok (.raw request.body)

mutual

/-- JSON has no way to write numbers that are not finite, and no bytes stand for half of a surrogate
pair. -/
def isWritable : Value → Bool
  | .float .nan | .float (.infinite _) => false
  | .str text => text.isSound
  | .arr items => areWritable items
  | .obj members => membersWritable members
  | _ => true

def areWritable : List Value → Bool
  | [] => true
  | v :: items => isWritable v && areWritable items

def membersWritable : List (Text × Value) → Bool
  | [] => true
  | (name, v) :: members => name.isSound && isWritable v && membersWritable members

end

def hiddenStart : Text := "_sa"

mutual

def echo : Value → Value
  | .arr items => .arr (echoItems items)
  | .obj members => .obj (echoMembers members)
  | v => v

def echoItems : List Value → List Value
  | [] => []
  | v :: items => echo v :: echoItems items

def echoMembers : List (Text × Value) → List (Text × Value)
  | [] => []
  | (name, v) :: members =>
    if hiddenStart.isPrefixOf name then echoMembers members
    else (name, echo v) :: echoMembers members

end

def issueJson (issue : Issue) : Value :=
  .obj [("type", .str issue.rule.code),
    ("loc", .arr (.str "body" :: issue.path.map Step.toJson)),
    ("msg", .str issue.rule.message), ("input", issue.input)]

/-- What a refused body is answered with; a body that cannot be echoed has no answer. -/
inductive Refusal where
  | issues (issues : List Issue)
  | noEcho

/-- Issues are shown together with the values they are about. -/
def refuse (issues : List Issue) : Refusal :=
  let shown := issues.map fun issue => { issue with input := echo issue.input }
  if shown.all fun issue => isWritable (issueJson issue) then .issues shown else .noEcho

def Content.members : Content → Except Refusal Members
  | .absent => .error (refuse [⟨[], .missing, .null⟩])
  | .json value => (Validation.members .modelAttributes value).mapError refuse
  | .raw bytes =>
    match Text.Utf8.decode bytes with
    | .ok text => .error (refuse [⟨[], .modelAttributes, .str text⟩])
    | .error _ => .error .noEcho

def Content.check (content : Content) (ofFields : Members → Checked α) : Except Refusal α := do
  (ofFields (← content.members)).mapError refuse

/-- An answer that cannot be written is none. -/
def Response.json? (status : Nat) (value : Value) : Option Response :=
  if isWritable value then some (.json status value) else none

def Response.unprocessable (issues : List Value) : Response :=
  .json 422 (.obj [("detail", .arr issues)])

def ContentFault.response : ContentFault → Response
  | .malformed complaint position =>
    .unprocessable [.obj [("type", .str "json_invalid"),
      ("loc", .arr [.str "body", .int position]), ("msg", .str "JSON decode error"),
      ("input", .obj []), ("ctx", .obj [("error", .str complaint.message)])]]
  | .unreadable => .detail 400 "There was an error parsing the body"

end KqlCompletion.Http
