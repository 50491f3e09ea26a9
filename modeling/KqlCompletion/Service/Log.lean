import KqlCompletion.Json.Value
import KqlCompletion.SchemaService.Load
import KqlCompletion.Text.LetterCase.Upper
import KqlCompletion.Text.Quoted

/-! What the service reports about its work, as structured log entries. -/
namespace KqlCompletion

open Json (Value Members)

namespace Log

inductive Level where
  | debug
  | info
  | warning
  | error
  | critical
  deriving DecidableEq, Repr

def Level.rank : Level → Nat
  | .debug => 10
  | .info => 20
  | .warning => 30
  | .error => 40
  | .critical => 50

def Level.name : Level → String
  | .debug => "debug"
  | .info => "info"
  | .warning => "warning"
  | .error => "error"
  | .critical => "critical"

/-- A level by its name in any letter case. Some levels have a second name, and to set no level is
to let everything through. -/
def Level.ofName? (name : String) : Option Level :=
  match Text.upper name with
  | "NOTSET" | "DEBUG" => some .debug
  | "INFO" => some .info
  | "WARNING" | "WARN" => some .warning
  | "ERROR" => some .error
  | "CRITICAL" | "FATAL" => some .critical
  | _ => none

def Level.unknownMessage (name : String) : String :=
  "Unknown level: " ++ Text.quoted (Text.upper name)

inductive Event where
  | startup (schemaApiUrl : String) (maxEngines : Int)
  | shutdown (engines : Nat)
  | schemaLoaded (workspace : String) (tables : Nat)
  | schemaLoadFailed (workspace : String) (error : SchemaService.LoadError) (keptPrevious : Bool)
  | engineEvicted (workspace : String)
  | requestCompleted (method path : String) (status : Nat)
  deriving DecidableEq, Repr

namespace Event

/-- Completed requests are frequent, so only refused ones are worth more than debugging. -/
def level : Event → Level
  | schemaLoadFailed .. => .warning
  | requestCompleted _ _ status => if 400 ≤ status then .info else .debug
  | _ => .info

def name : Event → String
  | startup .. => "startup"
  | shutdown .. => "shutdown"
  | schemaLoaded .. => "schema_loaded"
  | schemaLoadFailed .. => "schema_load_failed"
  | engineEvicted .. => "engine_evicted"
  | requestCompleted .. => "request_completed"

def logger : Event → String
  | startup .. | shutdown .. => "kql_intellisense.main"
  | schemaLoaded .. | schemaLoadFailed .. => "kql_intellisense.services.suggestion_engine"
  | engineEvicted .. => "kql_intellisense.services.engine_registry"
  | requestCompleted .. => "kql_intellisense.http"

def fields : Event → Members
  | startup url engines => [("schema_api_url", .str url), ("max_engines", .int engines)]
  | shutdown engines => [("engines", .int engines)]
  | schemaLoaded workspace tables =>
    [("workspace_id", .str workspace), ("table_count", .int tables)]
  | schemaLoadFailed workspace error kept =>
    [("workspace_id", .str workspace), ("error", .str error.message), ("kept_previous", .bool kept)]
  | engineEvicted workspace => [("workspace_id", .str workspace)]
  | requestCompleted method path status =>
    [("method", .str method), ("path", .str path), ("status", .int status)]

end Event

structure Scope where
  requestId : Option String := none
  workspace : Option String := none
  deriving DecidableEq, Repr

def Scope.cleared (_ : Scope) : Scope := {}

def Scope.bindRequest (id : String) (scope : Scope) : Scope := { scope with requestId := some id }

def Scope.bindWorkspace (workspace : String) (scope : Scope) : Scope :=
  { scope with workspace := some workspace }

def Scope.fields (scope : Scope) : Members :=
  let requestId : Members := scope.requestId.elim [] fun id => [("request_id", .str id)]
  let workspace : Members := scope.workspace.elim [] fun id => [("workspace_id", .str id)]
  requestId ++ workspace

structure Entry where
  scope : Scope
  event : Event
  deriving DecidableEq, Repr

/-- The event's own fields come before those of its scope. -/
def Entry.fields (entry : Entry) : Members :=
  entry.event.fields.foldl (fun fields field => fields.insert field.1 field.2) entry.scope.fields

def Entry.toJson (entry : Entry) : Value :=
  .obj (("event", .str entry.event.name) :: ("level", .str entry.event.level.name) ::
    ("logger", .str entry.event.logger) :: entry.fields)

def atLeast (level : Level) (entries : List Entry) : List Entry :=
  entries.filter fun entry => level.rank ≤ entry.event.level.rank

end Log
end KqlCompletion
