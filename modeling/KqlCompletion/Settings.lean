import KqlCompletion.Json.Reader
import KqlCompletion.SchemaService.Exchange
import KqlCompletion.Settings.Options
import KqlCompletion.Validation.Scalar

/-! Settings of the service, read from environment variables. Composite settings are written as
JSON; JSON null leaves a setting at its default. -/
namespace KqlCompletion

open Json (Value Members)
open Number (Binary64)
open Validation

/-- The schema service: its base address, without trailing slashes, and a timeout in seconds. -/
structure SchemaApiSettings where
  url : String := "http://localhost:7071/api"
  timeout : Binary64 := Binary64.ofDecimal false 10 0
  deriving DecidableEq, Repr

structure Settings where
  appEnv : String := "development"
  schemaApi : SchemaApiSettings := {}
  corsOrigins : List Text := ["http://localhost:5173"]
  logLevel : String := "INFO"
  metricsEnabled : Bool := true
  maxEngines : Int := 100
  deriving DecidableEq, Repr

inductive SettingsError where
  | unreadable (field : String)
  | tooDeep
  | misused (misuse : Settings.Misuse)
  | invalid (issues : List Issue)
  deriving Repr

def SettingsError.unreadableMessage (field : String) : String :=
  "error parsing value for field \"" ++ field ++ "\" from source \"EnvSettingsSource\""

namespace Environment

def json? (env : Environment) (name : String) : Except SettingsError Members :=
  match env.get? name with
  | none => .ok []
  | some text =>
    match Json.ofText text with
    | .ok .null => .ok []
    | .ok v => .ok [(.of name, v)]
    | .error (.limit .depth) => .error .tooDeep
    | .error _ => .error (.unreadable name)

end Environment

namespace SchemaApiSettings

def fieldNames : List String := ["schema_api_url", "schema_request_timeout"]

def ofFields (fields : Members) : Checked SchemaApiSettings :=
  let defaults : SchemaApiSettings := {}
  Checked.map3 (fun url timeout _ =>
      ⟨url.elim defaults.url SchemaService.withoutTrailingSlashes, timeout.getD defaults.timeout⟩)
    (given fields "schema_api_url" string) (given fields "schema_request_timeout" number)
    (closed fields (fieldNames.map .of))

/-- The name of a field for that name in any letter case; other names are kept. -/
def canonicalName (name : Text) : Text :=
  if (fieldNames.map .of).contains (Text.lower name) then Text.lower name else name

/-- Of members with one canonical name, the last counts. -/
def canonicalMembers (members : Members) : Members :=
  members.foldl (fun canonical member => canonical.insert (canonicalName member.1) member.2) []

/-- What the command line gives comes first, then the members themselves, and a field that both
leave out is taken from the environment. -/
def ofJson (env : Environment) (v : Value) : Checked SchemaApiSettings := do
  let members := canonicalMembers (← members (.model "SchemaApiSettings") v)
  match Settings.Options.ofMembers fieldNames members with
  | .error (.refused message) => Checked.fail (.custom message) v
  | .error (.misused misuse) => Checked.fail (.custom misuse.message) v
  | .error (.invalid issues) => .error issues
  | .ok none => ofFields []
  | .ok (some options) =>
    let own : Members := members.filter fun member => !Settings.Options.names.contains member.1
    let fields := options.given.foldl (fun fields member => fields.insert member.1 member.2) own
    let others := (env.fields options.lookup fieldNames).filter fun member =>
      (fields.get? member.1).isNone
    ofFields (fields ++ others)

def misuse? : Value → Option Settings.Misuse
  | .obj members =>
    match Settings.Options.ofMembers fieldNames members with
    | .error (.misused misuse) => some misuse
    | _ => none
  | _ => none

def ofEnvironment (env : Environment) : Except SettingsError SchemaApiSettings :=
  (ofFields (env.fields {} fieldNames)).mapError .invalid

def timeoutJson (timeout : Binary64) : Value :=
  match timeout with
  | .finite .. => .float timeout
  | _ => .str (timeout.write "NaN" "Infinity")

def toJson (settings : SchemaApiSettings) : Value :=
  .obj [("schema_api_url", .str settings.url),
    ("schema_request_timeout", timeoutJson settings.timeout)]

end SchemaApiSettings

namespace Settings

/-- Origins are a list of strings, or a string that holds the JSON of one. -/
def corsOriginsOfJson (v : Value) : Checked (List Text) :=
  match v with
  | .str written =>
    match Json.ofText written with
    | .ok inner => list text inner
    | .error failure => Checked.fail (.custom failure.message) v
  | _ => list text v

def ofFields (env : Environment) (fields : Members) : Checked Settings :=
  let defaults : Settings := {}
  let strings := Checked.map3 (fun appEnv schemaApi corsOrigins => (appEnv, schemaApi, corsOrigins))
    (given fields "app_env" string) (given fields "schema_api" (SchemaApiSettings.ofJson env))
    (given fields "cors_origins" corsOriginsOfJson)
  Checked.map4 (fun strings logLevel metricsEnabled maxEngines => {
      appEnv := strings.1.getD defaults.appEnv
      schemaApi := strings.2.1.getD defaults.schemaApi
      corsOrigins := strings.2.2.getD defaults.corsOrigins
      logLevel := logLevel.getD defaults.logLevel
      metricsEnabled := metricsEnabled.getD defaults.metricsEnabled
      maxEngines := maxEngines.getD defaults.maxEngines })
    strings (given fields "log_level" string) (given fields "metrics_enabled" boolean)
    (given fields "max_engines" integer)

/-- A member is a string that holds JSON nested too deep, which is no issue of the value but ends
the reading. -/
def holdsTooDeep (fields : Members) : Bool :=
  fields.any fun member =>
    match member.2.str?.map Json.ofText with
    | some (.error (.limit .depth)) => true
    | _ => false

/-- The JSON of every composite is read before any field is checked. What ends the reading counts in
the order of the fields. -/
def ofEnvironment (env : Environment) : Except SettingsError Settings := do
  let schemaApi ← env.json? "schema_api"
  let corsOrigins ← env.json? "cors_origins"
  if let some misuse := (schemaApi.get? "schema_api").bind SchemaApiSettings.misuse? then
    throw (.misused misuse)
  if holdsTooDeep corsOrigins then throw .tooDeep
  let plain := env.fields {} ["app_env", "log_level", "metrics_enabled", "max_engines"]
  (ofFields env (schemaApi ++ corsOrigins ++ plain)).mapError .invalid

def toJson (settings : Settings) : Value :=
  .obj [("app_env", .str settings.appEnv), ("schema_api", settings.schemaApi.toJson),
    ("cors_origins", .arr (settings.corsOrigins.map .str)), ("log_level", .str settings.logLevel),
    ("metrics_enabled", .bool settings.metricsEnabled), ("max_engines", .int settings.maxEngines)]

end Settings
end KqlCompletion
