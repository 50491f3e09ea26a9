import KqlCompletion.Http.Content
import KqlCompletion.Http.Cors
import KqlCompletion.Http.Route
import KqlCompletion.Service.Basic
import KqlCompletion.Settings

/-! The application: completion for editors over HTTP. One request is one step of the state. Around
the routes stand, from the outside in: the answer to preflights, the headers for other origins, and
the observation of every request, which names it, logs it and counts it. -/
namespace KqlCompletion.Http

open Json (Value)
open Log (Event Entry Scope)
open SchemaService (Answer)

structure Traffic where
  requests : Tally (String × String × Nat) := []
  durations : Tally (String × String) := []
  deriving DecidableEq, Repr

def Traffic.observe (method path : String) (status : Nat) (traffic : Traffic) : Traffic :=
  ⟨traffic.requests.bump (method, path, status), traffic.durations.bump (method, path)⟩

open Exposition in
def Traffic.lines (traffic : Traffic) : List String :=
  family "http_requests_total"
      (fun label => [("method", label.1), ("path", label.2.1), ("status", toString label.2.2)])
      traffic.requests ++
    family "http_request_duration_seconds_count"
      (fun label => [("method", label.1), ("path", label.2)]) traffic.durations

/-- `bound` is what the log knows from the last request, if its handling was broken off: only a
request that is answered takes back what it has bound. -/
structure App where
  settings : Settings
  service : Service
  traffic : Traffic := {}
  bound : Scope := {}
  deriving DecidableEq, Repr

structure Effects where
  entries : List Entry := []
  requests : List SchemaService.Request := []
  deriving DecidableEq, Repr

/-- A handler's answer; none if the handling is broken off. -/
structure Handled where
  app : App
  response : Option Response
  effects : Effects := {}

namespace App

def version : String := "0.1.0"

/-- Fails if the store could not hold a single engine. -/
def start? (settings : Settings) : Option (App × List Event) :=
  (Store.ofCapacity? settings.maxEngines).map fun store =>
    ({ settings, service := { store } }, [.startup settings.schemaApi.url settings.maxEngines])

def stop (app : App) : List Event := [.shutdown app.service.store.size]

def metricLines (app : App) : List String :=
  Exposition.sorted
    (Exposition.line "app_info" [("env", app.settings.appEnv), ("version", version)] 1 ::
      app.service.metrics.lines ++ app.traffic.lines)

def answer (app : App) (response : Response) : Handled := ⟨app, some response, {}⟩

/-- What the log knows while a request of this name is handled, whatever it knew before. -/
def scope (app : App) (id : String) : Scope := app.bound.cleared.bindRequest id

@[simp] theorem scope_eq (app : App) (id : String) : app.scope id = ⟨some id, none⟩ := rfl

/-- What a handler does with an engine: the next state, what is logged, what is asked of the schema
service, and the answer; none if the handling is broken off. -/
abbrev EngineHandler :=
  EngineId → Service → Service × List Event × Option SchemaService.Request × Option Response

/-- Handles a request with the engine of a workspace. What is logged from here on in the handler
carries the workspace; whoever has called the handler does not get to know of it. -/
def withEngine (app : App) (scope : Scope) (workspace : String)
    (handler : EngineHandler) : Handled :=
  let scope := scope.bindWorkspace workspace
  let (service, id, evictions) := app.service.acquire workspace
  let (service, events, request, response) := handler id service
  ⟨{ app with service }, response, ⟨(evictions ++ events).map (⟨scope, ·⟩), request.toList⟩⟩

/-- A body is read before the engine is acquired and checked after it. -/
def withBody (app : App) (scope : Scope) (workspace : String) (request : Request)
    (ofFields : Json.Members → Validation.Checked α)
    (handler : α → EngineHandler) : Handled :=
  match request.content with
  | .error fault => app.answer fault.response
  | .ok content =>
    app.withEngine scope workspace fun id service =>
      match content.check ofFields with
      | .ok message => handler message id service
      | .error (.issues issues) =>
        (service, [], none, some (.unprocessable (issues.map issueJson)))
      | .error .noEcho => (service, [], none, none)

/-- A load that fails is no failure of the request: the answer tells how the load ended and how many
tables the workspace has now. -/
def loadSchema (app : App) (scope : Scope) (workspace : String) (request : Request)
    (answer : Answer) : Handled :=
  app.withBody scope workspace request Api.LoadRequest.ofFields fun message id service =>
    let (sent, outcome) :=
      SchemaService.load app.settings.schemaApi.url workspace message.token answer
    let (service, events) := service.completeLoad ⟨id, workspace⟩ outcome
    let report (loaded : Bool) : Response :=
      .json 200 (Api.LoadReport.toJson ⟨loaded, workspace, some (service.engine id).tableCount⟩)
    let response :=
      match outcome with
      | .loaded _ => some (report true)
      | .failed _ => some (report false)
      | .brokenOff _ => none
    (service, events, sent, response)

/-- A schema with a text that cannot be sent is held, but not shown. -/
def heldSchema (app : App) (scope : Scope) (workspace : String) : Handled :=
  app.withEngine scope workspace fun id service =>
    let response : Option Response :=
      match (service.engine id).schema with
      | some schema => Response.json? 200 schema.toJson
      | none => some (.detail 404 "Schema not loaded")
    (service, [], none, response)

def suggestions (app : App) (scope : Scope) (workspace : String) (request : Request) : Handled :=
  app.withBody scope workspace request Api.CompletionRequest.ofFields fun message id service =>
    let (service, suggestions) := service.complete id (some message.text)
    (service, [], none, Response.json? 200 (Api.completionJson suggestions))

def discard (app : App) (workspace : String) : Handled :=
  let (service, there) := app.service.discard workspace
  let response : Response :=
    if there then ⟨204, [("content-type", "application/json")], .empty⟩
    else .detail 404 "Workspace not found"
  ({ app with service } : App).answer response

def template (name : String) : Response :=
  match Template.find? name with
  | some template => .json 200 template.toJson
  | none => .detail 404 "Template not found"

def health (app : App) : Response :=
  .json 200 (.obj [("status", .str "healthy"), ("service", .str "kql-intellisense"),
    ("engines", .int app.service.store.size)])

def dispatch (app : App) (scope : Scope) (request : Request) (answer : Answer) :
    Endpoint → String → Handled
  | .health, _ => app.answer app.health
  | .liveness, _ => app.answer (.json 200 (.obj [("status", .str "live")]))
  | .loadSchema, workspace => app.loadSchema scope workspace request answer
  | .schema, workspace => app.heldSchema scope workspace
  | .suggestions, workspace => app.suggestions scope workspace request
  | .discard, workspace => app.discard workspace
  | .templates, _ => app.answer (.json 200 (Api.templatesJson Template.all))
  | .template, name => app.answer (template name)
  | .metrics, _ => app.answer ⟨200, [], .metrics app.metricLines⟩

def redirectTo (request : Request) (path : String) (query : Option String) : Response :=
  let asked := (query.filter (· != "")).elim "" ("?" ++ ·)
  let place := request.base ++ String.ofList (escapedPath path.toList) ++ asked
  let safe (c : Char) : Bool :=
    Text.Percent.isUnreserved c || ":/%#?=@[]!$&'()*+,;".toList.contains c
  ⟨307, [("location", String.ofList (Text.Percent.encode safe place.toList))], .empty⟩

/-- The answer to a request that has been named, and the path under which it is observed: the
pattern of its route, or else its own path. -/
def respond (app : App) (scope : Scope) (request : Request) (answer : Answer) :
    Handled × String :=
  let (path, query) := request.location
  let ownPath := String.ofList
    ((escapedPath path.toList).filter fun c => c != '\t' && c != '\n' && c != '\r')
  match find request.method path with
  | .found route parameters =>
    (app.dispatch scope request answer route.endpoint (parameters.headD ""), route.pattern)
  | .otherMethod route =>
    (app.answer ((Response.detail 405 "Method Not Allowed").withHeaders [("allow", route.method)]),
      route.pattern)
  | .redirect other => (app.answer (redirectTo request other query), ownPath)
  | .unknown => (app.answer (.detail 404 "Not Found"), ownPath)

def internalError : Response := .plain 500 "Internal Server Error"

/-- The answer to `HEAD` has no body. -/
def withoutBody (request : Request) (response : Response) : Response :=
  if request.method == "HEAD" then { response with body := .empty } else response

/-- Names the request, answers it, counts it and logs it. A request whose handling is broken off is
neither counted nor logged, its answer says nothing more, and its name stays bound. -/
def observe (app : App) (fresh : String) (request : Request) (answer : Answer) :
    App × Response × Effects :=
  let id := requestId fresh (request.header? "x-request-id")
  let scope := app.scope id
  let (handled, path) := app.respond scope request answer
  match handled.response with
  | none => ({ handled.app with bound := scope }, internalError, handled.effects)
  | some response =>
    let traffic :=
      if app.settings.metricsEnabled then
        handled.app.traffic.observe request.method path response.status
      else handled.app.traffic
    let completed : Entry := ⟨scope, .requestCompleted request.method path response.status⟩
    let headers :=
      Cors.headers app.settings.corsOrigins request ++ [("x-request-id", id)]
    ({ handled.app with traffic, bound := scope.cleared }, response.withHeaders headers,
      { handled.effects with entries := handled.effects.entries ++ [completed] })

/-- One request. `fresh` names it if the client does not, and `answer` is what the schema service
answers if it is asked. -/
def handle (app : App) (fresh : String) (request : Request) (answer : Answer) :
    App × Response × Effects :=
  if Cors.isPreflight request then
    (app, Cors.preflight app.settings.corsOrigins request, {})
  else
    let (app, response, effects) := app.observe fresh request answer
    (app, withoutBody request response, effects)

end App
end KqlCompletion.Http
