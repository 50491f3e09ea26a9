import KqlCompletion.Service.Basic
import KqlCompletion.Template

/-! A session: operations on one service, one after the other. Nearly all of them use the engine of
a workspace, which makes it the one most recently used. -/
namespace KqlCompletion

open Log (Event)
open SchemaService (Answer)

namespace Session

structure Start where
  workspace : String
  answer : Answer
  deriving DecidableEq, Repr

inductive Task where
  | get
  | load (workspace apiUrl : String) (token : Text) (answer : Answer)
  /-- All loads start together and complete in the order of the workspaces in `finish`. -/
  | loads (apiUrl : String) (token : Text) (started : List Start) (finish : List String)
  | suggest (text : Option Text)
  | context (text : Option Text)
  | table (text : Option Text)
  | schema
  | templates
  | clear
  deriving DecidableEq, Repr

inductive Op where
  | use (workspace : String) (task : Task)
  /-- The engine that the session last used for the workspace, even if it has left the store. -/
  | peek (workspace : String)
  | discard (workspace : String)
  | contains (workspace : String)
  | metrics
  deriving DecidableEq, Repr

inductive Reply where
  | engine (engine : Engine)
  | peeked (engine : Option Engine)
  | loaded (loaded : Bool) (request : Option SchemaService.Request) (engine : Engine)
  | finished (completions : List (String × Bool × Engine))
  | suggestions (suggestions : List Suggestion)
  | context (context : Query.Context)
  | table (table : Option Schema.Table)
  | schema (schema : Option Schema)
  | templates (templates : List Template)
  | flag (value : Bool)
  | lines (lines : List String)
  | brokenOff (cause : SchemaService.Interruption)
  deriving DecidableEq, Repr

/-- `seen` holds the engine last used for each workspace, latest first. -/
structure State where
  service : Service
  seen : List (String × EngineId) := []
  deriving DecidableEq, Repr

structure Step where
  reply : Reply
  workspaces : List String
  events : List Event
  deriving DecidableEq, Repr

def wasLoaded : SchemaService.Outcome → Bool
  | .loaded _ => true
  | _ => false

/-- Loads complete on one engine in the order in which `finish` names their workspaces. A workspace
that is named again has `ended` and completes no second time. The first load that is broken off
ends the series. -/
def completeLoads (id : EngineId) (apiUrl : String) (token : Text) (started : List Start) :
    List String → List (String × Bool) → Service →
      Service × List Event × Except SchemaService.Interruption (List (String × Bool × Engine))
  | [], _, service => (service, [], .ok [])
  | workspace :: finish, ended, service =>
    match ended.find? (·.1 == workspace), started.find? (·.workspace == workspace) with
    | some (_, loaded), _ =>
      let done := (workspace, loaded, service.engine id)
      let (service, events, rest) := completeLoads id apiUrl token started finish ended service
      (service, events, rest.map (done :: ·))
    | none, none => completeLoads id apiUrl token started finish ended service
    | none, some start =>
      let (_, outcome) := SchemaService.load apiUrl workspace token start.answer
      let (service, events) := service.completeLoad ⟨id, workspace⟩ outcome
      match outcome with
      | .brokenOff cause => (service, events, .error cause)
      | _ =>
        let loaded := wasLoaded outcome
        let done := (workspace, loaded, service.engine id)
        let (service, more, rest) :=
          completeLoads id apiUrl token started finish ((workspace, loaded) :: ended) service
        (service, events ++ more, rest.map (done :: ·))

def Task.run (id : EngineId) (service : Service) : Task → Service × List Event × Reply
  | .get => (service, [], .engine (service.engine id))
  | .load workspace apiUrl token answer =>
    let (request, outcome) := SchemaService.load apiUrl workspace token answer
    let (service, events) := service.completeLoad ⟨id, workspace⟩ outcome
    let reply : Reply :=
      match outcome with
      | .brokenOff cause => .brokenOff cause
      | _ => .loaded (wasLoaded outcome) request (service.engine id)
    (service, events, reply)
  | .loads apiUrl token started finish =>
    let (service, events, completions) := completeLoads id apiUrl token started finish [] service
    (service, events, match completions with
      | .ok completions => .finished completions
      | .error cause => .brokenOff cause)
  | .suggest text =>
    let (service, suggestions) := service.complete id text
    (service, [], .suggestions suggestions)
  | .context text => (service, [], .context (Query.Context.of? text))
  | .table text => (service, [], .table (Query.sourceTable? text (service.engine id).schema))
  | .schema => (service, [], .schema (service.engine id).schema)
  | .templates => (service, [], .templates Template.all)
  | .clear =>
    let service := service.clear id
    (service, [], .engine (service.engine id))

def Op.run (state : State) : Op → State × List Event × Reply
  | .use workspace task =>
    let (service, id, evictions) := state.service.acquire workspace
    let (service, events, reply) := task.run id service
    (⟨service, (workspace, id) :: state.seen⟩, evictions ++ events, reply)
  | .peek workspace =>
    let last := (state.seen.find? (·.1 == workspace)).map fun entry => state.service.engine entry.2
    (state, [], .peeked last)
  | .discard workspace =>
    let (service, there) := state.service.discard workspace
    ({ state with service }, [], .flag there)
  | .contains workspace => (state, [], .flag (state.service.store.contains workspace))
  | .metrics => (state, [], .lines (Exposition.sorted state.service.metrics.lines))

def State.step (state : State) (op : Op) : State × Step :=
  let (next, events, reply) := op.run state
  (next, ⟨reply, next.service.store.workspaces, events⟩)

def run : List Op → State → List Step
  | [], _ => []
  | op :: ops, state =>
    let (next, step) := state.step op
    step :: run ops next

end Session
end KqlCompletion
