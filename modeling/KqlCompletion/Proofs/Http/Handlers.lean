import KqlCompletion.Http.App
import KqlCompletion.Proofs.Service.Store

/-! What each handler of a workspace answers, and what becomes of the store. Answers are said by
what is held, apart from the application that holds it. -/
namespace KqlCompletion.Http

open SchemaService (Answer Outcome)

variable {α : Type}

/-- Whether the body of a request can be read at all; only then is an engine acquired. -/
def Request.isRead (request : Request) : Bool := request.content.toOption.isSome

/-- The message that a body holds, or else the answer to it; none if the handling is broken off. -/
def Request.message (ofFields : Json.Members → Validation.Checked α) (request : Request) :
    Except (Option Response) α :=
  match request.content with
  | .error fault => .error (some fault.response)
  | .ok content =>
    match content.check ofFields with
    | .ok message => .ok message
    | .error (.issues issues) => .error (some (.unprocessable (issues.map issueJson)))
    | .error .noEcho => .error none

namespace Response

def ofLoad (workspace : String) (tableCount : Nat) : Outcome → Option Response
  | .loaded _ => some (.json 200 (Api.LoadReport.toJson ⟨true, workspace, some tableCount⟩))
  | .failed _ => some (.json 200 (Api.LoadReport.toJson ⟨false, workspace, some tableCount⟩))
  | .brokenOff _ => none

/-- None if the schema cannot be sent. -/
def ofSchema : Option Schema → Option Response
  | some schema => json? 200 schema.toJson
  | none => some (.detail 404 "Schema not loaded")

/-- Suggestions are those of the text and the schema held, whatever else the request says. -/
def ofSuggestions (request : Request) (held : Option Schema) : Option Response :=
  match request.message Api.CompletionRequest.ofFields with
  | .ok message => json? 200 (Api.completionJson (suggest (some message.text) held))
  | .error refusal => refusal

def ofDiscard (there : Bool) : Response :=
  if there then ⟨204, [("content-type", "application/json")], .empty⟩
  else .detail 404 "Workspace not found"

end Response

def loadOutcome (settings : Settings) (workspace : String) (message : Api.LoadRequest)
    (answer : Answer) : Outcome :=
  (SchemaService.load settings.schemaApi.url workspace message.token answer).2

theorem Request.isRead_of_message {ofFields : Json.Members → Validation.Checked α}
    {request : Request} {message : α} (found : request.message ofFields = .ok message) :
    request.isRead = true := by
  rw [Request.message] at found
  rw [isRead]
  cases read : request.content with
  | error fault => rw [read] at found; cases found
  | ok content => rfl

namespace App

variable {app : App} {scope : Log.Scope} {workspace : String} {request : Request}

def store (app : App) : Store := app.service.store

theorem response_withBody (app : App) (scope : Log.Scope) (workspace : String) (request : Request)
    (ofFields : Json.Members → Validation.Checked α) (handler : α → EngineHandler) :
    (app.withBody scope workspace request ofFields handler).response =
      match request.message ofFields with
      | .ok message =>
        let acquired := app.service.acquire workspace
        (handler message acquired.2.1 acquired.1).2.2.2
      | .error refusal => refusal := by
  rw [withBody, Request.message]
  cases read : request.content with
  | error fault => rfl
  | ok content =>
    dsimp only [withEngine]
    cases checked : content.check ofFields with
    | ok message => rfl
    | error refusal => cases refusal <;> rfl

theorem service_withBody (app : App) (scope : Log.Scope) (workspace : String) (request : Request)
    (ofFields : Json.Members → Validation.Checked α) (handler : α → EngineHandler) :
    (app.withBody scope workspace request ofFields handler).app.service =
      if request.isRead then
        let acquired := app.service.acquire workspace
        match request.message ofFields with
        | .ok message => (handler message acquired.2.1 acquired.1).1
        | .error _ => acquired.1
      else app.service := by
  rw [withBody, Request.message, Request.isRead]
  cases read : request.content with
  | error fault => rfl
  | ok content =>
    dsimp only [withEngine]
    cases checked : content.check ofFields with
    | ok message => rfl
    | error refusal => cases refusal <;> rfl

theorem settings_withBody (app : App) (scope : Log.Scope) (workspace : String) (request : Request)
    (ofFields : Json.Members → Validation.Checked α) (handler : α → EngineHandler) :
    (app.withBody scope workspace request ofFields handler).app.settings = app.settings := by
  rw [withBody]
  cases request.content <;> rfl

theorem response_heldSchema : (app.heldSchema scope workspace).response =
    Response.ofSchema ((app.store.acquire workspace).1.engine
      (app.store.acquire workspace).2.1).schema := by
  dsimp only [heldSchema, withEngine]
  rfl

theorem store_heldSchema :
    (app.heldSchema scope workspace).app.store = (app.store.acquire workspace).1 := rfl

theorem settings_heldSchema :
    (app.heldSchema scope workspace).app.settings = app.settings := rfl

theorem response_suggestions : (app.suggestions scope workspace request).response =
    Response.ofSuggestions request ((app.store.acquire workspace).1.engine
      (app.store.acquire workspace).2.1).schema := by
  rw [suggestions, response_withBody]
  dsimp only [Response.ofSuggestions]
  cases request.message Api.CompletionRequest.ofFields <;> rfl

theorem store_suggestions : (app.suggestions scope workspace request).app.store =
    if request.isRead then (app.store.acquire workspace).1 else app.store := by
  rw [store, suggestions, service_withBody]
  cases request.message Api.CompletionRequest.ofFields <;> split <;> rfl

theorem settings_suggestions :
    (app.suggestions scope workspace request).app.settings = app.settings := by
  rw [suggestions, settings_withBody]

theorem response_loadSchema (answer : Answer) :
    (app.loadSchema scope workspace request answer).response =
      match request.message Api.LoadRequest.ofFields with
      | .ok message =>
        let outcome := loadOutcome app.settings workspace message answer
        let acquired := app.store.acquire workspace
        let after := acquired.1.modify acquired.2.1 (Engine.complete workspace outcome)
        Response.ofLoad workspace (after.engine acquired.2.1).tableCount outcome
      | .error refusal => refusal := by
  rw [loadSchema, response_withBody]
  cases request.message Api.LoadRequest.ofFields with
  | error refusal => rfl
  | ok message =>
    dsimp only [loadOutcome]
    cases (SchemaService.load app.settings.schemaApi.url workspace message.token answer).2 <;> rfl

theorem store_loadSchema (answer : Answer) :
    (app.loadSchema scope workspace request answer).app.store =
      if request.isRead then
        let acquired := app.store.acquire workspace
        match request.message Api.LoadRequest.ofFields with
        | .ok message =>
          acquired.1.modify acquired.2.1
            (Engine.complete workspace (loadOutcome app.settings workspace message answer))
        | .error _ => acquired.1
      else app.store := by
  rw [store, loadSchema, service_withBody]
  cases request.isRead with
  | false => rfl
  | true =>
    cases request.message Api.LoadRequest.ofFields with
    | error refusal => rfl
    | ok message =>
      dsimp only [loadOutcome]
      generalize SchemaService.load app.settings.schemaApi.url workspace message.token
        answer = ended
      rfl

theorem response_discard : (app.discard workspace).response =
    some (.ofDiscard (app.store.discard workspace).isSome) := by
  rw [discard, Service.discard, store]
  cases app.service.store.discard workspace <;> rfl

theorem store_discard : (app.discard workspace).app.store =
    (app.store.discard workspace).getD app.store := by
  rw [discard, Service.discard, store, store]
  cases app.service.store.discard workspace <;> rfl

theorem settings_discard : (app.discard workspace).app.settings = app.settings := rfl

theorem settings_loadSchema (answer : Answer) :
    (app.loadSchema scope workspace request answer).app.settings = app.settings := by
  rw [loadSchema, settings_withBody]

/-- Whatever a request does to a store is a visit to one workspace. -/
theorem visited_dispatch (app : App) (scope : Log.Scope) (request : Request) (answer : Answer)
    (endpoint : Endpoint) (workspace : String) : Store.Visited workspace app.store
      (app.dispatch scope request answer endpoint workspace).app.store := by
  cases endpoint with
  | loadSchema =>
    rw [dispatch, store_loadSchema]
    split
    · cases request.message Api.LoadRequest.ofFields with
      | ok message => exact .modified _
      | error refusal => exact .acquired
    · exact .unchanged
  | schema =>
    rw [dispatch, store_heldSchema]
    exact .acquired
  | suggestions =>
    rw [dispatch, store_suggestions]
    split
    · exact .acquired
    · exact .unchanged
  | discard =>
    rw [dispatch, store_discard]
    cases discarded : app.store.discard workspace with
    | none => exact .unchanged
    | some rest => exact .discarded discarded
  | health => exact .unchanged
  | liveness => exact .unchanged
  | templates => exact .unchanged
  | template => exact .unchanged
  | metrics => exact .unchanged

/-- What becomes of a handler's answer on its way out. -/
def dress (settings : Settings) (id : String) (request : Request) : Option Response → Response
  | none => internalError
  | some response =>
    response.withHeaders (Cors.headers settings.corsOrigins request ++ [("x-request-id", id)])

/-- Observing a request touches neither the store nor the settings. -/
theorem observe_spec (app : App) (fresh : String) (request : Request) (answer : Answer) :
    let id := Http.requestId fresh (request.header? "x-request-id")
    let handled := (app.respond (app.scope id) request answer).1
    let observed := app.observe fresh request answer
    observed.1.store = handled.app.store ∧ observed.1.settings = handled.app.settings ∧
      observed.2.1 = dress app.settings id request handled.response := by
  dsimp only [observe]
  generalize app.respond _ request answer = responded
  obtain ⟨⟨after, response, effects⟩, path⟩ := responded
  cases response <;> exact ⟨rfl, rfl, rfl⟩

/-- Around the observed request stand the answer to preflights, which do nothing else, and the one to
`HEAD`, which keeps its status. -/
theorem handle_spec (app : App) (fresh : String) (request : Request) (answer : Answer) :
    if Cors.isPreflight request then
      (app.handle fresh request answer).1 = app
    else
      (app.handle fresh request answer).1 = (app.observe fresh request answer).1 ∧
        (app.handle fresh request answer).2.1.status =
          (app.observe fresh request answer).2.1.status := by
  rw [handle]
  split
  · rfl
  · generalize app.observe fresh request answer = observed
    obtain ⟨after, response, effects⟩ := observed
    refine ⟨rfl, ?_⟩
    dsimp only [withoutBody]
    split <;> rfl

end App
end KqlCompletion.Http
