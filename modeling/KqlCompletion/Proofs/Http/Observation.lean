import KqlCompletion.Proofs.Http.Handlers
import KqlCompletion.Proofs.Text.Percent

/-! What is left of a request once it is answered: it has a name, and it has been logged and counted
once. No handler does any of this; it is done in one place for all of them, which preflights and
handlers that are broken off do not get to. -/
namespace KqlCompletion

def Log.Entry.completes (entry : Log.Entry) : Bool := entry.event.name == "request_completed"

namespace Http

open SchemaService (Answer)

def Request.ownPath (request : Request) : String :=
  String.ofList ((escapedPath request.location.1.toList).filter
    fun c => c != '\t' && c != '\n' && c != '\r')

def Finding.label (ownPath : String) : Finding → String
  | .found route _ | .otherMethod route => route.pattern
  | .redirect _ | .unknown => ownPath

/-- The path under which a request is logged and counted. -/
def Request.label (request : Request) : String :=
  (find request.method request.location.1).label request.ownPath

/-- An answer that carries no name yet and does not tell of a failure. -/
structure Response.IsOrdinary (response : Response) : Prop where
  status : response.status ≠ 500
  unnamed : ∀ header ∈ response.headers, header.1 ≠ "x-request-id"

/-- A handler leaves logging, counting and naming the request to others, and the settings as they
are. -/
structure Handled.LeavesUnobserved (app : App) (handled : Handled) : Prop where
  settings : handled.app.settings = app.settings
  traffic : handled.app.traffic = app.traffic
  silent : ∀ entry ∈ handled.effects.entries, entry.completes = false
  ordinary : ∀ response ∈ handled.response, response.IsOrdinary

/-- What is left of an answered request: its name, one line in the log, and one more in the count if
requests are counted. -/
structure Observed (app : App) (id : String) (request : Request)
    (observed : App × Response × Effects) : Prop where
  named : observed.2.1.headers.filter (·.1 == "x-request-id") = [("x-request-id", id)]
  logged : observed.2.2.entries.filter Log.Entry.completes =
    [⟨⟨some id, none⟩, .requestCompleted request.method request.label observed.2.1.status⟩]
  counted : observed.1.traffic =
    if app.settings.metricsEnabled then
      app.traffic.observe request.method request.label observed.2.1.status
    else app.traffic

structure IsName (name : String) : Prop where
  least : 1 ≤ name.toList.length
  most : name.toList.length ≤ 64
  characters : ∀ c ∈ name.toList, 'A' ≤ c ∧ c ≤ 'Z' ∨ 'a' ≤ c ∧ c ≤ 'z' ∨ '0' ≤ c ∧ c ≤ '9' ∨
    c = '.' ∨ c = '_' ∨ c = '-'

inductive Names (fresh : String) : Option String → String → Prop where
  | given {name : String} (valid : IsName name) : Names fresh (some name) name
  | minted {incoming : Option String} (invalid : ∀ name ∈ incoming, ¬ IsName name) :
    Names fresh incoming fresh

theorem isRequestId_iff {name : String} : isRequestId name = true ↔ IsName name := by
  have least : name.toList ≠ [] ↔ 1 ≤ name.toList.length := List.length_pos_iff.symm
  simp only [isRequestId, Bool.and_eq_true, Bool.not_eq_true', List.isEmpty_eq_false_iff, least,
    decide_eq_true_eq, List.all_eq_true, Bool.or_eq_true, Text.isAlphanum_iff, beq_iff_eq, or_assoc]
  constructor
  · rintro ⟨⟨least, most⟩, characters⟩
    exact ⟨least, most, characters⟩
  · rintro ⟨least, most, characters⟩
    exact ⟨⟨least, most⟩, characters⟩

theorem names_requestId (fresh : String) (incoming : Option String) :
    Names fresh incoming (requestId fresh incoming) := by
  rcases incoming with _ | name
  · exact .minted (by simp)
  · by_cases valid : isRequestId name = true
    · rw [requestId, Option.filter_some, if_pos valid]
      exact .given (isRequestId_iff.1 valid)
    · rw [requestId, Option.filter_some, if_neg valid]
      refine .minted ?_
      rintro _ ⟨⟩
      exact mt isRequestId_iff.2 valid

namespace Response

variable {status : Nat}

theorem isOrdinary_json (fine : status ≠ 500) (value : Json.Value) :
    (json status value).IsOrdinary :=
  ⟨fine, by simp [json]⟩

theorem isOrdinary_json? (fine : status ≠ 500) (value : Json.Value) :
    ∀ response ∈ json? status value, response.IsOrdinary := by
  intro response answered
  rw [json?] at answered
  split at answered <;> cases answered
  exact isOrdinary_json fine value

theorem isOrdinary_detail (fine : status ≠ 500) (reason : String) :
    (detail status reason).IsOrdinary :=
  isOrdinary_json fine _

theorem isOrdinary_unprocessable (issues : List Json.Value) : (unprocessable issues).IsOrdinary :=
  isOrdinary_json (by decide) _

theorem isOrdinary_fault (fault : ContentFault) : fault.response.IsOrdinary := by
  cases fault with
  | malformed complaint position => exact isOrdinary_unprocessable _
  | unreadable => exact isOrdinary_detail (by decide) _

theorem isOrdinary_ofLoad {workspace : String} {tables : Nat} {outcome : SchemaService.Outcome} :
    ∀ response ∈ ofLoad workspace tables outcome, response.IsOrdinary := by
  intro response reported
  cases outcome with
  | loaded schema => cases reported; exact isOrdinary_json (by decide) _
  | failed error => cases reported; exact isOrdinary_json (by decide) _
  | brokenOff cause => cases reported

theorem isOrdinary_of_message {α : Type} {ofFields : Json.Members → Validation.Checked α}
    {request : Request} {refusal : Option Response}
    (refused : request.message ofFields = .error refusal) :
    ∀ response ∈ refusal, response.IsOrdinary := by
  rw [Request.message] at refused
  intro response told
  split at refused
  · next fault _ =>
    cases refused
    cases told
    exact isOrdinary_fault fault
  · split at refused
    · cases refused
    · cases refused
      cases told
      exact isOrdinary_unprocessable _
    · cases refused
      cases told

end Response

theorem Cors.name_of_mem_headers (origins : List Text) (request : Request) :
    ∀ header ∈ headers origins request, header.1 ≠ "x-request-id" := by
  rw [headers]
  split
  · simp
  · split <;> simp [allowCredentials, allowOrigin]

/-- Preflights are answered without a name. -/
theorem Cors.name_of_mem_preflight (origins : List Text) (request : Request) :
    ∀ header ∈ (preflight origins request).headers, header.1 ≠ "x-request-id" := by
  have allowed : ∀ header ∈
      (((request.header? "origin").filter (isAllowed origins)).map allowOrigin).toList,
      header.1 ≠ "x-request-id" := by
    cases (request.header? "origin").filter (isAllowed origins) <;> simp [allowOrigin]
  have asked : ∀ header ∈ ((request.header? "access-control-request-headers").map
      fun headers => ("access-control-allow-headers", headers)).toList,
      header.1 ≠ "x-request-id" := by
    cases request.header? "access-control-request-headers" <;> simp
  intro header member
  rw [preflight, Response.withHeaders] at member
  dsimp only at member
  rw [List.mem_append, List.mem_append, List.mem_append] at member
  rcases member with answered | (fixed | allows) | allows
  · split at answered <;> simp_all [Response.plain]
  · simp only [allowCredentials, List.mem_cons, List.not_mem_nil, or_false] at fixed
    rcases fixed with rfl | rfl | rfl | rfl <;> simp
  · exact allowed header allows
  · exact asked header allows

namespace App

variable {α : Type} {app : App} {scope : Log.Scope} {workspace : String} {request : Request}
  {response : Response} {answer : Answer} {event : Log.Event}

/-- What is logged while an engine is used is what is done with it, and which engines have had to go
for it. -/
theorem silent_withEngine {handler : EngineHandler}
    (silent : ∀ id service, ∀ event ∈ (handler id service).2.1, event.name ≠ "request_completed") :
    ∀ entry ∈ (app.withEngine scope workspace handler).effects.entries,
      entry.completes = false := by
  intro entry member
  obtain ⟨event, happened, rfl⟩ := List.mem_map.1 member
  rw [Log.Entry.completes, beq_eq_false_iff_ne]
  rcases List.mem_append.1 happened with evicted | reported
  · obtain ⟨gone, -, rfl⟩ := List.mem_map.1 evicted
    simp [Log.Event.name]
  · exact silent _ _ event reported

theorem silent_withBody {ofFields : Json.Members → Validation.Checked α}
    {handler : α → EngineHandler}
    (silent : ∀ message id service, ∀ event ∈ (handler message id service).2.1,
      event.name ≠ "request_completed") :
    ∀ entry ∈ (app.withBody scope workspace request ofFields handler).effects.entries,
      entry.completes = false := by
  rw [withBody]
  cases request.content with
  | error fault => simp [App.answer]
  | ok content =>
    apply silent_withEngine
    intro id service
    cases content.check ofFields with
    | ok message => exact silent message id service
    | error refusal => cases refusal <;> simp

theorem traffic_withBody {ofFields : Json.Members → Validation.Checked α}
    {handler : α → EngineHandler} :
    (app.withBody scope workspace request ofFields handler).app.traffic = app.traffic := by
  rw [withBody]
  cases request.content <;> rfl

theorem name_of_mem_completeLoad {ticket : Service.Ticket} {outcome : SchemaService.Outcome}
    {service : Service} (member : event ∈ (service.completeLoad ticket outcome).2) :
    event.name ≠ "request_completed" := by
  cases outcome <;> simp_all [Service.completeLoad, Service.recordLoad, Log.Event.name]

theorem leavesUnobserved_answer (ordinary : response.IsOrdinary) :
    (app.answer response).LeavesUnobserved app := by
  constructor
  · rfl
  · rfl
  · simp [App.answer]
  · rintro _ ⟨⟩
    exact ordinary

theorem leavesUnobserved_loadSchema :
    (app.loadSchema scope workspace request answer).LeavesUnobserved app := by
  constructor
  · exact settings_loadSchema answer
  · rw [loadSchema, traffic_withBody]
  · rw [loadSchema]
    apply silent_withBody
    intro message id service event
    dsimp only
    generalize SchemaService.load app.settings.schemaApi.url workspace message.token answer = ended
    exact name_of_mem_completeLoad
  · rw [response_loadSchema]
    cases read : request.message Api.LoadRequest.ofFields with
    | ok message => exact Response.isOrdinary_ofLoad
    | error refusal => exact Response.isOrdinary_of_message read

theorem leavesUnobserved_heldSchema :
    (app.heldSchema scope workspace).LeavesUnobserved app := by
  constructor
  · exact settings_heldSchema
  · rfl
  · rw [heldSchema]
    apply silent_withEngine
    simp
  · rw [response_heldSchema]
    generalize Engine.schema _ = held
    cases held with
    | some schema => exact Response.isOrdinary_json? (by decide) _
    | none =>
      rintro _ ⟨⟩
      exact Response.isOrdinary_detail (by decide) _

theorem leavesUnobserved_suggestions :
    (app.suggestions scope workspace request).LeavesUnobserved app := by
  constructor
  · exact settings_suggestions
  · rw [suggestions, traffic_withBody]
  · rw [suggestions]
    apply silent_withBody
    simp
  · rw [response_suggestions, Response.ofSuggestions]
    cases read : request.message Api.CompletionRequest.ofFields with
    | ok message => exact Response.isOrdinary_json? (by decide) _
    | error refusal => exact Response.isOrdinary_of_message read

theorem leavesUnobserved_discard : (app.discard workspace).LeavesUnobserved app := by
  constructor
  · exact settings_discard
  · rfl
  · simp [discard, App.answer]
  · rw [response_discard]
    rintro _ ⟨⟩
    rw [Response.ofDiscard]
    split
    · exact ⟨by simp, by simp⟩
    · exact Response.isOrdinary_detail (by decide) _

theorem leavesUnobserved_dispatch (endpoint : Endpoint) :
    (app.dispatch scope request answer endpoint workspace).LeavesUnobserved app := by
  cases endpoint <;> rw [dispatch]
  case loadSchema => exact leavesUnobserved_loadSchema
  case schema => exact leavesUnobserved_heldSchema
  case suggestions => exact leavesUnobserved_suggestions
  case discard => exact leavesUnobserved_discard
  case health => exact leavesUnobserved_answer (Response.isOrdinary_json (by decide) _)
  case liveness => exact leavesUnobserved_answer (Response.isOrdinary_json (by decide) _)
  case templates => exact leavesUnobserved_answer (Response.isOrdinary_json (by decide) _)
  case template =>
    apply leavesUnobserved_answer
    rw [template]
    split
    · exact Response.isOrdinary_json (by decide) _
    · exact Response.isOrdinary_detail (by decide) _
  case metrics => exact leavesUnobserved_answer ⟨by simp, by simp⟩

theorem leavesUnobserved_respond (app : App) (scope : Log.Scope) (request : Request)
    (answer : Answer) : (app.respond scope request answer).1.LeavesUnobserved app := by
  dsimp only [respond]
  cases find request.method request.location.1 with
  | found route parameters => exact leavesUnobserved_dispatch route.endpoint
  | otherMethod route =>
    apply leavesUnobserved_answer
    constructor <;> simp [Response.withHeaders, Response.detail, Response.json]
  | redirect other =>
    apply leavesUnobserved_answer
    constructor <;> simp [redirectTo]
  | unknown => exact leavesUnobserved_answer (Response.isOrdinary_detail (by decide) _)

theorem label_respond (app : App) (scope : Log.Scope) (request : Request) (answer : Answer) :
    (app.respond scope request answer).2 = request.label := by
  rw [Request.label]
  dsimp only [respond]
  cases find request.method request.location.1 <;> rfl

/-- Only a handler that is broken off is answered for like this. -/
theorem status_observe_eq_iff {fresh : String} :
    (app.observe fresh request answer).2.1.status = 500 ↔
      (app.respond (app.scope (Http.requestId fresh (request.header? "x-request-id"))) request
        answer).1.response = none := by
  have quiet := app.leavesUnobserved_respond
    (app.scope (Http.requestId fresh (request.header? "x-request-id"))) request answer
  dsimp only [observe]
  generalize app.respond _ request answer = responded at quiet
  obtain ⟨⟨after, response, effects⟩, path⟩ := responded
  cases response with
  | none => simp [internalError, Response.plain]
  | some response => simpa [Response.withHeaders] using (quiet.ordinary response rfl).status

theorem observed_of_status_ne {fresh : String}
    (unbroken : (app.observe fresh request answer).2.1.status ≠ 500) :
    Observed app (Http.requestId fresh (request.header? "x-request-id")) request
      (app.observe fresh request answer) := by
  have quiet := app.leavesUnobserved_respond
    (app.scope (Http.requestId fresh (request.header? "x-request-id"))) request answer
  have label := app.label_respond
    (app.scope (Http.requestId fresh (request.header? "x-request-id"))) request answer
  dsimp only [observe] at unbroken ⊢
  generalize Http.requestId fresh (request.header? "x-request-id") = id at *
  generalize app.respond (app.scope id) request answer = responded at unbroken quiet label
  obtain ⟨⟨after, response, effects⟩, path⟩ := responded
  cases response with
  | none => exact absurd rfl unbroken
  | some response =>
    have bare : response.headers.filter (·.1 == "x-request-id") = [] := by
      simpa using (quiet.ordinary response rfl).unnamed
    have plain : (Cors.headers app.settings.corsOrigins request).filter
        (·.1 == "x-request-id") = [] := by
      simpa using Cors.name_of_mem_headers app.settings.corsOrigins request
    have silent : effects.entries.filter Log.Entry.completes = [] := by
      simpa using quiet.silent
    have traffic : after.traffic = app.traffic := quiet.traffic
    constructor
    · simp [Response.withHeaders, bare, plain]
    · rw [← label]
      simp [Response.withHeaders, silent, Log.Entry.completes, Log.Event.name]
    · rw [← label]
      simp [traffic, Response.withHeaders]

theorem traffic_observe_of_status_eq {fresh : String}
    (broken : (app.observe fresh request answer).2.1.status = 500) :
    (app.observe fresh request answer).1.traffic = app.traffic := by
  have quiet := app.leavesUnobserved_respond
    (app.scope (Http.requestId fresh (request.header? "x-request-id"))) request answer
  rw [status_observe_eq_iff] at broken
  dsimp only [observe]
  generalize app.respond _ request answer = responded at quiet broken
  obtain ⟨⟨after, response, effects⟩, path⟩ := responded
  obtain rfl : response = none := broken
  exact quiet.traffic

theorem settings_observe (app : App) (fresh : String) (request : Request) (answer : Answer) :
    (app.observe fresh request answer).1.settings = app.settings := by
  obtain ⟨-, handled, -⟩ := app.observe_spec fresh request answer
  rw [handled, (app.leavesUnobserved_respond ..).settings]

theorem handle_of_not_isPreflight {fresh : String} (real : Cors.isPreflight request = false) :
    app.handle fresh request answer =
      ((app.observe fresh request answer).1,
        withoutBody request (app.observe fresh request answer).2.1,
        (app.observe fresh request answer).2.2) := by
  simp [handle, real]

theorem withoutBody_spec (request : Request) (response : Response) :
    (withoutBody request response).status = response.status ∧
      (withoutBody request response).headers = response.headers := by
  rw [withoutBody]
  split <;> exact ⟨rfl, rfl⟩

/-- Of a preflight nothing is left. Any other request gets its name, one line in the log and one more
in the count, unless its handling is broken off. -/
theorem request_observed_once (app : App) (fresh : String) (request : Request) (answer : Answer)
    (enabled : app.settings.metricsEnabled = true) :
    let handled := app.handle fresh request answer
    if Cors.isPreflight request then
      handled.1 = app ∧ handled.2.2 = {} ∧
        ∀ header ∈ handled.2.1.headers, header.1 ≠ "x-request-id"
    else
      handled.2.1.status ≠ 500 →
        ∃ id entry, Names fresh (request.header? "x-request-id") id ∧
          handled.2.1.headers.filter (·.1 == "x-request-id") = [("x-request-id", id)] ∧
          handled.2.2.entries.filter Log.Entry.completes = [entry] ∧
          entry.scope.requestId = some id ∧
          entry.event =
            .requestCompleted request.method request.label handled.2.1.status ∧
          entry.event.level = (if 400 ≤ handled.2.1.status then .info else .debug) ∧
          handled.1.traffic.requests.total = app.traffic.requests.total + 1 := by
  intro handled
  split
  · next preflight =>
    have answered : handled = (app, Cors.preflight app.settings.corsOrigins request, {}) := by
      simp [handled, handle, preflight]
    rw [answered]
    exact ⟨rfl, rfl, Cors.name_of_mem_preflight _ _⟩
  · next real =>
    have answered : handled = _ := handle_of_not_isPreflight (by simpa using real)
    obtain ⟨sameStatus, sameHeaders⟩ :=
      withoutBody_spec request (app.observe fresh request answer).2.1
    rw [answered]
    dsimp only
    rw [sameStatus, sameHeaders]
    intro unbroken
    have observed := observed_of_status_ne unbroken
    refine ⟨_, _, names_requestId _ _, observed.named, observed.logged, rfl, rfl, rfl, ?_⟩
    rw [observed.counted, if_pos enabled, Traffic.observe, Tally.total_bump]

/-- A client that names its request. -/
theorem liveness_observed_once :
    let app : App := { settings := {}, service := { store := { capacity := 100 } } }
    let request : Request :=
      ⟨"GET", ⟨"http", "", "h", none, "/health/live", none, none⟩,
        [("X-Request-ID", "a.b-1_Z")], []⟩
    let handled := app.handle "fresh" request (.failure "ReadTimeout" "")
    app.settings.metricsEnabled = true ∧ Cors.isPreflight request = false ∧
      handled.2.1.status ≠ 500 ∧ IsName "a.b-1_Z" ∧
      handled.2.1.headers.filter (·.1 == "x-request-id") = [("x-request-id", "a.b-1_Z")] ∧
      handled.1.traffic.requests.total = 1 := by
  intro app request handled
  have facts : Cors.isPreflight request = false ∧ handled.2.1.status ≠ 500 ∧
      request.header? "x-request-id" = some "a.b-1_Z" ∧ isRequestId "a.b-1_Z" = true := by
    decide +kernel
  have once := request_observed_once app "fresh" request (.failure "ReadTimeout" "") rfl
  have none : app.traffic.requests.total = 0 := rfl
  have same : app.handle "fresh" request (.failure "ReadTimeout" "") = handled := rfl
  have enabled : app.settings.metricsEnabled = true := rfl
  clear_value handled request app
  obtain ⟨real, unbroken, incoming, valid⟩ := facts
  rw [real, if_neg Bool.false_ne_true, same, incoming, none] at once
  obtain ⟨id, entry, names, named, -, -, -, -, counted⟩ := once unbroken
  refine ⟨enabled, real, unbroken, isRequestId_iff.1 valid, ?_, counted⟩
  cases names with
  | given => exact named
  | minted invalid => exact absurd (isRequestId_iff.1 valid) (invalid _ rfl)

/-- A page asks for leave: it is told so, and nothing is left of that. -/
theorem preflight_unobserved :
    let app : App := { settings := {}, service := { store := { capacity := 100 } } }
    let request : Request :=
      ⟨"OPTIONS", ⟨"http", "", "h", none, "/health", none, none⟩,
        [("Origin", "http://localhost:5173"), ("Access-Control-Request-Method", "GET")], []⟩
    let handled := app.handle "fresh" request (.failure "ReadTimeout" "")
    app.settings.metricsEnabled = true ∧ handled.2.1.status = 200 ∧
      handled.2.1.headers.filter (·.1 == "x-request-id") = [] ∧
      handled.2.2.entries = [] ∧
      handled.1.traffic.requests.total = app.traffic.requests.total := by
  decide +kernel

end App
end Http
end KqlCompletion
