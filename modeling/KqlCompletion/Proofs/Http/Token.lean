import KqlCompletion.Proofs.Http.Observation
import KqlCompletion.Proofs.Http.Workspaces
import KqlCompletion.Proofs.SchemaService.Address
import KqlCompletion.Proofs.Url.UserInfo

/-! Where the token of a load goes. It authorizes the request to the schema service and gets nowhere
else; all that shows of it is whether it is ASCII, since only then there is a request. -/
namespace KqlCompletion

namespace SchemaService

open Text (isAscii)

variable {apiUrl workspace : String} {token other : Text} {answer : Answer}

/-- What is put behind the address of the schema service does not get into its user information. -/
theorem userinfoIn_schemaAddress (apiUrl workspace : String) :
    Url.userinfoIn (schemaAddress apiUrl workspace) = Url.userinfoIn apiUrl := by
  let base := apiUrl.toList.rdropWhile (· == '/')
  let slashes := apiUrl.toList.rtakeWhile (· == '/')
  have last : ∀ c ∈ base.getLast?, c ≠ '/' := by
    intro c ends
    have nonempty : base ≠ [] := by
      intro empty
      rw [empty] at ends
      cases ends
    rw [List.getLast?_eq_some_getLast nonempty] at ends
    obtain rfl : base.getLast nonempty = c := Option.some.inj ends
    simpa using List.rdropWhile_last_not _ _ nonempty
  have whole : apiUrl.toList = base ++ slashes := List.rdropWhile_append_rtakeWhile.symm
  have only : ∀ c ∈ slashes, c = '/' := fun c member => by
    simpa using List.mem_rtakeWhile_imp member
  obtain ⟨rooted, bare⟩ := Url.bare_of_slashes only
  have given : (Url.Parts.of apiUrl.toList).authority = (Url.Parts.of base).authority := by
    rw [whole, Url.authority_append rooted bare last]
  have asked : (Url.Parts.of (schemaAddress apiUrl workspace).toList).authority =
      (Url.Parts.of base).authority := by
    have written : (schemaAddress apiUrl workspace).toList =
        base ++ '/' :: (behind workspace).toList := by
      simp [schemaAddress_eq, withoutTrailingSlashes_eq, base]
    rw [written]
    apply Url.authority_append (.inr rfl) _ last
    simp [behind, Url.splitAuthority]
  rw [Url.userinfoIn, Url.userinfoIn, asked, given]

/-- The outcome does not depend on the token, but for whether it is ASCII. -/
theorem outcome_load_congr (alike : isAscii token = isAscii other) :
    (load apiUrl workspace token answer).2 = (load apiUrl workspace other answer).2 := by
  rw [load, load, request, request]
  cases Url.parse (schemaAddress apiUrl workspace) with
  | error fault => rfl
  | ok asked =>
    dsimp only
    rw [alike]
    cases isAscii other && isAscii asked.hostText with
    | false => rfl
    | true =>
      rw [if_pos rfl, if_pos rfl]
      dsimp only
      cases asked.shownHost <;> rfl

theorem request_load_of_not_isAscii (beyond : isAscii token = false) :
    (load apiUrl workspace token answer).1 = none := by
  simp [request_load, beyond]

/-- Where the schema is asked for, if it is, and how, but for the token. -/
theorem request_load_of_isAscii (none : Url.userinfoIn apiUrl = "") (workspace : String) :
    ∃ address : Option String, ∀ token answer, isAscii token = true →
      (load apiUrl workspace token answer).1 = address.map (⟨·, "Bearer " ++ token.shown⟩) := by
  cases parsed : Url.parse (schemaAddress apiUrl workspace) with
  | error fault => exact ⟨Option.none, by simp [request_load, parsed, Except.toOption]⟩
  | ok asked =>
    have plain : asked.userinfo = "" :=
      Url.userinfo_of_parse parsed (by rw [userinfoIn_schemaAddress, none])
    by_cases sendable : isAscii asked.hostText = true ∧ asked.shownHost.isOk = true
    · refine ⟨some asked.text, fun token answer ascii => ?_⟩
      simp [request_load, parsed, Except.toOption, ascii, sendable, authorization_of_plain plain]
    · refine ⟨Option.none, fun token answer ascii => ?_⟩
      simp [request_load, parsed, Except.toOption, ascii, sendable]

end SchemaService

namespace Http

open SchemaService (Answer)
open Text (isAscii)

/-- Requests that differ in their bodies, and in the lengths that they give for these. -/
structure Request.SameButBody (request other : Request) : Prop where
  method : other.method = request.method
  url : other.url = request.url
  headers : ∀ name, name ≠ "content-length" → other.header? name = request.header? name

/-- Both were handled alike, but for what the schema service was asked. -/
structure Handled.SameButRequests (handled other : Handled) : Prop where
  app : other.app = handled.app
  response : other.response = handled.response
  entries : other.effects.entries = handled.effects.entries

theorem Request.SameButBody.location {request other : Request}
    (same : request.SameButBody other) : other.location = request.location := by
  rw [Request.location, Request.location, same.url]

theorem Request.SameButBody.cors {request other : Request} (same : request.SameButBody other)
    (origins : List Text) : Cors.headers origins other = Cors.headers origins request := by
  rw [Cors.headers, Cors.headers, same.headers "origin" (by decide)]

namespace App

variable {α : Type} {app : App} {scope : Log.Scope} {workspace : String} {request other : Request}
  {answer : Answer} {fresh : String}

/-- Once a body is read, it does not matter where the message came from. -/
theorem withBody_of_message {ofFields : Json.Members → Validation.Checked α}
    {handler : α → EngineHandler} {message : α} (read : request.message ofFields = .ok message) :
    app.withBody scope workspace request ofFields handler =
      app.withEngine scope workspace (handler message) := by
  rw [Request.message] at read
  rw [withBody]
  cases found : request.content with
  | error fault => simp [found] at read
  | ok content =>
    simp only [found] at read
    cases checked : content.check ofFields with
    | error refusal => cases refusal <;> simp [checked] at read
    | ok given =>
      obtain rfl : given = message := by simpa [checked] using read
      simp only [checked]

theorem requests_loadSchema {message : Api.LoadRequest}
    (read : request.message Api.LoadRequest.ofFields = .ok message) :
    (app.loadSchema scope workspace request answer).effects.requests =
      (SchemaService.load app.settings.schemaApi.url workspace message.token answer).1.toList := by
  rw [loadSchema, withBody_of_message read]
  generalize SchemaService.load app.settings.schemaApi.url workspace message.token answer = ended
  rfl

/-- Loads that end alike are reported, logged and counted alike. -/
theorem loadSchema_congr {message again : Api.LoadRequest}
    (read : request.message Api.LoadRequest.ofFields = .ok message)
    (readOther : other.message Api.LoadRequest.ofFields = .ok again)
    (alike : loadOutcome app.settings workspace message answer =
      loadOutcome app.settings workspace again answer) :
    (app.loadSchema scope workspace request answer).SameButRequests
      (app.loadSchema scope workspace other answer) := by
  rw [loadSchema, loadSchema, withBody_of_message read, withBody_of_message readOther]
  rw [loadOutcome, loadOutcome] at alike
  generalize SchemaService.load app.settings.schemaApi.url workspace message.token answer = first
    at alike
  generalize SchemaService.load app.settings.schemaApi.url workspace again.token answer = second
    at alike
  obtain ⟨sent, outcome⟩ := first
  obtain ⟨sentOther, outcomeOther⟩ := second
  obtain rfl : outcome = outcomeOther := alike
  exact ⟨rfl, rfl, rfl⟩

theorem requests_observe (app : App) (fresh : String) (request : Request) (answer : Answer) :
    (app.observe fresh request answer).2.2.requests =
      (app.respond (app.scope (Http.requestId fresh (request.header? "x-request-id"))) request
        answer).1.effects.requests := by
  dsimp only [observe]
  generalize app.respond _ request answer = responded
  obtain ⟨⟨after, response, effects⟩, path⟩ := responded
  cases response <;> rfl

/-- Observing looks at nothing that is in a body. -/
theorem observe_congr (app : App) (fresh : String) (answer : Answer)
    (same : request.SameButBody other)
    (alike : (app.respond (app.scope (Http.requestId fresh (request.header? "x-request-id")))
        request answer).1.SameButRequests
      (app.respond (app.scope (Http.requestId fresh (request.header? "x-request-id"))) other
        answer).1) :
    (app.observe fresh other answer).1 = (app.observe fresh request answer).1 ∧
      (app.observe fresh other answer).2.1 = (app.observe fresh request answer).2.1 ∧
      (app.observe fresh other answer).2.2.entries =
        (app.observe fresh request answer).2.2.entries := by
  have name : other.header? "x-request-id" = request.header? "x-request-id" :=
    same.headers "x-request-id" (by decide)
  have label := app.label_respond
    (app.scope (Http.requestId fresh (request.header? "x-request-id"))) request answer
  have labelOther := app.label_respond
    (app.scope (Http.requestId fresh (request.header? "x-request-id"))) other answer
  have labels : other.label = request.label := by
    rw [Request.label, Request.label, Request.ownPath, Request.ownPath, same.location,
      same.method]
  dsimp only [observe]
  rw [name, same.cors, same.method]
  generalize app.respond _ request answer = responded at *
  generalize app.respond _ other answer = respondedOther at *
  obtain ⟨⟨after, response, effects⟩, path⟩ := responded
  obtain ⟨⟨afterOther, responseOther, effectsOther⟩, pathOther⟩ := respondedOther
  obtain ⟨rfl, rfl, entries⟩ := alike
  obtain rfl : pathOther = path := labelOther.trans (labels.trans label.symm)
  dsimp only at entries
  cases responseOther with
  | none => exact ⟨rfl, rfl, entries⟩
  | some response => simp [entries]

theorem respond_of_found {route : Route}
    (found : find request.method request.location.1 = .found route [workspace])
    (endpoint : route.endpoint = .loadSchema) :
    (app.respond scope request answer).1 = app.loadSchema scope workspace request answer := by
  dsimp only [respond]
  rw [found]
  dsimp only
  rw [endpoint]
  rfl

/-- Loads with two tokens, both ASCII or both not, are answered, logged and counted alike and leave
the same state behind. With tokens that are ASCII the schema service is asked at the same address,
if at all, and what authorizes is the token as it was given, unless user information in the address
takes its place. With others it is not asked. -/
theorem token_only_authorizes (app : App) (fresh : String) (answer : Answer)
    (same : request.SameButBody other)
    (addressed : ∃ route, find request.method request.location.1 = .found route [workspace] ∧
      route.endpoint = .loadSchema)
    {token otherToken : Text}
    (read : request.message Api.LoadRequest.ofFields = .ok ⟨token⟩)
    (readOther : other.message Api.LoadRequest.ofFields = .ok ⟨otherToken⟩)
    (alike : isAscii token = isAscii otherToken) :
    let handled := app.handle fresh request answer
    let handledOther := app.handle fresh other answer
    handledOther.1 = handled.1 ∧ handledOther.2.1 = handled.2.1 ∧
      handledOther.2.2.entries = handled.2.2.entries ∧
      (isAscii token = false → handled.2.2.requests = [] ∧ handledOther.2.2.requests = []) ∧
      (isAscii token = true → Url.userinfoIn app.settings.schemaApi.url = "" →
        ∃ address : Option String,
          handled.2.2.requests = (address.map (⟨·, "Bearer " ++ token.shown⟩)).toList ∧
          handledOther.2.2.requests =
            (address.map (⟨·, "Bearer " ++ otherToken.shown⟩)).toList) := by
  obtain ⟨route, found, endpoint⟩ := addressed
  have foundOther : find other.method other.location.1 = .found route [workspace] := by
    rw [same.method, same.location, found]
  obtain ⟨listed, method⟩ := mem_of_find found
  have noPreflight : Cors.isPreflight request = false := by
    simp [Cors.isPreflight, ← method, (method_of_mem_routes route listed).1]
  have noPreflightOther : Cors.isPreflight other = false := by
    simp [Cors.isPreflight, same.method, ← method, (method_of_mem_routes route listed).1]
  have bodies (response : Response) :
      withoutBody other response = withoutBody request response := by
    rw [withoutBody, withoutBody, same.method]
  rw [handle_of_not_isPreflight noPreflight, handle_of_not_isPreflight noPreflightOther]
  dsimp only
  rw [bodies, requests_observe, requests_observe, respond_of_found found endpoint,
    respond_of_found foundOther endpoint, requests_loadSchema read, requests_loadSchema readOther]
  obtain ⟨state, response, entries⟩ := app.observe_congr fresh answer same <| by
    rw [respond_of_found found endpoint, respond_of_found foundOther endpoint]
    exact loadSchema_congr read readOther (SchemaService.outcome_load_congr alike)
  refine ⟨state, congrArg _ response, entries, ?_, ?_⟩
  · intro beyond
    rw [SchemaService.request_load_of_not_isAscii beyond,
      SchemaService.request_load_of_not_isAscii (alike.symm.trans beyond)]
    exact ⟨rfl, rfl⟩
  · intro ascii none
    obtain ⟨address, asked⟩ := SchemaService.request_load_of_isAscii none workspace
    exact ⟨address, congrArg _ (asked token answer ascii),
      congrArg _ (asked otherToken answer (alike.symm.trans ascii))⟩

/-- The schema service is out of order, whichever token is sent. -/
theorem two_tokens_one_state :
    let app : App := { settings := {}, service := { store := { capacity := 100 } } }
    let load (length body : String) : Request :=
      ⟨"POST", ⟨"http", "", "h", none, "/api/v1/workspaces/w/schema/load", none, none⟩,
        [("content-type", "application/json"), ("content-length", length)],
        Text.Utf8.encode body.toList⟩
    let request := load "13" "\x7b\"token\":\"a\"\x7d"
    let other := load "14" "\x7b\"token\":\"bc\"\x7d"
    let handled := app.handle "fresh" request (.response 503 [] [])
    let handledOther := app.handle "fresh" other (.response 503 [] [])
    handledOther.1 = handled.1 ∧
      handled.2.2.requests =
        [⟨"http://localhost:7071/api/workspaces/w/schema", "Bearer a"⟩] ∧
      handledOther.2.2.requests =
        [⟨"http://localhost:7071/api/workspaces/w/schema", "Bearer bc"⟩] := by
  intro app load request other handled handledOther
  have facts : find request.method request.location.1 =
        .found ⟨"POST", workspaces, [workspaceId, .literal "schema", .literal "load"],
          .loadSchema⟩ ["w"] ∧
      handled.2.2.requests =
        [⟨"http://localhost:7071/api/workspaces/w/schema", "Bearer a"⟩] ∧
      handledOther.2.2.requests =
        [⟨"http://localhost:7071/api/workspaces/w/schema", "Bearer bc"⟩] := by
    decide +kernel
  obtain ⟨found, asked, askedOther⟩ := facts
  have same : request.SameButBody other := by
    have lower : Text.asciiLower "content-length" = "content-length" := by decide +kernel
    refine ⟨rfl, rfl, fun name different => ?_⟩
    simp [Request.header?, other, request, load, lower, different.symm, List.find?_cons]
  have read : request.message Api.LoadRequest.ofFields = .ok ⟨"a"⟩ := by
    rfl
  have readOther : other.message Api.LoadRequest.ofFields = .ok ⟨"bc"⟩ := by
    rfl
  have alike := token_only_authorizes app "fresh" (.response 503 [] []) same
    ⟨_, found, rfl⟩ read readOther rfl
  exact ⟨alike.1, asked, askedOther⟩

end App
end Http
end KqlCompletion
