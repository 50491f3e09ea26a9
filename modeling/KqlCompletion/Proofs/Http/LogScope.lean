import KqlCompletion.Proofs.Http.Labels
import KqlCompletion.Proofs.Http.Refusal

/-! Whose request a log entry tells of. What the log knows is one value for all requests, and one
whose handling is broken off leaves it behind. The next request starts from nothing all the same:
its entries carry its own name, and no workspace but its own or, where an engine has had to go, the
one that this engine was for. -/
namespace KqlCompletion

open Json (Value Members)

/-- What is put in goes before what is there. -/
theorem Json.Members.get?_foldl_insert {own : Members} (distinct : (own.map (·.1)).Nodup)
    (known : Members) (name : Text) :
    Members.get? (own.foldl (fun fields field => Members.insert field.1 field.2 fields) known)
        name =
      (Members.get? own name).or (Members.get? known name) := by
  induction own generalizing known with
  | nil => simp [get?]
  | cons field own ih =>
    obtain ⟨absent, distinct⟩ := List.nodup_cons.1 distinct
    rw [List.foldl_cons, ih distinct]
    by_cases same : field.1 = name
    · subst same
      have others : get? own field.1 = none := by
        simp only [get?, Option.map_eq_none_iff, List.find?_eq_none]
        intro other member again
        exact absent (List.mem_map.2 ⟨other, member, by simpa using again⟩)
      rw [others, get?_insert_self]
      simp [get?]
    · rw [get?_insert_of_ne (Ne.symm same)]
      simp [get?, same]

namespace Log

def Event.workspace? : Event → Option String
  | .schemaLoaded workspace _ | .schemaLoadFailed workspace _ _ | .engineEvicted workspace =>
    some workspace
  | .startup _ _ | .shutdown _ | .requestCompleted _ _ _ => none

theorem Event.nodup_fields (event : Event) : (event.fields.map (·.1)).Nodup := by
  cases event <;> simp [fields]

@[simp] theorem Event.get?_request_id (event : Event) :
    event.fields.get? "request_id" = none := by
  cases event <;> simp [fields, Members.get?]

@[simp] theorem Event.get?_workspace_id (event : Event) :
    event.fields.get? "workspace_id" = event.workspace?.map Value.str := by
  cases event <;> simp [fields, Members.get?, workspace?]

@[simp] theorem Scope.get?_request_id (scope : Scope) :
    scope.fields.get? "request_id" = scope.requestId.map Value.str := by
  obtain ⟨_ | id, _ | workspace⟩ := scope <;> simp [fields, Members.get?]

@[simp] theorem Scope.get?_workspace_id (scope : Scope) :
    scope.fields.get? "workspace_id" = scope.workspace.map Value.str := by
  obtain ⟨_ | id, _ | workspace⟩ := scope <;> simp [fields, Members.get?]

namespace Entry

variable {entry : Entry}

/-- No event names a request by itself. -/
theorem get?_request_id (entry : Entry) :
    entry.fields.get? "request_id" = entry.scope.requestId.map Value.str := by
  rw [fields, Members.get?_foldl_insert entry.event.nodup_fields]
  simp

theorem get?_workspace_id (entry : Entry) : entry.fields.get? "workspace_id" =
    (entry.event.workspace?.or entry.scope.workspace).map Value.str := by
  rw [fields, Members.get?_foldl_insert entry.event.nodup_fields]
  cases own : entry.event.workspace? <;> simp [own]

end Entry
end Log

namespace Store

variable {store : Store} {workspace : String} {entry : String × EngineId}

/-- Who has to go was held before and is not held any more. -/
theorem left_of_evicted (orderly : store.Orderly)
    (evicted : entry ∈ (store.acquire workspace).2.2) :
    entry.1 ∈ store.workspaces ∧ entry.1 ∉ (store.acquire workspace).1.workspaces := by
  have acquired : workspace ∈ (store.acquire workspace).1.workspaces :=
    List.mem_map_of_mem (mem_held_acquired orderly workspace)
  cases found : store.find? workspace with
  | some id =>
    rw [acquire, found] at evicted
    cases evicted
  | none =>
    have unheld := List.find?_eq_none.1 (Option.map_eq_none_iff.1 found)
    have all : ((store.held ++ [(workspace, store.engines.length)]).map Prod.fst).Nodup :=
      nodup_map_append_singleton orderly.sound.workspaces (by simpa using unheld)
    simp only [acquire, found, workspaces, held_clearAll, List.map_drop] at acquired evicted ⊢
    have taken := List.mem_map_of_mem (f := Prod.fst) evicted
    rw [List.map_take] at taken
    have apart := List.disjoint_take_drop all (Nat.le_refl _) taken
    refine ⟨?_, apart⟩
    have among := List.mem_of_mem_take taken
    rw [List.map_append, List.mem_append] at among
    rcases among with old | new
    · exact old
    · obtain rfl : entry.1 = workspace := by simpa using new
      exact absurd acquired apart

end Store

namespace Http

open SchemaService (Answer)

/-- The path of the request leads into the workspace: that is the segment behind those that all
workspaces have in common. -/
def Request.IsInto (workspace : String) (request : Request) : Prop :=
  ∃ rest, request.location.1.toList.splitOn '/' =
    [] :: (workspaces.map String.toList ++ workspace.toList :: rest)

/-- Segments that are given match themselves alone. -/
theorem matchSegments_literals {names : List String} {segments : List Segment}
    {path : List (List Char)} {values : List String} (more : segments ≠ [])
    (matched : matchSegments (names.map .literal ++ segments) path = some values) :
    ∃ rest, path = names.map String.toList ++ rest ∧ matchSegments segments rest = some values := by
  induction names generalizing path with
  | nil => exact ⟨path, rfl, matched⟩
  | cons name names ih =>
    rw [List.map_cons, List.cons_append] at matched
    obtain ⟨next, others, behind⟩ : ∃ next others,
        names.map Segment.literal ++ segments = next :: others :=
      List.exists_cons_of_ne_nil (by simp [more])
    rw [behind] at matched ih
    rcases path with _ | ⟨written, path⟩
    · cases matched
    · simp only [matchSegments] at matched
      split at matched
      · next same =>
        obtain ⟨rest, rfl, left⟩ := ih matched
        exact ⟨rest, by simp [same], left⟩
      · cases matched

/-- Where an engine may be resolved, the path begins as that of a workspace. -/
theorem route_of_resolving : ∀ route ∈ routes,
    route.endpoint = .loadSchema ∨ route.endpoint = .schema ∨ route.endpoint = .suggestions →
      route.group = workspaces ∧ route.segments.head? = some workspaceId := by
  decide

theorem Endpoint.of_resolves {request : Request} {endpoint : Endpoint}
    (resolves : endpoint.resolves request = true) :
    endpoint = .loadSchema ∨ endpoint = .schema ∨ endpoint = .suggestions := by
  cases endpoint <;> simp_all [Endpoint.resolves]

/-- The engine resolved is that of the workspace in the path. -/
theorem Request.isInto_of_resolved {request : Request} {workspace : String}
    (resolved : request.resolved? = some workspace) : request.IsInto workspace := by
  rw [resolved?] at resolved
  cases reached : find request.method request.location.1 with
  | otherMethod route => simp [reached, Finding.resolved?] at resolved
  | redirect path => simp [reached, Finding.resolved?] at resolved
  | unknown => simp [reached, Finding.resolved?] at resolved
  | found route parameters =>
    obtain ⟨resolves, rfl⟩ : route.endpoint.resolves request = true ∧
        parameters.headD "" = workspace := by
      simpa [reached, Finding.resolved?] using resolved
    obtain ⟨listed, -, matched⟩ := matched_of_find reached
    obtain ⟨group, first⟩ := route_of_resolving route listed (Endpoint.of_resolves resolves)
    obtain ⟨more, segments⟩ : ∃ more, route.segments = workspaceId :: more := by
      cases shape : route.segments <;> simp_all
    rw [Route.parameters?, group, segments] at matched
    split at matched
    · next path split =>
      obtain ⟨rest, rfl, own⟩ := matchSegments_literals (List.cons_ne_nil _ _) matched
      rcases rest with _ | ⟨written, rest⟩
      · cases own
      · simp only [workspaceId, matchSegments] at own
        split at own
        · cases own
        · obtain ⟨others, -, rfl⟩ := Option.map_eq_some_iff.1 own
          exact ⟨rest, by simpa using split⟩
    · cases matched

/-- What is logged while the engine of a workspace is used: who has to go for it, and how its load
has ended. -/
inductive Logged (store : Store) (scope : Log.Scope) (workspace : String) : Log.Entry → Prop where
  | evicted {gone : String × EngineId} : gone ∈ (store.acquire workspace).2.2 →
    Logged store scope workspace ⟨scope.bindWorkspace workspace, .engineEvicted gone.1⟩
  | loaded (tables : Nat) :
    Logged store scope workspace ⟨scope.bindWorkspace workspace, .schemaLoaded workspace tables⟩
  | failed (error : SchemaService.LoadError) (kept : Bool) : Logged store scope workspace
    ⟨scope.bindWorkspace workspace, .schemaLoadFailed workspace error kept⟩

namespace App

variable {α : Type} {app : App} {scope : Log.Scope} {workspace : String} {request : Request}
  {answer : Answer} {settings : Settings}

theorem logged_withEngine {handler : EngineHandler}
    (logged : ∀ id service, ∀ event ∈ (handler id service).2.1,
      Logged app.store scope workspace ⟨scope.bindWorkspace workspace, event⟩) :
    ∀ entry ∈ (app.withEngine scope workspace handler).effects.entries,
      Logged app.store scope workspace entry := by
  intro entry member
  obtain ⟨event, happened, rfl⟩ := List.mem_map.1 member
  rcases List.mem_append.1 happened with evicted | reported
  · obtain ⟨gone, left, rfl⟩ := List.mem_map.1 evicted
    exact .evicted left
  · exact logged _ _ event reported

theorem logged_withBody {ofFields : Json.Members → Validation.Checked α}
    {handler : α → EngineHandler}
    (logged : ∀ message id service, ∀ event ∈ (handler message id service).2.1,
      Logged app.store scope workspace ⟨scope.bindWorkspace workspace, event⟩) :
    ∀ entry ∈ (app.withBody scope workspace request ofFields handler).effects.entries,
      request.isRead = true ∧ Logged app.store scope workspace entry := by
  intro entry member
  rw [withBody] at member
  rw [Request.isRead]
  cases read : request.content with
  | error fault =>
    rw [read] at member
    cases member
  | ok content =>
    rw [read] at member
    refine ⟨rfl, logged_withEngine ?_ entry member⟩
    intro id service
    cases content.check ofFields with
    | ok message => exact logged message id service
    | error refusal => cases refusal <;> simp

theorem logged_loadSchema :
    ∀ entry ∈ (app.loadSchema scope workspace request answer).effects.entries,
      request.isRead = true ∧ Logged app.store scope workspace entry := by
  rw [loadSchema]
  apply logged_withBody
  intro message id service event reported
  generalize SchemaService.load app.settings.schemaApi.url workspace message.token answer = ended
    at reported
  obtain ⟨sent, outcome⟩ := ended
  cases outcome with
  | loaded schema =>
    obtain rfl := List.mem_singleton.1 reported
    exact .loaded _
  | failed error =>
    obtain rfl := List.mem_singleton.1 reported
    exact .failed _ _
  | brokenOff cause => cases reported

/-- Nothing is logged by a handler that resolves no engine. -/
theorem logged_dispatch {endpoint : Endpoint} :
    ∀ entry ∈ (app.dispatch scope request answer endpoint workspace).effects.entries,
      endpoint.resolves request = true ∧ Logged app.store scope workspace entry := by
  cases endpoint <;> rw [dispatch]
  case loadSchema => exact logged_loadSchema
  case schema =>
    intro entry member
    exact ⟨rfl, logged_withEngine (by simp) entry member⟩
  case suggestions =>
    rw [suggestions]
    apply logged_withBody
    simp
  all_goals simp [App.answer, discard]

theorem logged_respond {entry : Log.Entry}
    (member : entry ∈ (app.respond scope request answer).1.effects.entries) :
    ∃ workspace, request.resolved? = some workspace ∧
      Logged app.store scope workspace entry := by
  dsimp only [respond] at member
  rw [Request.resolved?]
  cases reached : find request.method request.location.1 with
  | found route parameters =>
    rw [reached] at member
    obtain ⟨resolves, logged⟩ := logged_dispatch entry member
    exact ⟨_, by simp [Finding.resolved?, resolves], logged⟩
  | otherMethod route => rw [reached] at member; cases member
  | redirect path => rw [reached] at member; cases member
  | unknown => rw [reached] at member; cases member

/-- Whose engine is resolved decides who is held afterwards, however the request goes on. -/
theorem workspaces_dispatch {endpoint : Endpoint} (resolves : endpoint.resolves request = true) :
    (app.dispatch scope request answer endpoint workspace).app.store.workspaces =
      (app.store.acquire workspace).1.workspaces := by
  cases endpoint with
  | loadSchema =>
    rw [Endpoint.resolves] at resolves
    rw [dispatch, store_loadSchema, if_pos resolves]
    cases request.message Api.LoadRequest.ofFields <;> rfl
  | schema => rfl
  | suggestions =>
    rw [Endpoint.resolves] at resolves
    rw [dispatch, store_suggestions, if_pos resolves]
  | health => cases resolves
  | liveness => cases resolves
  | discard => cases resolves
  | templates => cases resolves
  | template => cases resolves
  | metrics => cases resolves

theorem workspaces_respond (resolved : request.resolved? = some workspace) :
    (app.respond scope request answer).1.app.store.workspaces =
      (app.store.acquire workspace).1.workspaces := by
  dsimp only [respond]
  rw [Request.resolved?] at resolved
  cases reached : find request.method request.location.1 with
  | found route parameters =>
    obtain ⟨resolves, rfl⟩ : route.endpoint.resolves request = true ∧
        parameters.headD "" = workspace := by
      simpa [reached, Finding.resolved?] using resolved
    exact workspaces_dispatch resolves
  | otherMethod route => simp [reached, Finding.resolved?] at resolved
  | redirect path => simp [reached, Finding.resolved?] at resolved
  | unknown => simp [reached, Finding.resolved?] at resolved

theorem workspaces_of_resolved {fresh : String}
    (resolved : request.resolved? = some workspace) :
    (app.handle fresh request answer).1.store.workspaces =
      (app.store.acquire workspace).1.workspaces := by
  have spec := app.handle_spec fresh request answer
  split at spec
  · next preflight =>
    rw [resolved?_of_isPreflight preflight] at resolved
    cases resolved
  · obtain ⟨store, -, -⟩ := app.observe_spec fresh request answer
    rw [spec.1, store]
    exact workspaces_respond resolved

/-- All that is logged while a request is observed is logged by its handler, but for the last entry,
which tells that the request is answered. -/
theorem mem_entries_observe {fresh : String} {entry : Log.Entry}
    (member : entry ∈ (app.observe fresh request answer).2.2.entries) :
    entry ∈ (app.respond (app.scope (Http.requestId fresh (request.header? "x-request-id")))
        request answer).1.effects.entries ∨
      ∃ path status, entry =
        ⟨app.scope (Http.requestId fresh (request.header? "x-request-id")),
          .requestCompleted request.method path status⟩ := by
  dsimp only [observe] at member
  generalize app.respond (app.scope _) request answer = responded at member ⊢
  obtain ⟨⟨after, response, effects⟩, path⟩ := responded
  cases response with
  | none => exact .inl member
  | some response =>
    rcases List.mem_append.1 member with own | last
    · exact .inl own
    · exact .inr ⟨_, _, List.mem_singleton.1 last⟩

/-- What stays bound when a request has been observed is nothing, or its own name. -/
theorem bound_observe (app : App) (fresh : String) (request : Request) (answer : Answer) :
    let id := Http.requestId fresh (request.header? "x-request-id")
    (app.observe fresh request answer).1.bound =
      if (app.respond (app.scope id) request answer).1.response.isSome then {}
      else ⟨some id, none⟩ := by
  dsimp only [observe]
  generalize app.respond _ request answer = responded
  obtain ⟨⟨after, response, effects⟩, path⟩ := responded
  cases response <;> rfl

theorem bound_startLoad : (app.startLoad scope workspace request).1.app.bound = app.bound := by
  rw [startLoad, withBody]
  cases request.content <;> rfl

theorem bound_endLoad (flight : Flight) : (app.endLoad flight answer).app.bound = app.bound := by
  rw [endLoad]

/-- No workspace stays bound, only ever a name. -/
theorem Reachable.workspace_bound (reachable : Reachable settings app) :
    app.bound.workspace = none := by
  induction reachable with
  | start started =>
    obtain ⟨store, -, made⟩ := Option.map_eq_some_iff.1 started
    obtain ⟨rfl, -⟩ := Prod.mk.inj made
    rfl
  | @handled app fresh request answer _ unbound =>
    have spec := app.handle_spec fresh request answer
    split at spec
    · rw [spec, unbound]
    · rw [spec.1, bound_observe]
      split <;> rfl
  | loadStarted scope workspace request _ unbound => rw [bound_startLoad, unbound]
  | loadEnded flight answer _ unbound => rw [bound_endLoad, unbound]

theorem Reachable.serveAll (reachable : Reachable settings app) (exchanges : List Exchange) :
    Reachable settings (app.serveAll exchanges) := by
  induction exchanges generalizing app with
  | nil => exact reachable
  | cons exchange exchanges ih =>
    exact ih (.handled exchange.fresh exchange.request exchange.answer reachable)

/-- The entry was logged for this request: it carries the name of the request, and no workspace but
the one in its path. Only an engine that has had to go is logged with the workspace that it was for
until then. -/
structure Attributed (before after : Store) (name : String) (request : Request)
    (entry : Log.Entry) : Prop where
  named : entry.fields.get? "request_id" = some (.str name)
  placed : (∀ gone, entry.event ≠ .engineEvicted gone) →
    ∀ value, entry.fields.get? "workspace_id" = some value →
      ∃ workspace : String, value = .str workspace ∧ request.IsInto workspace
  evicted : ∀ gone, entry.event = .engineEvicted gone →
    entry.fields.get? "workspace_id" = some (.str gone) ∧
      gone ∈ before.workspaces ∧ gone ∉ after.workspaces

theorem attributed_completed {before after : Store} {name method path : String} {status : Nat} :
    Attributed before after name request
      ⟨app.scope name, .requestCompleted method path status⟩ := by
  constructor
  · simp [Log.Entry.get?_request_id]
  · simp [Log.Entry.get?_workspace_id, Log.Event.workspace?]
  · simp

theorem attributed_of_logged {before after : Store} {name : String} {entry : Log.Entry}
    (orderly : before.Orderly) (into : request.IsInto workspace)
    (held : after.workspaces = (before.acquire workspace).1.workspaces)
    (logged : Logged before (app.scope name) workspace entry) :
    Attributed before after name request entry := by
  have named : entry.scope = ⟨some name, some workspace⟩ := by
    cases logged <;> rfl
  have own (value : Json.Value) (event : entry.event.workspace? = some workspace)
      (carried : entry.fields.get? "workspace_id" = some value) :
      ∃ workspace : String, value = .str workspace ∧ request.IsInto workspace := by
    rw [Log.Entry.get?_workspace_id, event] at carried
    exact ⟨workspace, by simpa using carried.symm, into⟩
  refine ⟨?_, ?_, ?_⟩
  · simp [Log.Entry.get?_request_id, named]
  · intro stays value carried
    cases logged with
    | evicted left => exact absurd rfl (stays _)
    | loaded tables => exact own value rfl carried
    | failed error kept => exact own value rfl carried
  · intro gone leaves
    cases logged with
    | @evicted entry left =>
      obtain rfl : entry.1 = gone := by simpa using leaves
      obtain ⟨there, absent⟩ := Store.left_of_evicted orderly left
      rw [held]
      exact ⟨by simp [Log.Entry.get?_workspace_id, Log.Event.workspace?], there, absent⟩
    | loaded tables => cases leaves
    | failed error kept => cases leaves

theorem attributed_handle (orderly : app.store.Orderly) {fresh : String} {entry : Log.Entry}
    (member : entry ∈ (app.handle fresh request answer).2.2.entries) :
    Attributed app.store (app.handle fresh request answer).1.store
      (Http.requestId fresh (request.header? "x-request-id")) request entry := by
  by_cases preflight : Cors.isPreflight request = true
  · rw [handle, if_pos preflight] at member
    cases member
  · rw [handle_of_not_isPreflight (by simpa using preflight)] at member
    dsimp only at member
    rcases mem_entries_observe member with own | ⟨path, status, rfl⟩
    · obtain ⟨workspace, resolved, logged⟩ := logged_respond own
      exact attributed_of_logged orderly (Request.isInto_of_resolved resolved)
        (workspaces_of_resolved resolved) logged
    · exact attributed_completed

/-- Whatever has been handled before, broken off or not: all that is logged while a request is
handled carries the name of this request and the workspace of its path, if any, but for the engines
that it drives out. -/
theorem log_keeps_to_request (reachable : Reachable settings app) (exchanges : List Exchange)
    (exchange : Exchange) :
    let before := app.serveAll exchanges
    let handled := before.handle exchange.fresh exchange.request exchange.answer
    before.bound.workspace = none ∧
    ∀ entry ∈ handled.2.2.entries,
      Attributed before.store handled.1.store
        (Http.requestId exchange.fresh (exchange.request.header? "x-request-id"))
        exchange.request entry := by
  intro before handled
  have reached : Reachable settings before := reachable.serveAll exchanges
  exact ⟨reached.workspace_bound, fun entry member => attributed_handle reached.orderly member⟩

/-- A load that is broken off leaves its name bound. The next request drives the engine out that
was made for it, and is logged under its own name only. -/
theorem broken_off_load_lends_no_name :
    let settings : Settings := { maxEngines := 1 }
    let url (path : String) : Url := ⟨"http", "", "h", none, path, none, none⟩
    let load : Exchange := ⟨"fresh", ⟨"POST", url "/api/v1/workspaces/a/schema/load",
      [("content-type", "application/json"), ("x-request-id", "one")],
      Text.Utf8.encode "\x7b\"token\":\"t\"\x7d".toList⟩, .failure "StreamError" ""⟩
    let look : Exchange := ⟨"fresh", ⟨"GET", url "/api/v1/workspaces/b/schema",
      [("x-request-id", "two")], []⟩, .failure "ReadTimeout" ""⟩
    let app : App := { settings, service := { store := { capacity := 1 } } }
    let before := app.serveAll [load]
    let handled := before.handle look.fresh look.request look.answer
    Reachable settings app ∧ before.bound = ⟨some "one", none⟩ ∧
      handled.2.2.entries = [⟨⟨some "two", some "b"⟩, .engineEvicted "a"⟩,
        ⟨⟨some "two", none⟩, .requestCompleted "GET" "/\x7bworkspace_id\x7d/schema" 404⟩] ∧
      ∀ entry ∈ handled.2.2.entries, entry.fields.get? "request_id" = some (.str "two") := by
  intro settings url load look app before handled
  have reachable : Reachable settings app := .start rfl
  have facts : before.bound = ⟨some "one", none⟩ ∧
      handled.2.2.entries = [⟨⟨some "two", some "b"⟩, .engineEvicted "a"⟩,
        ⟨⟨some "two", none⟩, .requestCompleted "GET" "/\x7bworkspace_id\x7d/schema" 404⟩] ∧
      Http.requestId look.fresh (look.request.header? "x-request-id") = "two" := by
    decide +kernel
  obtain ⟨bound, logged, name⟩ := facts
  have kept := log_keeps_to_request reachable [load] look
  -- from here on nothing is to be evaluated again
  have served : app.serveAll [load] = before := rfl
  have same : before.handle look.fresh look.request look.answer = handled := rfl
  clear_value handled before app look
  rw [served] at kept
  dsimp only at kept
  rw [same, name] at kept
  exact ⟨reachable, bound, logged, fun entry member => (kept.2 entry member).named⟩

end App
end Http
end KqlCompletion
