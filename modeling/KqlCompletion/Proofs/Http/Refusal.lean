import KqlCompletion.Proofs.Http.Reachable
import KqlCompletion.Proofs.Http.Workspaces

/-! What a refused request leaves behind. An engine is resolved before the rest of a request is
looked at, so a refusal may come when an engine has already been made, and another one has had to go
for it. Nothing else changes. -/
namespace KqlCompletion.Http

open SchemaService (Answer Outcome)

/-- Whether an endpoint resolves the engine of its workspace. A body has to be readable first. -/
def Endpoint.resolves (request : Request) : Endpoint → Bool
  | .schema => true
  | .loadSchema | .suggestions => request.isRead
  | .health | .liveness | .discard | .templates | .template | .metrics => false

def Finding.resolved? (request : Request) : Finding → Option String
  | .found route parameters =>
    if route.endpoint.resolves request then some (parameters.headD "") else none
  | .otherMethod _ | .redirect _ | .unknown => none

def Request.resolved? (request : Request) : Option String :=
  (find request.method request.location.1).resolved? request

def Response.IsRefusal (response : Response) : Prop :=
  400 ≤ response.status ∧ response.status < 500

theorem Response.not_isRefusal_ofLoad {workspace : String} {tables : Nat} {outcome : Outcome}
    {response : Response} (reported : ofLoad workspace tables outcome = some response) :
    ¬ response.IsRefusal := by
  cases outcome with
  | loaded schema => cases reported; exact fun refusal => absurd refusal.1 (by decide : ¬400 ≤ 200)
  | failed error => cases reported; exact fun refusal => absurd refusal.1 (by decide : ¬400 ≤ 200)
  | brokenOff cause => cases reported

namespace App

variable {app : App} {settings : Settings} {scope : Log.Scope} {workspace : String}
  {request : Request} {answer : Answer}

/-- A handler that refuses has resolved the engine, if anything. -/
theorem store_dispatch_of_refused {endpoint : Endpoint} {response : Response}
    (answered : (app.dispatch scope request answer endpoint workspace).response = some response)
    (refusal : response.IsRefusal) :
    (app.dispatch scope request answer endpoint workspace).app.store =
      if endpoint.resolves request then (app.store.acquire workspace).1 else app.store := by
  cases endpoint with
  | loadSchema =>
    rw [dispatch, response_loadSchema] at answered
    rw [dispatch, store_loadSchema, Endpoint.resolves]
    cases read : request.message Api.LoadRequest.ofFields with
    | ok message =>
      rw [read] at answered
      exact absurd refusal (Response.not_isRefusal_ofLoad answered)
    | error _ => rfl
  | schema => rw [dispatch, store_heldSchema]; rfl
  | suggestions => rw [dispatch, store_suggestions]; rfl
  | discard =>
    rw [dispatch, response_discard] at answered
    rw [dispatch, store_discard]
    cases discarded : app.store.discard workspace with
    | none => rfl
    | some rest =>
      rw [discarded] at answered
      cases answered
      exact absurd refusal.1 (by decide : ¬400 ≤ 204)
  | health => rfl
  | liveness => rfl
  | templates => rfl
  | template => rfl
  | metrics => rfl

theorem store_respond_of_refused {response : Response}
    (answered : (app.respond scope request answer).1.response = some response)
    (refusal : response.IsRefusal) :
    (app.respond scope request answer).1.app.store =
      request.resolved?.elim app.store fun workspace => (app.store.acquire workspace).1 := by
  dsimp only [respond] at answered ⊢
  rw [Request.resolved?]
  cases reached : find request.method request.location.1 with
  | found route parameters =>
    rw [reached] at answered
    refine (store_dispatch_of_refused answered refusal).trans ?_
    rw [Finding.resolved?]
    split <;> rfl
  | otherMethod route => rfl
  | redirect path => rfl
  | unknown => rfl

theorem isRefusal_of_dress {id : String} {response : Option Response}
    (refusal : (dress settings id request response).IsRefusal) :
    ∃ answered, response = some answered ∧ answered.IsRefusal := by
  cases response with
  | none => exact absurd refusal.2 (by decide : ¬500 < 500)
  | some answered => exact ⟨answered, rfl, refusal⟩

/-- No route is reached by a preflight. -/
theorem resolved?_of_isPreflight (preflight : Cors.isPreflight request = true) :
    request.resolved? = none := by
  have options : request.method = "OPTIONS" := by
    simp only [Cors.isPreflight, Bool.and_eq_true, beq_iff_eq] at preflight
    exact preflight.1.1
  rw [Request.resolved?]
  cases reached : find request.method request.location.1 with
  | found route parameters =>
    obtain ⟨listed, same⟩ := mem_of_find reached
    exact absurd (same.trans options) (method_of_mem_routes route listed).1
  | otherMethod route => rfl
  | redirect path => rfl
  | unknown => rfl

theorem store_handle_of_refused {fresh : String}
    (refusal : (app.handle fresh request answer).2.1.IsRefusal) :
    (app.handle fresh request answer).1.store =
      request.resolved?.elim app.store fun workspace => (app.store.acquire workspace).1 := by
  have spec := app.handle_spec fresh request answer
  split at spec
  · next preflight =>
    rw [spec, resolved?_of_isPreflight preflight]
    rfl
  · obtain ⟨store, -, response⟩ := app.observe_spec fresh request answer
    rw [Response.IsRefusal, spec.2, response] at refusal
    obtain ⟨answered, same, refused⟩ := isRefusal_of_dress refusal
    rw [spec.1, store]
    exact store_respond_of_refused same refused

/-- A refused request changes nothing unless it resolves the engine of a workspace that is not held.
That workspace then comes last and holds no schema, and if there was no room for it, the one used
longest ago is gone. All others hold what they held. -/
theorem refused_request_keeps_schemas (reachable : Reachable settings app) (fresh : String)
    (request : Request) (answer : Answer)
    (refusal : (app.handle fresh request answer).2.1.IsRefusal) :
    let after := (app.handle fresh request answer).1
    let held := app.store.workspaces
    (request.resolved? = none → after.store = app.store) ∧
    (∀ workspace ∈ held, request.resolved? = some workspace →
      ∀ other, other ∈ after.store.workspaces ↔ other ∈ held) ∧
    (∀ workspace ∉ held, request.resolved? = some workspace →
      after.store.workspaces =
        (if app.store.size < app.store.capacity then held else held.tail) ++ [workspace] ∧
      after.heldBy workspace = none) ∧
    (∀ other ∈ held, other ∈ after.store.workspaces → after.heldBy other = app.heldBy other) := by
  intro after held
  have orderly := reachable.orderly
  have store : after.store = _ := store_handle_of_refused refusal
  clear_value after
  refine ⟨?_, ?_, ?_, ?_⟩
  · intro unresolved
    rw [store, unresolved]
    rfl
  · intro workspace there resolved other
    rw [store, resolved]
    exact Store.mem_workspaces_acquire there
  · intro workspace missing resolved
    rw [resolved] at store
    refine ⟨?_, ?_⟩
    · rw [store]
      exact Store.workspaces_acquire_of_missing orderly missing
    · rw [heldBy, store]
      exact congrArg (·.bind Engine.schema) (Store.engine?_of_missing orderly missing)
  · intro other before still
    rw [heldBy, heldBy]
    cases resolved : request.resolved? with
    | none => rw [store, resolved]; rfl
    | some workspace =>
      rw [resolved] at store
      rw [store] at still ⊢
      exact congrArg (·.bind Engine.schema)
        (Store.engine?_of_held orderly.sound before still)

/-- To look at a workspace that is not held is refused. Where there is room for it, the one that was
held keeps its schema. -/
theorem look_elsewhere_keeps_schema :
    let settings : Settings := { maxEngines := 2 }
    let url (path : String) : Url := ⟨"http", "", "h", none, path, none, none⟩
    let load : Request := ⟨"POST", url "/api/v1/workspaces/a/schema/load",
      [("content-type", "application/json")],
      Text.Utf8.encode "\x7b\"token\":\"t\"\x7d".toList⟩
    let look : Request := ⟨"GET", url "/api/v1/workspaces/b/schema", [], []⟩
    let brought := Answer.response 200 [] (Text.Utf8.encode "\x7b\"tables\":[]\x7d".toList)
    let app := (handle { settings, service := { store := { capacity := 2 } } } "1" load brought).1
    let refused := app.handle "2" look brought
    Reachable settings app ∧ refused.2.1.status = 404 ∧
      refused.1.store.workspaces = ["a", "b"] ∧ refused.1.heldBy "a" = some ⟨[]⟩ := by
  intro settings url load look brought app refused
  have reachable : Reachable settings app := .handled "1" load brought (.start rfl)
  have facts : refused.2.1.status = 404 ∧ app.store.workspaces = ["a"] ∧
      refused.1.store.workspaces = ["a", "b"] ∧ app.heldBy "a" = some ⟨[]⟩ := by decide +kernel
  obtain ⟨status, before, still, held⟩ := facts
  -- from here on nothing is to be evaluated again
  have same : app.handle "2" look brought = refused := rfl
  clear_value refused app look brought
  subst same
  have refusal : (app.handle "2" look brought).2.1.IsRefusal := by
    rw [Response.IsRefusal, status]
    decide
  have kept := (refused_request_keeps_schemas reachable "2" look brought refusal).2.2.2 "a"
  rw [before, still] at kept
  exact ⟨reachable, status, still, (kept (by decide) (by decide)).trans held⟩

/-- Where there is no room for it, the one that was held has had to go for it. -/
theorem look_elsewhere_drops_schema :
    let settings : Settings := { maxEngines := 1 }
    let url (path : String) : Url := ⟨"http", "", "h", none, path, none, none⟩
    let load : Request := ⟨"POST", url "/api/v1/workspaces/a/schema/load",
      [("content-type", "application/json")],
      Text.Utf8.encode "\x7b\"token\":\"t\"\x7d".toList⟩
    let look : Request := ⟨"GET", url "/api/v1/workspaces/b/schema", [], []⟩
    let brought := Answer.response 200 [] (Text.Utf8.encode "\x7b\"tables\":[]\x7d".toList)
    let app := (handle { settings, service := { store := { capacity := 1 } } } "1" load brought).1
    let after := (app.handle "2" look brought).1
    Reachable settings app ∧ (app.handle "2" look brought).2.1.status = 404 ∧
      app.store.workspaces = ["a"] ∧ app.heldBy "a" = some ⟨[]⟩ ∧
      after.store.workspaces = ["b"] ∧ after.heldBy "a" = none := by
  intro settings url load look brought app after
  have reachable : Reachable settings app := .handled "1" load brought (.start rfl)
  refine ⟨reachable, ?_⟩
  decide +kernel

end App
end KqlCompletion.Http
