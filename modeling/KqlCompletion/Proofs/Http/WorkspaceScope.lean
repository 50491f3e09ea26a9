import KqlCompletion.Proofs.Http.LogScope

/-! How long the log knows the workspace of a request. It gets to know of it when the engine is
resolved, inside the handler. What the handler logs carries the workspace. Who has called the handler
is not told, so the entry that ends the request carries none. -/
namespace KqlCompletion

open Json (Value)

namespace Log

/-- The entry carries the workspace, unless it tells of an engine that has had to go for it. -/
structure Entry.Carries (workspace : String) (entry : Entry) : Prop where
  known : entry.scope.workspace = some workspace
  written : (∀ gone, entry.event ≠ .engineEvicted gone) →
    entry.fields.get? "workspace_id" = some (.str workspace)

end Log

namespace Http

open SchemaService (Answer)

/-- The entry tells of an engine that goes for that of the workspace, and carries the workspace that
the engine was for. -/
structure Evicts (store : Store) (workspace gone : String) (entry : Log.Entry) : Prop where
  left : ∃ id, (gone, id) ∈ (store.acquire workspace).2.2
  written : entry.fields.get? "workspace_id" = some (.str gone)

namespace Logged

variable {store : Store} {scope : Log.Scope} {workspace : String} {entry : Log.Entry}

theorem completes (logged : Logged store scope workspace entry) : entry.completes = false := by
  cases logged <;> simp [Log.Entry.completes, Log.Event.name]

theorem carries (logged : Logged store scope workspace entry) : entry.Carries workspace := by
  cases logged with
  | evicted left => exact ⟨rfl, fun other => absurd rfl (other _)⟩
  | loaded tables => exact ⟨rfl, fun _ => Log.Entry.get?_workspace_id _⟩
  | failed error kept => exact ⟨rfl, fun _ => Log.Entry.get?_workspace_id _⟩

theorem evicts {gone : String} (logged : Logged store scope workspace entry)
    (tells : entry.event = .engineEvicted gone) : Evicts store workspace gone entry := by
  cases logged with
  | @evicted entry left =>
    obtain rfl : entry.1 = gone := by simpa using tells
    exact ⟨⟨entry.2, left⟩, Log.Entry.get?_workspace_id _⟩
  | loaded tables => cases tells
  | failed error kept => cases tells

end Logged

namespace App

variable {app : App} {request : Request} {workspace : String} {answer : Answer} {fresh : String}

theorem not_isPreflight_of_resolved (resolved : request.resolved? = some workspace) :
    Cors.isPreflight request = false := by
  rw [Bool.eq_false_iff]
  intro preflight
  rw [resolved?_of_isPreflight preflight] at resolved
  cases resolved

/-- Where an entry comes from: the handler, or the end of the request. -/
theorem origin_of_resolved (resolved : request.resolved? = some workspace) {entry : Log.Entry}
    (member : entry ∈ (app.observe fresh request answer).2.2.entries) :
    Logged app.store (app.scope (Http.requestId fresh (request.header? "x-request-id")))
        workspace entry ∨
      ∃ path status, entry =
        ⟨app.scope (Http.requestId fresh (request.header? "x-request-id")),
          .requestCompleted request.method path status⟩ := by
  rcases mem_entries_observe member with own | ended
  · obtain ⟨other, also, logged⟩ := logged_respond own
    obtain rfl : workspace = other := by simpa [resolved] using also
    exact .inl logged
  · exact .inr ended

/-- The end of a request is logged once, unless its handling is broken off. -/
theorem length_completes_observe (app : App) (fresh : String) (request : Request)
    (answer : Answer) :
    ((app.observe fresh request answer).2.2.entries.filter Log.Entry.completes).length =
      if (app.observe fresh request answer).2.1.status = 500 then 0 else 1 := by
  split
  · next broken =>
    rw [status_observe_eq_iff] at broken
    have quiet := app.leavesUnobserved_respond
      (app.scope (Http.requestId fresh (request.header? "x-request-id"))) request answer
    dsimp only [observe]
    generalize app.respond _ request answer = responded at quiet broken
    obtain ⟨⟨after, response, effects⟩, path⟩ := responded
    obtain rfl : response = none := broken
    simpa using quiet.silent
  · next unbroken =>
    rw [(observed_of_status_ne unbroken).logged, List.length_singleton]

/-- Once its engine is resolved, all that is logged for a request carries its workspace, up to the
entry that ends the request. That one, there unless the handling is broken off, carries none. -/
theorem workspace_logged_by_handler_alone (app : App) (fresh : String) (answer : Answer)
    (resolved : request.resolved? = some workspace) :
    let handled := app.handle fresh request answer
    let entries := handled.2.2.entries
    (∀ entry ∈ entries, entry.completes = false →
      entry.Carries workspace ∧
      ∀ gone, entry.event = .engineEvicted gone → Evicts app.store workspace gone entry) ∧
    (∀ entry ∈ entries, entry.completes = true →
      entry.scope.workspace = none ∧ entry.fields.get? "workspace_id" = none) ∧
    (entries.filter Log.Entry.completes).length = if handled.2.1.status = 500 then 0 else 1 := by
  obtain ⟨status, -⟩ := withoutBody_spec request (app.observe fresh request answer).2.1
  rw [handle_of_not_isPreflight (not_isPreflight_of_resolved resolved)]
  dsimp only
  rw [status]
  refine ⟨?_, ?_, length_completes_observe app fresh request answer⟩
  · intro entry member ongoing
    rcases origin_of_resolved resolved member with logged | ⟨path, status, rfl⟩
    · exact ⟨logged.carries, fun gone => logged.evicts⟩
    · simp [Log.Entry.completes, Log.Event.name] at ongoing
  · intro entry member ended
    rcases origin_of_resolved resolved member with logged | ⟨path, status, rfl⟩
    · rw [logged.completes] at ended
      cases ended
    · exact ⟨rfl, Log.Entry.get?_workspace_id _⟩

/-- A load drives out the engine of another workspace, and fails. -/
theorem failed_load_carries_workspace :
    let settings : Settings := { maxEngines := 1 }
    let url (path : String) : Url := ⟨"http", "", "h", none, path, none, none⟩
    let look : Exchange := ⟨"one", ⟨"GET", url "/api/v1/workspaces/a/schema", [], []⟩,
      .failure "ReadTimeout" ""⟩
    let load : Request := ⟨"POST", url "/api/v1/workspaces/b/schema/load",
      [("content-type", "application/json")], Text.Utf8.encode "\x7b\"token\":\"t\"\x7d".toList⟩
    let app : App := { settings, service := { store := { capacity := 1 } } }
    let handled := (app.serveAll [look]).handle "two" load (.failure "ReadTimeout" "")
    load.resolved? = some "b" ∧
      handled.2.2.entries.map (·.event.name) =
        ["engine_evicted", "schema_load_failed", "request_completed"] ∧
      (∀ entry ∈ handled.2.2.entries, entry.completes = false → entry.Carries "b") ∧
      ∀ entry ∈ handled.2.2.entries, entry.completes = true →
        entry.fields.get? "workspace_id" = none := by
  intro settings url look load app handled
  have facts : load.resolved? = some "b" ∧ handled.2.2.entries.map (·.event.name) =
      ["engine_evicted", "schema_load_failed", "request_completed"] := by
    decide +kernel
  obtain ⟨resolved, names⟩ := facts
  have carries := workspace_logged_by_handler_alone (app.serveAll [look]) "two"
    (.failure "ReadTimeout" "") resolved
  have same : (app.serveAll [look]).handle "two" load (.failure "ReadTimeout" "") = handled := rfl
  -- from here on nothing is to be evaluated again
  clear_value handled app look
  dsimp only at carries
  rw [same] at carries
  obtain ⟨carried, ended, -⟩ := carries
  exact ⟨resolved, names, fun entry member ongoing => (carried entry member ongoing).1,
    fun entry member last => (ended entry member last).2⟩

/-- The engine of a workspace is resolved, and the entry that ends the request does not carry the
workspace. -/
theorem end_of_request_carries_no_workspace :
    let request : Request :=
      ⟨"GET", ⟨"http", "", "h", none, "/api/v1/workspaces/w/schema", none, none⟩, [], []⟩
    let app : App := { settings := {}, service := { store := { capacity := 100 } } }
    let entry : Log.Entry :=
      ⟨⟨some "fresh", none⟩, .requestCompleted "GET" "/\x7bworkspace_id\x7d/schema" 404⟩
    request.resolved? = some "w" ∧
      (app.handle "fresh" request (.failure "ReadTimeout" "")).2.2.entries = [entry] ∧
      entry.fields.get? "workspace_id" ≠ some (.str "w") := by
  intro request app entry
  have facts : request.resolved? = some "w" ∧
      (app.handle "fresh" request (.failure "ReadTimeout" "")).2.2.entries = [entry] := by
    decide +kernel
  refine ⟨facts.1, facts.2, ?_⟩
  rw [Log.Entry.get?_workspace_id]
  simp [entry, Log.Event.workspace?]

end App
end Http
end KqlCompletion
