import KqlCompletion.Proofs.Http.Sending
import KqlCompletion.Proofs.Service.Store
import Mathlib.Data.List.Dedup
import Mathlib.Data.List.Perm.Subperm

/-! What a workspace is answered. As long as no workspace has to give way to another, the answer to
a request follows from the earlier requests to the same workspace: what it holds is what its last
load has brought since it was last discarded. -/
namespace KqlCompletion.Http

open SchemaService (Answer Outcome)

inductive Action where
  | load
  | schema
  | suggestions
  | discard
  deriving DecidableEq, Repr

def Action.endpoint : Action → Endpoint
  | .load => .loadSchema
  | .schema => .schema
  | .suggestions => .suggestions
  | .discard => .discard

/-- A request that reaches a route of a workspace, a name for it if it has none, and what the schema
service answers if it is asked. -/
structure Visit where
  action : Action
  workspace : String
  fresh : String
  request : Request
  answer : Answer
  addressed : ∃ route, find request.method request.location.1 = .found route [workspace] ∧
    route.endpoint = action.endpoint

namespace Visit

def id (visit : Visit) : String := requestId visit.fresh (visit.request.header? "x-request-id")

/-- The response in which a handler's answer reaches the client. -/
def dress (settings : Settings) (visit : Visit) : Option Response → Response :=
  App.dress settings visit.id visit.request

def drops (visit : Visit) : Bool := visit.action == .discard

def resolves (visit : Visit) : Bool :=
  match visit.action with
  | .load | .suggestions => visit.request.isRead
  | .schema => true
  | .discard => false

/-- The schema that the visit brings, if it is a load that succeeds. -/
def brings? (settings : Settings) (visit : Visit) : Option Schema :=
  match visit.action, visit.request.message Api.LoadRequest.ofFields with
  | .load, .ok message =>
    match loadOutcome settings visit.workspace message visit.answer with
    | .loaded schema => some schema
    | .failed _ | .brokenOff _ => none
  | _, _ => none

/-- The handler's answer by whether the workspace has an engine and by the schema that it holds. -/
def expected (settings : Settings) (visit : Visit) (engaged : Bool) (held : Option Schema) :
    Option Response :=
  match visit.action with
  | .load =>
    match visit.request.message Api.LoadRequest.ofFields with
    | .ok message =>
      Response.ofLoad visit.workspace
        (((visit.brings? settings).or held).elim 0 (·.tables.length))
        (loadOutcome settings visit.workspace message visit.answer)
    | .error refusal => refusal
  | .schema => Response.ofSchema held
  | .suggestions => Response.ofSuggestions visit.request held
  | .discard => some (.ofDiscard engaged)

/-- Of visits, latest first, those since the last discard. -/
def current (past : List Visit) : List Visit := past.takeWhile (!·.drops)

def engaged (past : List Visit) : Bool := (current past).any resolves

/-- What the last successful load has brought since the last discard. -/
def held (settings : Settings) (past : List Visit) : Option Schema :=
  (current past).findSome? (brings? settings)

def isTo (workspace : String) (visit : Visit) : Bool := visit.workspace == workspace

end Visit

namespace App

def visit (app : App) (visit : Visit) : App :=
  (app.handle visit.fresh visit.request visit.answer).1

def responseTo (app : App) (visit : Visit) : Response :=
  (app.handle visit.fresh visit.request visit.answer).2.1

def visitAll (app : App) (visits : List Visit) : App := visits.foldl App.visit app

def heldBy (app : App) (workspace : String) : Option Schema :=
  (app.store.engine? workspace).bind Engine.schema

end App

theorem matched_of_find {method path : String} {route : Route} {parameters : List String}
    (found : find method path = .found route parameters) :
    route ∈ routes ∧ route.method = method ∧ route.parameters? path = some parameters := by
  rw [find] at found
  dsimp only at found
  split at found
  · next other values first =>
    obtain ⟨rfl, rfl⟩ : other = route ∧ values = parameters := by simpa using found
    have member := List.mem_of_find?_eq_some first
    obtain ⟨listed, isListed, matched⟩ := List.mem_filterMap.1 member
    obtain ⟨taken, matching, same⟩ := Option.map_eq_some_iff.1 matched
    have method := List.find?_some first
    obtain ⟨rfl, rfl⟩ := Prod.mk.inj same
    exact ⟨isListed, by simpa using method, matching⟩
  · split at found
    · cases found
    · split at found <;> cases found

theorem mem_of_find {method path : String} {route : Route} {parameters : List String}
    (found : find method path = .found route parameters) :
    route ∈ routes ∧ route.method = method := by
  obtain ⟨listed, same, -⟩ := matched_of_find found
  exact ⟨listed, same⟩

theorem method_of_mem_routes :
    ∀ route ∈ routes, route.method ≠ "OPTIONS" ∧ route.method ≠ "HEAD" := by
  decide

namespace Visit

variable (app : App) (visit : Visit)

def handled : Handled :=
  app.dispatch (app.scope visit.id) visit.request visit.answer visit.action.endpoint visit.workspace

theorem method_ne : visit.request.method ≠ "OPTIONS" ∧ visit.request.method ≠ "HEAD" := by
  obtain ⟨route, found, -⟩ := visit.addressed
  obtain ⟨listed, same⟩ := mem_of_find found
  exact same ▸ method_of_mem_routes route listed

theorem respond_eq :
    (app.respond (app.scope visit.id) visit.request visit.answer).1 = visit.handled app := by
  obtain ⟨route, found, endpoint⟩ := visit.addressed
  unfold App.respond
  dsimp only
  rw [found, handled, ← endpoint]
  rfl

/-- A visit is observed, and nothing else stands between the client and the handler. -/
theorem handle_eq : app.handle visit.fresh visit.request visit.answer =
    app.observe visit.fresh visit.request visit.answer := by
  obtain ⟨noOptions, noHead⟩ := visit.method_ne
  have noPreflight : Cors.isPreflight visit.request = false := by
    simp [Cors.isPreflight, noOptions]
  rw [App.handle, noPreflight]
  simp [App.withoutBody, noHead]

theorem handle_spec :
    (app.visit visit).store = (visit.handled app).app.store ∧
    (app.visit visit).settings = (visit.handled app).app.settings ∧
    app.responseTo visit = visit.dress app.settings (visit.handled app).response := by
  have spec := app.observe_spec visit.fresh visit.request visit.answer
  dsimp only at spec
  rw [← id, respond_eq] at spec
  rw [App.visit, App.responseTo, handle_eq]
  exact spec

section handled

variable {app : App} {visit : Visit}

theorem handled_of_load (action : visit.action = .load) : visit.handled app =
    app.loadSchema (app.scope visit.id) visit.workspace visit.request visit.answer := by
  rw [handled, action]; rfl

theorem handled_of_schema (action : visit.action = .schema) : visit.handled app =
    app.heldSchema (app.scope visit.id) visit.workspace := by
  rw [handled, action]; rfl

theorem handled_of_suggestions (action : visit.action = .suggestions) : visit.handled app =
    app.suggestions (app.scope visit.id) visit.workspace visit.request := by
  rw [handled, action]; rfl

theorem handled_of_discard (action : visit.action = .discard) : visit.handled app =
    app.discard visit.workspace := by
  rw [handled, action]; rfl

theorem settings_handled (app : App) (visit : Visit) :
    (visit.handled app).app.settings = app.settings := by
  cases action : visit.action with
  | load => rw [handled_of_load action, App.settings_loadSchema]
  | schema => rw [handled_of_schema action, App.settings_heldSchema]
  | suggestions => rw [handled_of_suggestions action, App.settings_suggestions]
  | discard => rw [handled_of_discard action, App.settings_discard]

theorem visited_handled (app : App) (visit : Visit) :
    Store.Visited visit.workspace app.store (visit.handled app).app.store :=
  app.visited_dispatch (app.scope visit.id) visit.request visit.answer visit.action.endpoint
    visit.workspace

end handled

def effect (settings : Settings) (visit : Visit) (engine : Option Engine) : Option Engine :=
  match visit.action with
  | .load =>
    match visit.request.message Api.LoadRequest.ofFields with
    | .ok message =>
      some ((engine.getD {}).complete visit.workspace
        (loadOutcome settings visit.workspace message visit.answer))
    | .error _ => if visit.request.isRead then some (engine.getD {}) else engine
  | .schema => some (engine.getD {})
  | .suggestions => if visit.request.isRead then some (engine.getD {}) else engine
  | .discard => none

theorem schema_getD (engine : Option Engine) :
    (engine.getD {}).schema = engine.bind Engine.schema := by
  cases engine <;> rfl

theorem brings?_of_load {settings : Settings} {visit : Visit} {message : Api.LoadRequest}
    (action : visit.action = .load)
    (read : visit.request.message Api.LoadRequest.ofFields = .ok message) (engine : Engine) :
    (engine.complete visit.workspace
      (loadOutcome settings visit.workspace message visit.answer)).schema =
      (visit.brings? settings).or engine.schema := by
  rw [brings?, action, read]
  dsimp only
  cases loadOutcome settings visit.workspace message visit.answer <;> rfl

theorem brings?_of_refused {settings : Settings} {visit : Visit} {refusal : Option Response}
    (refused : visit.request.message Api.LoadRequest.ofFields = .error refusal) :
    visit.brings? settings = none := by
  rw [brings?, refused]
  cases visit.action <;> rfl

theorem brings?_of_ne_load {settings : Settings} {visit : Visit} (other : visit.action ≠ .load) :
    visit.brings? settings = none := by
  rw [brings?]
  cases action : visit.action with
  | load => exact absurd action other
  | schema => rfl
  | suggestions => rfl
  | discard => rfl

theorem isSome_effect (settings : Settings) (visit : Visit) (engine : Option Engine) :
    (visit.effect settings engine).isSome =
      (!visit.drops && (visit.resolves || engine.isSome)) := by
  rw [effect, drops, resolves]
  cases action : visit.action with
  | load =>
    cases read : visit.request.message Api.LoadRequest.ofFields with
    | ok message => simp [Request.isRead_of_message read]
    | error refusal => cases visit.request.isRead <;> simp
  | schema => simp
  | suggestions => cases visit.request.isRead <;> simp
  | discard => simp

theorem schema_effect (settings : Settings) (visit : Visit) (engine : Option Engine) :
    (visit.effect settings engine).bind Engine.schema =
      if visit.drops then none else (visit.brings? settings).or (engine.bind Engine.schema) := by
  rw [effect, drops]
  cases action : visit.action with
  | load =>
    cases read : visit.request.message Api.LoadRequest.ofFields with
    | ok message => simp [brings?_of_load action read, schema_getD]
    | error refusal =>
      rw [brings?_of_refused read]
      cases visit.request.isRead <;> simp [schema_getD]
  | schema =>
    rw [brings?_of_ne_load (by rw [action]; decide)]
    simp [schema_getD]
  | suggestions =>
    rw [brings?_of_ne_load (by rw [action]; decide)]
    cases visit.request.isRead <;> simp [schema_getD]
  | discard => simp

section room

variable {app : App} {visit : Visit}

/-- A visit acts on the engine of its own workspace alone. -/
theorem engine?_handled (sound : app.store.Sound) (room : app.store.HasRoom visit.workspace)
    (other : String) : (visit.handled app).app.store.engine? other =
      if other = visit.workspace then
        visit.effect app.settings (app.store.engine? visit.workspace)
      else app.store.engine? other := by
  have unchanged : app.store.engine? other =
      if other = visit.workspace then app.store.engine? visit.workspace
      else app.store.engine? other := by
    split <;> simp_all
  rw [effect]
  cases action : visit.action with
  | load =>
    rw [handled_of_load action, App.store_loadSchema]
    cases read : visit.request.message Api.LoadRequest.ofFields with
    | ok message =>
      rw [if_pos (Request.isRead_of_message read)]
      exact Store.engine?_acquire_modify sound room _ other
    | error refusal =>
      cases visit.request.isRead with
      | false => exact unchanged
      | true => exact Store.engine?_acquire room other
  | schema =>
    rw [handled_of_schema action, App.store_heldSchema]
    exact Store.engine?_acquire room other
  | suggestions =>
    rw [handled_of_suggestions action, App.store_suggestions]
    cases visit.request.isRead with
    | false => exact unchanged
    | true => exact Store.engine?_acquire room other
  | discard =>
    rw [handled_of_discard action, App.store_discard]
    cases discarded : app.store.discard visit.workspace with
    | none =>
      have missing := Store.discard_eq_none_iff.1 discarded
      have absent : app.store.engine? visit.workspace = none := by
        rw [Store.engine?, missing]; rfl
      rw [Option.getD_none]
      split
      · next same => rw [same, absent]
      · rfl
    | some rest => exact Store.engine?_discard sound discarded other

theorem response_handled (sound : app.store.Sound) (room : app.store.HasRoom visit.workspace) :
    (visit.handled app).response =
      visit.expected app.settings (app.store.engine? visit.workspace).isSome
        (app.heldBy visit.workspace) := by
  have acquired : ((app.store.acquire visit.workspace).1.engine
      (app.store.acquire visit.workspace).2.1) = (app.store.engine? visit.workspace).getD {} := by
    rw [Store.engine_acquire_of_hasRoom room, Store.engine_id_acquire]
  rw [expected, App.heldBy]
  cases action : visit.action with
  | load =>
    rw [handled_of_load action, App.response_loadSchema]
    cases read : visit.request.message Api.LoadRequest.ofFields with
    | error refusal => rfl
    | ok message =>
      have made := (sound.acquire visit.workspace).lt_of_find? (Store.find?_acquire_self room)
      dsimp only
      rw [Store.engine_modify_self made, acquired, Engine.tableCount, brings?_of_load action read,
        schema_getD]
  | schema =>
    rw [handled_of_schema action, App.response_heldSchema, acquired, schema_getD]
  | suggestions =>
    rw [handled_of_suggestions action, App.response_suggestions, acquired, schema_getD]
  | discard =>
    rw [handled_of_discard action, App.response_discard, Store.discard, Store.engine?]
    simp

theorem settings_visit (app : App) (visit : Visit) :
    (app.visit visit).settings = app.settings :=
  (visit.handle_spec app).2.1.trans (settings_handled app visit)

theorem engine?_visit (sound : app.store.Sound) (room : app.store.HasRoom visit.workspace)
    (other : String) : (app.visit visit).store.engine? other =
      if other = visit.workspace then
        visit.effect app.settings (app.store.engine? visit.workspace)
      else app.store.engine? other := by
  rw [(visit.handle_spec app).1, engine?_handled sound room]

theorem heldBy_visit (sound : app.store.Sound) (room : app.store.HasRoom visit.workspace) :
    (app.visit visit).heldBy visit.workspace =
      if visit.drops then none
      else (visit.brings? app.settings).or (app.heldBy visit.workspace) := by
  rw [App.heldBy, engine?_visit sound room, if_pos rfl, schema_effect, App.heldBy]

theorem responseTo_visit (sound : app.store.Sound) (room : app.store.HasRoom visit.workspace) :
    app.responseTo visit = visit.dress app.settings (visit.expected app.settings
      (app.store.engine? visit.workspace).isSome (app.heldBy visit.workspace)) := by
  rw [(visit.handle_spec app).2.2, response_handled sound room]

end room

theorem engaged_cons (visit : Visit) (past : List Visit) :
    engaged (visit :: past) = (!visit.drops && (visit.resolves || engaged past)) := by
  rw [engaged, current, List.takeWhile_cons]
  cases visit.drops <;> rfl

theorem held_cons (settings : Settings) (visit : Visit) (past : List Visit) :
    held settings (visit :: past) =
      if visit.drops then none else (visit.brings? settings).or (held settings past) := by
  rw [held, current, List.takeWhile_cons]
  cases visit.drops with
  | true => rfl
  | false =>
    rw [Bool.not_false, if_pos rfl, List.findSome?_cons]
    cases visit.brings? settings <;> rfl

/-- Whoever is told of a failure finds everything as it was. -/
theorem unchanged_of_failure (settings : Settings) (visit : Visit) (engine : Option Engine)
    (failure : 400 ≤ (visit.dress settings
      (visit.expected settings engine.isSome (engine.bind Engine.schema))).status) :
    (visit.effect settings engine).bind Engine.schema = engine.bind Engine.schema := by
  rw [schema_effect, drops]
  rw [expected] at failure
  cases action : visit.action with
  | load =>
    rw [action] at failure
    cases read : visit.request.message Api.LoadRequest.ofFields with
    | error refusal => simp [brings?_of_refused read]
    | ok message =>
      rw [read] at failure
      dsimp only at failure
      rw [brings?, action, read]
      dsimp only
      -- Only a load that succeeds brings a schema, and its report is no failure.
      cases outcome : loadOutcome settings visit.workspace message visit.answer with
      | loaded schema =>
        rw [outcome] at failure
        exact absurd failure (show ¬400 ≤ 200 by decide)
      | failed error => simp
      | brokenOff cause => simp
  | schema =>
    have nothing : visit.brings? settings = none := brings?_of_ne_load (by rw [action]; decide)
    simp [nothing]
  | suggestions =>
    have nothing : visit.brings? settings = none := brings?_of_ne_load (by rw [action]; decide)
    simp [nothing]
  | discard =>
    rw [action] at failure
    cases engine with
    | none => rfl
    | some engine => exact absurd failure (show ¬400 ≤ 204 by decide)

end Visit

/-- An application holds what the visits so far, latest first, have left, and there is room for all
workspaces that are mentioned at all. -/
structure Mirrors (settings : Settings) (mentioned : List String) (past : List Visit)
    (app : App) : Prop where
  configured : app.settings = settings
  sound : app.store.Sound
  room : mentioned.dedup.length ≤ app.store.capacity
  workspaces : app.store.workspaces ⊆ mentioned
  engaged : ∀ workspace, (app.store.engine? workspace).isSome =
    Visit.engaged (past.filter (Visit.isTo workspace))
  held : ∀ workspace, app.heldBy workspace =
    Visit.held settings (past.filter (Visit.isTo workspace))

namespace Mirrors

variable {settings : Settings} {mentioned : List String} {past : List Visit} {app : App}
  {visit : Visit}

theorem hasRoom (mirrors : Mirrors settings mentioned past app) {workspace : String}
    (member : workspace ∈ mentioned) : app.store.HasRoom workspace := by
  by_cases there : app.store.contains workspace = true
  · exact .inl there
  · -- Those held and this one are different workspaces and all mentioned, so all of them fit.
    have unheld : workspace ∉ app.store.workspaces := fun held =>
      there (Store.contains_iff_mem.2 held)
    have distinct : (workspace :: app.store.workspaces).Nodup :=
      List.nodup_cons.2 ⟨unheld, mirrors.sound.workspaces⟩
    have among : workspace :: app.store.workspaces ⊆ mentioned.dedup := by
      intro other held
      rw [List.mem_dedup]
      rcases List.mem_cons.1 held with rfl | held
      · exact member
      · exact mirrors.workspaces held
    have bound := (distinct.subperm among).length_le
    have size : app.store.size = app.store.workspaces.length := by
      rw [Store.size, Store.workspaces, List.length_map]
    refine .inr ?_
    have := mirrors.room
    rw [List.length_cons] at bound
    omega

theorem response (mirrors : Mirrors settings mentioned past app)
    (member : visit.workspace ∈ mentioned) :
    let own := past.filter (Visit.isTo visit.workspace)
    app.responseTo visit = visit.dress settings
      (visit.expected settings (Visit.engaged own) (Visit.held settings own)) := by
  intro own
  rw [Visit.responseTo_visit mirrors.sound (mirrors.hasRoom member), mirrors.configured,
    mirrors.engaged, mirrors.held]

theorem engine?_visit (mirrors : Mirrors settings mentioned past app)
    (member : visit.workspace ∈ mentioned) (other : String) :
    (app.visit visit).store.engine? other =
      if other = visit.workspace then visit.effect settings (app.store.engine? visit.workspace)
      else app.store.engine? other := by
  rw [Visit.engine?_visit mirrors.sound (mirrors.hasRoom member), mirrors.configured]

protected theorem visit (mirrors : Mirrors settings mentioned past app)
    (member : visit.workspace ∈ mentioned) :
    Mirrors settings mentioned (visit :: past) (app.visit visit) := by
  have stored := (Visit.handle_spec app visit).1
  have visited := Visit.visited_handled app visit
  rw [← stored] at visited
  refine ⟨?_, visited.sound mirrors.sound, ?_, ?_, ?_, ?_⟩
  · rw [Visit.settings_visit, mirrors.configured]
  · rw [visited.capacity]
    exact mirrors.room
  · intro workspace held
    rcases List.mem_cons.1 (visited.workspaces_subset held) with rfl | old
    · exact member
    · exact mirrors.workspaces old
  · intro workspace
    rw [mirrors.engine?_visit member, List.filter_cons, Visit.isTo]
    by_cases same : workspace = visit.workspace
    · subst same
      simp [Visit.isSome_effect, Visit.engaged_cons, mirrors.engaged]
    · simp [same, Ne.symm same, mirrors.engaged]
  · intro workspace
    rw [App.heldBy, mirrors.engine?_visit member, List.filter_cons, Visit.isTo]
    by_cases same : workspace = visit.workspace
    · subst same
      simp [Visit.schema_effect, Visit.held_cons, ← mirrors.held, App.heldBy]
    · simp [same, Ne.symm same, ← mirrors.held, App.heldBy]

theorem visitAll (mirrors : Mirrors settings mentioned past app) (visits : List Visit)
    (members : ∀ visit ∈ visits, visit.workspace ∈ mentioned) :
    Mirrors settings mentioned (visits.reverse ++ past) (app.visitAll visits) := by
  induction visits generalizing app past with
  | nil => exact mirrors
  | cons visit visits ih =>
    rw [List.reverse_cons, List.append_assoc]
    exact ih (mirrors.visit (members visit List.mem_cons_self))
      fun other member => members other (List.mem_cons_of_mem _ member)

theorem start {events : List Log.Event} (started : App.start? settings = some (app, events))
    (few : (mentioned.dedup.length : Int) ≤ settings.maxEngines) :
    Mirrors settings mentioned [] app := by
  obtain ⟨store, opened, made⟩ := Option.map_eq_some_iff.1 started
  obtain ⟨rfl, -⟩ := Prod.mk.inj made
  rw [Store.ofCapacity?] at opened
  split at opened
  · cases opened
  · obtain rfl := Option.some.inj opened
    have room : mentioned.dedup.length ≤ settings.maxEngines.toNat := by omega
    exact ⟨rfl, Store.Sound.empty _, room, by simp [App.store, Store.workspaces], fun _ => rfl,
      fun _ => rfl⟩

end Mirrors

/-- As long as there is room for all workspaces, a request to one of them is answered by the earlier
requests to the same workspace, no matter which others there were, and a failure changes the schema
of no workspace. The schema held is shown, and suggestions are those for it, if their texts can be
sent; otherwise the handling is broken off. -/
theorem answered_by_own_visits {settings : Settings} {app : App} {events : List Log.Event}
    (started : App.start? settings = some (app, events)) (before : List Visit) (visit : Visit)
    (few : (((before ++ [visit]).map Visit.workspace).dedup.length : Int) ≤ settings.maxEngines) :
    let own := before.filter (Visit.isTo visit.workspace)
    let held := Visit.held settings own.reverse
    let reached := app.visitAll before
    reached.responseTo visit =
      visit.dress settings (visit.expected settings (Visit.engaged own.reverse) held) ∧
    reached.responseTo visit = (app.visitAll own).responseTo visit ∧
    (visit.action = .schema → ∀ schema, held = some schema →
      reached.responseTo visit = visit.dress settings
        (if schema.Sendable then some (.json 200 schema.toJson) else none)) ∧
    (visit.action = .suggestions → ∀ message,
      visit.request.message Api.CompletionRequest.ofFields = .ok message →
      let offered := suggest (some message.text) held
      reached.responseTo visit = visit.dress settings
        (if ∀ suggestion ∈ offered, suggestion.Sendable then
          some (.json 200 (Api.completionJson offered))
        else none)) ∧
    (∀ workspace, reached.heldBy workspace =
      Visit.held settings (before.filter (Visit.isTo workspace)).reverse) ∧
    (400 ≤ (reached.responseTo visit).status →
      ∀ workspace, (reached.visit visit).heldBy workspace = reached.heldBy workspace) := by
  intro own held reached
  have members : ∀ other ∈ before ++ [visit],
      other.workspace ∈ (before ++ [visit]).map Visit.workspace := fun other member =>
    List.mem_map_of_mem member
  have member := members visit (by simp)
  have mirrors := (Mirrors.start started few).visitAll before fun other earlier =>
    members other (List.mem_append_left _ earlier)
  have alone := (Mirrors.start started few).visitAll own fun other earlier =>
    members other (List.mem_append_left _ (List.mem_of_mem_filter earlier))
  rw [List.append_nil] at mirrors alone
  have response := mirrors.response member
  have responseAlone := alone.response member
  dsimp only at response responseAlone
  rw [List.filter_reverse] at response responseAlone
  refine ⟨response, ?_, ?_, ?_, ?_, ?_⟩
  · rw [response, responseAlone, List.filter_filter]
    simp
  · intro shows schema there
    change held = some schema at there
    rw [response, Visit.expected, shows, ← Response.ofSchema_some, ← there]
  · intro asks message read offered
    rw [response, Visit.expected, asks, ← Response.ofSuggestions_of_message read]
  · intro workspace
    rw [mirrors.held, List.filter_reverse]
  · intro failure workspace
    rw [App.heldBy, mirrors.engine?_visit member]
    split
    · next same =>
      subst same
      rw [(Visit.handle_spec reached visit).2.2, mirrors.configured,
        Visit.response_handled mirrors.sound (mirrors.hasRoom member),
        mirrors.configured] at failure
      exact Visit.unchanged_of_failure settings visit _ failure
    · rfl

/-- Looking at two workspaces and discarding one of them. -/
theorem discarded_among_two :
    let settings : Settings := { maxEngines := 2 }
    let app : App := { settings, service := { store := { capacity := 2 } } }
    let url (path : String) : Url := ⟨"http", "", "h", none, path, none, none⟩
    let a : Visit := ⟨.schema, "a", "1", ⟨"GET", url "/api/v1/workspaces/a/schema", [], []⟩,
      .failure "ReadTimeout" "", routes[3], by decide +kernel, rfl⟩
    let b : Visit := ⟨.schema, "b", "2", ⟨"GET", url "/api/v1/workspaces/b/schema", [], []⟩,
      .failure "ReadTimeout" "", routes[3], by decide +kernel, rfl⟩
    let gone : Visit := ⟨.discard, "a", "3", ⟨"DELETE", url "/api/v1/workspaces/a", [], []⟩,
      .failure "ReadTimeout" "", routes[5], by decide +kernel, rfl⟩
    App.start? settings = some (app, [.startup settings.schemaApi.url 2]) ∧
      ((([a, b] ++ [gone]).map Visit.workspace).dedup.length : Int) ≤ settings.maxEngines ∧
      ((app.visitAll [a, b]).responseTo gone).status = 204 := by
  intro settings app url a b gone
  have started : App.start? settings = some (app, [.startup settings.schemaApi.url 2]) := rfl
  have few : ((([a, b] ++ [gone]).map Visit.workspace).dedup.length : Int) ≤
      settings.maxEngines := by decide
  have answered := congrArg Response.status (answered_by_own_visits started [a, b] gone few).1
  refine ⟨started, few, answered.trans ?_⟩
  decide +kernel

/-- A table is named by half of a surrogate pair. It is loaded and held, but it is not shown. -/
theorem held_schema_is_not_shown :
    let app : App := { settings := {}, service := { store := { capacity := 100 } } }
    let schema : Schema := ⟨[⟨[.half 0], none, none⟩]⟩
    let url (path : String) : Url := ⟨"http", "", "h", none, path, none, none⟩
    let load : Visit := ⟨.load, "v", "1", ⟨"POST", url "/api/v1/workspaces/v/schema/load",
      [("content-type", "application/json")], Text.Utf8.encode "\x7b\"token\":\"t\"\x7d".toList⟩,
      .response 200 []
        (Text.Utf8.encode "\x7b\"tables\":[\x7b\"name\":\"\\ud800\"\x7d]\x7d".toList), routes[2],
      by decide +kernel, rfl⟩
    let look : Visit := ⟨.schema, "v", "2", ⟨"GET", url "/api/v1/workspaces/v/schema", [], []⟩,
      .failure "ReadTimeout" "", routes[3], by decide +kernel, rfl⟩
    App.start? {} = some (app, [.startup app.settings.schemaApi.url 100]) ∧
      load.brings? app.settings = some schema ∧ (app.responseTo load).status = 200 ∧
      (app.visitAll [load]).heldBy "v" = some schema ∧
      ((app.visitAll [load]).responseTo look).status = 500 := by
  intro app schema url load look
  exact ⟨rfl, by decide +kernel⟩

end KqlCompletion.Http
