import KqlCompletion.Proofs.Http.Handlers
import KqlCompletion.Proofs.Service.Store

/-! Loads that overlap. A load is under way from the moment its engine has been acquired until the
schema service answers; anything may happen in between, also to its engine. What has happened is
kept as a history, and the invariant ties every engine to the one workspace it was made for. -/
namespace KqlCompletion.Http

open SchemaService (Answer Outcome)

/-- A load under way: the engine it ends on and what was asked for. -/
structure Flight where
  scope : Log.Scope
  ticket : Service.Ticket
  message : Api.LoadRequest
  deriving DecidableEq, Repr

def Flight.outcome (flight : Flight) (settings : Settings) (answer : Answer) : Outcome :=
  loadOutcome settings flight.ticket.workspace flight.message answer

namespace App

/-- Reads the body and acquires the engine. A load is under way then, unless the body is refused. -/
def startLoad (app : App) (scope : Log.Scope) (workspace : String) (request : Request) :
    Handled × Option Flight :=
  (app.withBody scope workspace request Api.LoadRequest.ofFields
      fun _ _ service => (service, [], none, none),
    (request.message Api.LoadRequest.ofFields).toOption.map fun message =>
      ⟨scope, ⟨(app.store.acquire workspace).2.1, workspace⟩, message⟩)

def endLoad (app : App) (flight : Flight) (answer : Answer) : Handled :=
  let ⟨id, workspace⟩ := flight.ticket
  let (sent, outcome) :=
    SchemaService.load app.settings.schemaApi.url workspace flight.message.token answer
  let (service, events) := app.service.completeLoad flight.ticket outcome
  ⟨{ app with service }, Response.ofLoad workspace (service.engine id).tableCount outcome,
    ⟨events.map (⟨flight.scope.bindWorkspace workspace, ·⟩), sent.toList⟩⟩

/-- A load in one step is its start and, if that leaves it under way, its end. -/
theorem loadSchema_eq (app : App) (scope : Log.Scope) (workspace : String) (request : Request)
    (answer : Answer) :
    app.loadSchema scope workspace request answer =
      match app.startLoad scope workspace request with
      | (started, none) => started
      | (started, some flight) =>
        let ended := started.app.endLoad flight answer
        ⟨ended.app, ended.response,
          ⟨started.effects.entries ++ ended.effects.entries, ended.effects.requests⟩⟩ := by
  dsimp only [loadSchema, startLoad, Request.message, withBody]
  cases read : request.content with
  | error fault => rfl
  | ok content =>
    dsimp only
    cases checked : content.check Api.LoadRequest.ofFields with
    | error refusal => cases refusal <;> rfl
    | ok message =>
      dsimp only [withEngine, endLoad, Except.toOption, Option.map]
      generalize SchemaService.load app.settings.schemaApi.url workspace message.token
        answer = ended
      obtain ⟨sent, outcome⟩ := ended
      simp only [List.map_append, List.append_nil]
      cases outcome <;> rfl

theorem settings_endLoad (app : App) (flight : Flight) (answer : Answer) :
    (app.endLoad flight answer).app.settings = app.settings := by
  rw [endLoad]

theorem response_endLoad (app : App) (flight : Flight) (answer : Answer) :
    (app.endLoad flight answer).response =
      Response.ofLoad flight.ticket.workspace
        ((app.store.modify flight.ticket.engine (Engine.complete flight.ticket.workspace
          (flight.outcome app.settings answer))).engine flight.ticket.engine).tableCount
        (flight.outcome app.settings answer) := by
  dsimp only [endLoad, Flight.outcome, loadOutcome]
  generalize SchemaService.load app.settings.schemaApi.url flight.ticket.workspace
    flight.message.token answer = ended
  rfl

theorem store_endLoad (app : App) (flight : Flight) (answer : Answer) :
    (app.endLoad flight answer).app.store =
      app.store.modify flight.ticket.engine
        (Engine.complete flight.ticket.workspace (flight.outcome app.settings answer)) := by
  dsimp only [endLoad, Flight.outcome, loadOutcome]
  generalize SchemaService.load app.settings.schemaApi.url flight.ticket.workspace
    flight.message.token answer = ended
  rfl

end App

structure Overlap where
  app : App
  flights : List Flight := []
  deriving DecidableEq, Repr

/-- A client's request begins or is handled, or the schema service answers a load under way. -/
inductive Move where
  | load (scope : Log.Scope) (workspace : String) (request : Request)
  | answered (index : Nat) (answer : Answer)
  | schema (scope : Log.Scope) (workspace : String)
  | suggestions (scope : Log.Scope) (workspace : String) (request : Request)
  | discard (workspace : String)
  deriving DecidableEq, Repr

inductive Happening where
  | made (engine : EngineId) (workspace : String)
  | started (flight : Flight)
  | ended (flight : Flight) (answer : Answer)
  deriving DecidableEq, Repr

def Move.acquired? : Move → Option String
  | .load _ workspace request | .suggestions _ workspace request =>
    if request.isRead then some workspace else none
  | .schema _ workspace => some workspace
  | .answered _ _ | .discard _ => none

def Move.shows? : Move → Option (String × (Option Schema → Option Response))
  | .schema _ workspace => some (workspace, Response.ofSchema)
  | .suggestions _ workspace request => some (workspace, Response.ofSuggestions request)
  | .load _ _ _ | .answered _ _ | .discard _ => none

def making (workspace : String) (store : Store) : List Happening :=
  if store.contains workspace then [] else [.made store.engines.length workspace]

namespace Overlap

def start (settings : Settings) (capacity : Nat) : Overlap :=
  { app := { settings, service := { store := { capacity } } } }

def step (state : Overlap) : Move → Overlap × Option Response
  | .load scope workspace request =>
    let (started, flight) := state.app.startLoad scope workspace request
    (⟨started.app, state.flights ++ flight.toList⟩, started.response)
  | .answered index answer =>
    match state.flights[index]? with
    | none => (state, none)
    | some flight =>
      let ended := state.app.endLoad flight answer
      (⟨ended.app, state.flights.eraseIdx index⟩, ended.response)
  | .schema scope workspace =>
    let handled := state.app.heldSchema scope workspace
    ({ state with app := handled.app }, handled.response)
  | .suggestions scope workspace request =>
    let handled := state.app.suggestions scope workspace request
    ({ state with app := handled.app }, handled.response)
  | .discard workspace =>
    let handled := state.app.discard workspace
    ({ state with app := handled.app }, handled.response)

def run (state : Overlap) : List Move → Overlap
  | [] => state
  | move :: moves => (state.step move).1.run moves

def happenings (state : Overlap) (move : Move) : List Happening :=
  move.acquired?.elim [] (making · state.app.store) ++
    match move with
    | .load scope workspace request =>
      (state.app.startLoad scope workspace request).2.toList.map .started
    | .answered index answer => state.flights[index]?.toList.map (.ended · answer)
    | .schema _ _ | .suggestions _ _ _ | .discard _ => []

def history (state : Overlap) : List Move → List Happening
  | [] => []
  | move :: moves => state.happenings move ++ (state.step move).1.history moves

end Overlap

/-- The schema was brought by a load of the ticket's workspace that was started on its engine. -/
def Brought (settings : Settings) (past : List Happening) (ticket : Service.Ticket)
    (schema : Schema) : Prop :=
  ∃ flight answer, flight.ticket = ticket ∧ Happening.started flight ∈ past ∧
    Happening.ended flight answer ∈ past ∧ flight.outcome settings answer = .loaded schema

theorem Brought.mono {settings : Settings} {past later : List Happening} {ticket : Service.Ticket}
    {schema : Schema} (brought : Brought settings past ticket schema) (more : past ⊆ later) :
    Brought settings later ticket schema := by
  obtain ⟨flight, answer, same, started, ended, loaded⟩ := brought
  exact ⟨flight, answer, same, more started, more ended, loaded⟩

/-- Every engine was made for one workspace, is only ever held by it and loaded for it, and holds
what such a load brought. -/
structure Faithful (settings : Settings) (past : List Happening) (store : Store)
    (flights : List Flight) : Prop where
  held : ∀ entry ∈ store.held, .made entry.2 entry.1 ∈ past
  made : ∀ engine, engine < store.engines.length ↔
    ∃ workspace, Happening.made engine workspace ∈ past
  owner : ∀ engine workspace other, Happening.made engine workspace ∈ past →
    Happening.made engine other ∈ past → other = workspace
  flights : ∀ flight ∈ flights, .started flight ∈ past
  started : ∀ flight, .started flight ∈ past →
    .made flight.ticket.engine flight.ticket.workspace ∈ past
  holding : ∀ engine holding, (store.engine engine).holding = some holding →
    Brought settings past ⟨engine, holding.workspace⟩ holding.schema

namespace Faithful

variable {settings : Settings} {past : List Happening} {store rest : Store}
  {flights others : List Flight} {flight : Flight} {workspace : String}

theorem empty (settings : Settings) (capacity : Nat) : Faithful settings [] { capacity } [] where
  held := by simp
  made := by simp
  owner := by simp
  flights := by simp
  started := by simp
  holding := by simp [Store.engine]

theorem engine_lt (faithful : Faithful settings past store flights) (member : flight ∈ flights) :
    flight.ticket.engine < store.engines.length :=
  (faithful.made _).2 ⟨_, faithful.started flight (faithful.flights flight member)⟩

/-- The engine acquired was made for the workspace that acquires it. -/
theorem made_acquired (faithful : Faithful settings past store flights) (workspace : String) :
    .made (store.acquire workspace).2.1 workspace ∈ past ++ making workspace store := by
  rw [Store.id_acquire, making, Store.contains]
  cases found : store.find? workspace with
  | none => simp
  | some id => simpa using faithful.held _ (Store.mem_held_of_find? found)

protected theorem acquire (faithful : Faithful settings past store flights) (workspace : String) :
    Faithful settings (past ++ making workspace store) (store.acquire workspace).1 flights := by
  have more : past ⊆ past ++ making workspace store := List.subset_append_left _ _
  have made : ∀ engine other, Happening.made engine other ∈ past ++ making workspace store →
      Happening.made engine other ∈ past ∨ engine = store.engines.length ∧ other = workspace := by
    intro engine other member
    rcases List.mem_append.1 member with old | new
    · exact .inl old
    · rw [making] at new
      split at new
      · cases new
      · exact .inr (by simpa using new)
  refine ⟨?_, ?_, ?_, ?_, ?_, ?_⟩
  · intro entry member
    rcases Store.mem_held_acquire member with old | rfl
    · exact more (faithful.held entry old)
    · exact faithful.made_acquired workspace
  · intro engine
    rw [Store.length_engines_acquire, making]
    split
    · simpa using faithful.made engine
    · rw [Nat.lt_succ_iff_lt_or_eq, faithful.made]
      constructor
      · rintro (⟨owner, old⟩ | rfl)
        · exact ⟨owner, by simp [old]⟩
        · exact ⟨workspace, by simp⟩
      · rintro ⟨owner, member⟩
        rcases List.mem_append.1 member with old | new
        · exact .inl ⟨owner, old⟩
        · exact .inr (by simp_all)
  · intro engine owner other first second
    -- A new engine is numbered behind all others, so nothing in the past is about it.
    have fresh : ∀ owner, Happening.made store.engines.length owner ∉ past := fun owner old =>
      Nat.lt_irrefl _ ((faithful.made _).2 ⟨owner, old⟩)
    rcases made engine owner first with old | ⟨new, rfl⟩ <;>
      rcases made engine other second with again | ⟨same, rfl⟩
    · exact faithful.owner engine owner other old again
    · exact (fresh owner (same ▸ old)).elim
    · exact (fresh other (new ▸ again)).elim
    · rfl
  · exact fun flight member => more (faithful.flights flight member)
  · intro flight member
    have started : .started flight ∈ past := by
      rcases List.mem_append.1 member with old | new
      · exact old
      · rw [making] at new
        split at new <;> simp at new
    exact more (faithful.started flight started)
  · intro engine holding holds
    rw [Store.engine_acquire] at holds
    split at holds
    · simp [Engine.clear] at holds
    · exact (faithful.holding engine holding holds).mono more

protected theorem start (faithful : Faithful settings past store flights)
    (made : .made flight.ticket.engine flight.ticket.workspace ∈ past) :
    Faithful settings (past ++ [.started flight]) store (flights ++ [flight]) where
  held entry member := by simpa using faithful.held entry member
  made engine := by simpa using faithful.made engine
  owner engine owner other first second :=
    faithful.owner engine owner other (by simpa using first) (by simpa using second)
  flights other member := by
    rcases List.mem_append.1 member with old | new
    · exact List.mem_append_left _ (faithful.flights other old)
    · simp [List.mem_singleton.1 new]
  started other member := by
    rcases List.mem_append.1 member with old | new
    · simpa using faithful.started other old
    · have same : other = flight := by simpa using new
      simpa [same] using made
  holding engine holding holds :=
    (faithful.holding engine holding holds).mono (List.subset_append_left _ _)

/-- A load ends on the engine it was started on, so what it brings stays with its workspace. -/
protected theorem finish (faithful : Faithful settings past store flights)
    (member : flight ∈ flights) (fewer : others ⊆ flights) (answer : Answer) :
    Faithful settings (past ++ [.ended flight answer])
      (store.modify flight.ticket.engine
        (Engine.complete flight.ticket.workspace (flight.outcome settings answer))) others where
  held entry member := by simpa using faithful.held entry member
  made engine := by simpa using faithful.made engine
  owner engine owner other first second :=
    faithful.owner engine owner other (by simpa using first) (by simpa using second)
  flights other member := by simpa using faithful.flights other (fewer member)
  started other member := by simpa using faithful.started other (by simpa using member)
  holding engine holding holds := by
    have more : past ⊆ past ++ [.ended flight answer] := List.subset_append_left _ _
    -- The engine may have left the store by now; it still is the one that the load started on.
    by_cases same : engine = flight.ticket.engine
    · subst same
      rw [Store.engine_modify_self (faithful.engine_lt member)] at holds
      cases outcome : flight.outcome settings answer with
      | loaded schema =>
        rw [outcome] at holds
        obtain rfl : _ = holding := Option.some.inj holds
        exact ⟨flight, answer, rfl, more (faithful.flights flight member), by simp, outcome⟩
      | failed error =>
        rw [outcome] at holds
        exact (faithful.holding _ holding holds).mono more
      | brokenOff cause =>
        rw [outcome] at holds
        exact (faithful.holding _ holding holds).mono more
    · rw [Store.engine_modify_of_ne same] at holds
      exact (faithful.holding engine holding holds).mono more

protected theorem discard (faithful : Faithful settings past store flights)
    (discarded : store.discard workspace = some rest) : Faithful settings past rest flights where
  held entry member := by
    rw [Store.held_discard discarded] at member
    exact faithful.held entry (List.mem_of_mem_filter member)
  made engine := by rw [Store.length_engines_discard discarded]; exact faithful.made engine
  owner := faithful.owner
  flights := faithful.flights
  started := faithful.started
  holding engine holding holds := by
    rw [Store.engine_discard discarded] at holds
    split at holds
    · simp [Engine.clear] at holds
    · exact faithful.holding engine holding holds

/-- An engine holds nothing but what a load started on it brought, for the workspace it was made
for. -/
theorem brought (faithful : Faithful settings past store flights) {engine : EngineId}
    (made : .made engine workspace ∈ past) {holding : Holding}
    (holds : (store.engine engine).holding = some holding) :
    holding.workspace = workspace ∧ Brought settings past ⟨engine, workspace⟩ holding.schema := by
  have brought := faithful.holding engine holding holds
  obtain ⟨flight, answer, ticket, started, -, -⟩ := id brought
  have again := faithful.started flight started
  rw [ticket] at again
  have same := faithful.owner engine workspace holding.workspace made again
  exact ⟨same, same ▸ brought⟩

theorem brought_acquired (faithful : Faithful settings past store flights) {schema : Schema}
    (shown : ((store.acquire workspace).1.engine (store.acquire workspace).2.1).schema =
      some schema) :
    Brought settings past ⟨(store.acquire workspace).2.1, workspace⟩ schema := by
  obtain ⟨holding, holds, rfl⟩ := Option.map_eq_some_iff.1 shown
  obtain ⟨same, -⟩ :=
    (faithful.acquire workspace).brought (faithful.made_acquired workspace) holds
  rw [Store.engine_acquire] at holds
  split at holds
  · simp [Engine.clear] at holds
  · have brought := faithful.holding _ holding holds
    rwa [same] at brought

/-- Engines are never forgotten. -/
theorem length_le (faithful : Faithful settings past store flights) {more : List Happening}
    (later : Faithful settings (past ++ more) rest others) :
    store.engines.length ≤ rest.engines.length := by
  by_contra fewer
  obtain ⟨workspace, made⟩ := (faithful.made _).1 (Nat.lt_of_not_le fewer)
  exact Nat.lt_irrefl _ ((later.made _).2 ⟨workspace, List.mem_append_left _ made⟩)

end Faithful

namespace App

variable {app : App} {scope : Log.Scope} {workspace : String} {request : Request} {flight : Flight}

theorem store_startLoad : (app.startLoad scope workspace request).1.app.store =
    if request.isRead then (app.store.acquire workspace).1 else app.store := by
  rw [store, startLoad, service_withBody]
  cases request.message Api.LoadRequest.ofFields <;> split <;> rfl

theorem settings_startLoad :
    (app.startLoad scope workspace request).1.app.settings = app.settings := by
  rw [startLoad, settings_withBody]

theorem startLoad_eq_some (started : (app.startLoad scope workspace request).2 = some flight) :
    request.isRead = true ∧ flight.ticket = ⟨(app.store.acquire workspace).2.1, workspace⟩ := by
  obtain ⟨message, found, rfl⟩ := Option.map_eq_some_iff.1 started
  refine ⟨?_, rfl⟩
  cases read : request.message Api.LoadRequest.ofFields with
  | error refusal => rw [read] at found; cases found
  | ok message => exact Request.isRead_of_message read

end App

namespace Overlap

variable {settings : Settings} {past : List Happening} {state : Overlap}

theorem settings_step (state : Overlap) (move : Move) :
    (state.step move).1.app.settings = state.app.settings := by
  cases move with
  | load scope workspace request => simp only [step, App.settings_startLoad]
  | answered index answer =>
    rw [step]
    cases state.flights[index]? with
    | none => rfl
    | some flight => simp only [App.settings_endLoad]
  | schema scope workspace => simp only [step, App.settings_heldSchema]
  | suggestions scope workspace request => simp only [step, App.settings_suggestions]
  | discard workspace => simp only [step, App.settings_discard]

theorem step_faithful (faithful : Faithful settings past state.app.store state.flights)
    (same : state.app.settings = settings) (move : Move) :
    Faithful settings (past ++ state.happenings move) (state.step move).1.app.store
      (state.step move).1.flights := by
  cases move with
  | load scope workspace request =>
    show Faithful settings _ (state.app.startLoad scope workspace request).1.app.store
      (state.flights ++ (state.app.startLoad scope workspace request).2.toList)
    rw [happenings, Move.acquired?, App.store_startLoad, ← List.append_assoc]
    cases started : (state.app.startLoad scope workspace request).2 with
    | none =>
      cases request.isRead with
      | false => simpa using faithful
      | true => simpa using faithful.acquire workspace
    | some flight =>
      obtain ⟨read, ticket⟩ := App.startLoad_eq_some started
      have made := faithful.made_acquired workspace
      rw [if_pos read, if_pos read]
      exact (faithful.acquire workspace).start (by rw [ticket]; exact made)
  | answered index answer =>
    rw [happenings, step]
    cases found : state.flights[index]? with
    | none => simpa [Move.acquired?] using faithful
    | some flight =>
      have fewer : state.flights.eraseIdx index ⊆ state.flights := List.eraseIdx_subset
      have ended := faithful.finish (List.mem_of_getElem? found) fewer answer
      simpa [Move.acquired?, App.store_endLoad, same] using ended
  | schema scope workspace =>
    rw [happenings, List.append_nil]
    exact faithful.acquire workspace
  | suggestions scope workspace request =>
    show Faithful settings _ (state.app.suggestions scope workspace request).app.store
      state.flights
    rw [happenings, List.append_nil, Move.acquired?, App.store_suggestions]
    cases request.isRead with
    | false => simpa using faithful
    | true => exact faithful.acquire workspace
  | discard workspace =>
    show Faithful settings _ (state.app.discard workspace).app.store state.flights
    rw [happenings, List.append_nil, Move.acquired?, App.store_discard]
    cases discarded : state.app.store.discard workspace with
    | none => simpa using faithful
    | some rest => simpa using faithful.discard discarded

theorem settings_run (state : Overlap) (moves : List Move) :
    (state.run moves).app.settings = state.app.settings := by
  induction moves generalizing state with
  | nil => rfl
  | cons move moves ih => rw [run, ih, settings_step]

theorem run_faithful (faithful : Faithful settings past state.app.store state.flights)
    (same : state.app.settings = settings) (moves : List Move) :
    Faithful settings (past ++ state.history moves) (state.run moves).app.store
      (state.run moves).flights := by
  induction moves generalizing state past with
  | nil => simpa [history, run] using faithful
  | cons move moves ih =>
    have next := ih (step_faithful faithful same move) (by rw [settings_step, same])
    simpa only [history, run, List.append_assoc] using next

theorem engine_of_made {move : Move} {engine : EngineId} {workspace : String}
    (made : .made engine workspace ∈ state.happenings move) :
    engine = state.app.store.engines.length := by
  rcases List.mem_append.1 made with new | other
  · cases acquired : move.acquired? with
    | none => simp [acquired] at new
    | some acquiring =>
      rw [acquired, Option.elim_some, making] at new
      split at new
      · cases new
      · simp_all
  · cases move <;> simp at other

/-- What is made later is none of the engines there were. -/
theorem le_of_made_later (faithful : Faithful settings past state.app.store state.flights)
    (same : state.app.settings = settings) {moves : List Move} {engine : EngineId}
    {workspace : String} (made : .made engine workspace ∈ state.history moves) :
    state.app.store.engines.length ≤ engine := by
  induction moves generalizing state past with
  | nil => cases made
  | cons move moves ih =>
    have next := step_faithful faithful same move
    rcases List.mem_append.1 made with now | later
    · exact Nat.le_of_eq (engine_of_made now).symm
    · exact Nat.le_trans (faithful.length_le next) (ih next (by rw [settings_step, same]) later)

theorem shown_brought (faithful : Faithful settings past state.app.store state.flights)
    {move : Move} {workspace : String} {shown : Option Schema → Option Response}
    (shows : move.shows? = some (workspace, shown)) :
    ∃ held, (state.step move).2 = shown held ∧ ∀ schema, held = some schema →
      ∃ engine, Brought settings past ⟨engine, workspace⟩ schema := by
  refine ⟨((state.app.store.acquire workspace).1.engine
    (state.app.store.acquire workspace).2.1).schema, ?_,
    fun schema holds => ⟨_, faithful.brought_acquired holds⟩⟩
  cases move with
  | schema scope acquiring =>
    obtain ⟨rfl, rfl⟩ : acquiring = workspace ∧ _ = shown := by simpa [Move.shows?] using shows
    rw [step, App.response_heldSchema]
  | suggestions scope acquiring request =>
    obtain ⟨rfl, rfl⟩ : acquiring = workspace ∧ _ = shown := by simpa [Move.shows?] using shows
    rw [step, App.response_suggestions]
  | load scope acquiring request => cases shows
  | answered index answer => cases shows
  | discard discarded => cases shows

/-- The tables that a load reports are those its engine holds afterwards. -/
theorem reported_brought (faithful : Faithful settings past state.app.store state.flights)
    (same : state.app.settings = settings) {index : Nat} {flight : Flight}
    (found : state.flights[index]? = some flight) (answer : Answer) :
    ∃ held : Option Schema, (state.step (.answered index answer)).2 =
        Response.ofLoad flight.ticket.workspace (held.elim 0 (·.tables.length))
          (flight.outcome settings answer) ∧
      ∀ schema, held = some schema →
        Brought settings (past ++ state.happenings (.answered index answer)) flight.ticket
          schema := by
  have ended := step_faithful faithful same (.answered index answer)
  have member := List.mem_of_getElem? found
  have made := faithful.started flight (faithful.flights flight member)
  refine ⟨((state.step (.answered index answer)).1.app.store.engine flight.ticket.engine).schema,
    ?_, ?_⟩
  · rw [step, found, ← same]
    simp only [App.response_endLoad, App.store_endLoad]
    rfl
  · intro schema shown
    obtain ⟨holding, holds, rfl⟩ := Option.map_eq_some_iff.1 shown
    exact (ended.brought (List.mem_append_left _ made) holds).2

theorem reports_loaded_iff (faithful : Faithful settings past state.app.store state.flights)
    {index : Nat} {flight : Flight} (found : state.flights[index]? = some flight)
    (answer : Answer) (workspace : String) (count : Int) :
    (state.step (.answered index answer)).2 =
        some (.json 200 (Api.LoadReport.toJson ⟨true, workspace, some count⟩)) ↔
      workspace = flight.ticket.workspace ∧ ∃ schema,
        flight.outcome state.app.settings answer = .loaded schema ∧
          count = schema.tables.length := by
  have made := faithful.engine_lt (List.mem_of_getElem? found)
  rw [step, found]
  simp only [App.response_endLoad, Store.engine_modify_self made]
  cases flight.outcome state.app.settings answer with
  | loaded schema =>
    simp [Response.ofLoad, Response.json, Api.LoadReport.toJson, Engine.complete,
      Engine.tableCount, Engine.schema, eq_comm]
  | failed error => simp [Response.ofLoad, Response.json, Api.LoadReport.toJson]
  | brokenOff cause => simp [Response.ofLoad]

/-- However loads overlap with one another, with other requests and with engines leaving the store:
an engine holds only what a load brought that was started on it, for the workspace it was made for,
and nothing else is shown or counted for a workspace; a load does not touch engines made after it
started; a load that reports success reports the tables of its own schema. -/
theorem overlapping_loads_keep_to_their_engines (settings : Settings) (capacity : Nat)
    (moves : List Move) :
    let state := (start settings capacity).run moves
    let past := (start settings capacity).history moves
    (∀ engine < state.app.store.engines.length,
      ∃! workspace, Happening.made engine workspace ∈ past) ∧
    (∀ engine workspace holding, .made engine workspace ∈ past →
      (state.app.store.engine engine).holding = some holding →
      holding.workspace = workspace ∧
        Brought settings past ⟨engine, workspace⟩ holding.schema) ∧
    (∀ move workspace shown, move.shows? = some (workspace, shown) →
      ∃ held, (state.step move).2 = shown held ∧ ∀ schema, held = some schema →
        ∃ engine, Brought settings past ⟨engine, workspace⟩ schema) ∧
    (∀ index flight answer, state.flights[index]? = some flight →
      ∃ held : Option Schema, (state.step (.answered index answer)).2 =
          Response.ofLoad flight.ticket.workspace (held.elim 0 (·.tables.length))
            (flight.outcome settings answer) ∧
        ∀ schema, held = some schema →
          Brought settings (past ++ state.happenings (.answered index answer)) flight.ticket
            schema) ∧
    (∀ flight later index answer engine workspace, flight ∈ state.flights →
      .made engine workspace ∈ state.history later →
      (state.run later).flights[index]? = some flight →
      ((state.run later).step (.answered index answer)).1.app.store.engine engine =
        (state.run later).app.store.engine engine) ∧
    (∀ index flight answer (workspace : String) count, state.flights[index]? = some flight →
      ((state.step (.answered index answer)).2 =
          some (.json 200 (Api.LoadReport.toJson ⟨true, workspace, some count⟩)) ↔
        workspace = flight.ticket.workspace ∧ ∃ schema,
          flight.outcome settings answer = .loaded schema ∧ count = schema.tables.length)) := by
  intro state past
  have same : state.app.settings = settings := settings_run _ _
  have faithful : Faithful settings past state.app.store state.flights := by
    have empty : Faithful settings [] (start settings capacity).app.store
        (start settings capacity).flights := .empty settings capacity
    exact run_faithful empty rfl moves
  refine ⟨?_, ?_, ?_, ?_, ?_, ?_⟩
  · intro engine lt
    obtain ⟨workspace, made⟩ := (faithful.made engine).1 lt
    exact ⟨workspace, made, fun other again => faithful.owner engine workspace other made again⟩
  · intro engine workspace holding made holds
    exact faithful.brought made holds
  · intro move workspace shown shows
    exact shown_brought faithful shows
  · intro index flight answer found
    exact reported_brought faithful same found answer
  · intro flight later index answer engine workspace member made found
    have apart : engine ≠ flight.ticket.engine := by
      have before := faithful.engine_lt member
      have after := le_of_made_later faithful same made
      exact Nat.ne_of_gt (Nat.lt_of_lt_of_le before after)
    rw [step, found]
    simp only [App.store_endLoad, Store.engine_modify_of_ne apart]
  · intro index flight answer workspace count found
    rw [← same]
    exact reports_loaded_iff faithful found answer workspace count

end Overlap
end KqlCompletion.Http
