import KqlCompletion.Proofs.Http.Reachable
import KqlCompletion.Proofs.Http.Workspaces
import KqlCompletion.Proofs.Json.RoundTrip
import KqlCompletion.Proofs.Suggestion.Contents

/-! A schema that is shown can be loaded again: the value in which it is written is read as a schema
of the same contents, and what depends on contents alone does not tell the one from the other. Not
every schema that is held is shown: one whose texts cannot be sent is not. -/
namespace KqlCompletion

open Text (isAscii)

namespace Schema

open Json.Reader (Readable)

theorem readable_nullOr (depth : Nat) {text : Option Text}
    (sound : ∀ told ∈ text, told.isSound = true) : Readable depth (nullOr text) := by
  cases text with
  | none => exact .null
  | some text => exact .of_isSound (sound text rfl)

theorem Column.Sendable.readable_toJson {column : Column} (sendable : column.Sendable) :
    Readable 1 column.toJson := by
  refine .obj (by simp) (by simp [Text.settled_of]) ?_
  simp only [List.forall_mem_cons, List.not_mem_nil, false_implies, implies_true, and_true]
  exact ⟨.of_isSound sendable.name, .of_isSound sendable.type,
    readable_nullOr 0 sendable.description⟩

theorem Table.Sendable.readable_toJson {table : Table} (sendable : table.Sendable) :
    Readable 3 table.toJson := by
  refine .obj (by simp) (by simp [Text.settled_of]) ?_
  simp only [List.forall_mem_cons, List.not_mem_nil, false_implies, implies_true, and_true]
  refine ⟨.of_isSound sendable.name, readable_nullOr 2 sendable.description, .arr ?_⟩
  intro item listed
  obtain ⟨column, among, rfl⟩ := List.mem_map.1 listed
  exact (sendable.columns column among).readable_toJson

variable {schema : Schema}

theorem Sendable.readable_toJson (sendable : schema.Sendable) : Readable 5 schema.toJson := by
  refine .obj (by simp) (by simp [Text.settled_of]) ?_
  simp only [List.forall_mem_cons, List.not_mem_nil, false_implies, implies_true, and_true]
  refine .arr ?_
  intro item listed
  obtain ⟨table, among, rfl⟩ := List.mem_map.1 listed
  exact (sendable table among).readable_toJson

theorem Sendable.ofBytes_toJson (sendable : schema.Sendable) :
    Json.ofBytes schema.toJson.bytes = .ok schema.toJson :=
  Json.ofBytes_bytes sendable.readable_toJson (by decide)

end Schema

namespace SchemaService

/-- The answer is a success whose body is the value, and no header gives it another meaning. -/
inductive Answer.Carries (value : Json.Value) : Answer → Prop
  | plainly {status : Nat} {headers : List (String × String)}
    (success : Status.isSuccess status = true)
    (ascii : (headers.all fun header => isAscii header.1 && isAscii header.2) = true)
    (uncoded : header? headers "content-encoding" = none) :
    Carries value (.response status headers value.bytes)

theorem judge_of_carries {value : Json.Value} {answer : Answer} (carries : answer.Carries value)
    (asked : Url) : judge asked answer = judgeBody value.bytes := by
  cases carries with
  | @plainly status headers success ascii uncoded =>
    have noPlace : redirectPlace? status headers = none := by
      rw [Status.isSuccess] at success
      rw [redirectPlace?, if_neg]
      simp [Status.isRedirect] at success ⊢
      omega
    have uncoded : codings headers = [] := by
      rw [codings, uncoded]
      rfl
    simp [judge, ascii, decodeBody, uncoded, judgeStatus, noPlace, success, pure, Except.pure]

theorem load_eq_judge {apiUrl workspace : String} {token : Text} {answer : Answer} {schema : Schema}
    (loaded : (load apiUrl workspace token answer).2 = .loaded schema) :
    ∃ asked, ∀ other again, isAscii other = true →
      (load apiUrl workspace other again).2 = judge asked again := by
  rw [load, request] at loaded
  cases parsed : Url.parse (schemaAddress apiUrl workspace) with
  | error fault => simp [parsed] at loaded
  | ok asked =>
    rw [parsed] at loaded
    dsimp only at loaded
    cases texts : isAscii token && isAscii asked.hostText with
    | false => simp [texts] at loaded
    | true =>
      have host : isAscii asked.hostText = true := (Bool.and_eq_true_iff.1 texts).2
      cases shown : asked.shownHost with
      | error fault => simp [texts, shown] at loaded
      | ok name =>
        refine ⟨asked, fun other again ascii => ?_⟩
        simp [load, request, parsed, ascii, host, shown]

/-- Where one schema has been loaded, any other one can be loaded. -/
theorem loaded_of_carries {apiUrl workspace : String} {token other : Text} {answer again : Answer}
    {schema shown : Schema} (sendable : shown.Sendable)
    (loaded : (load apiUrl workspace token answer).2 = .loaded schema)
    (ascii : isAscii other = true) (carries : again.Carries shown.toJson) :
    (load apiUrl workspace other again).2 = .loaded shown.filled := by
  obtain ⟨asked, judged⟩ := load_eq_judge loaded
  rw [judged other again ascii, judge_of_carries carries, judgeBody, sendable.ofBytes_toJson]
  dsimp only
  rw [shown.ofJson_toJson]

end SchemaService

namespace Http

open SchemaService (Answer Outcome)

namespace Visit

variable {app : App} {visit : Visit} {schema : Schema}

theorem load_of_brings? {settings : Settings} (brought : visit.brings? settings = some schema) :
    visit.action = .load ∧ ∃ message, visit.request.message Api.LoadRequest.ofFields = .ok message ∧
      loadOutcome settings visit.workspace message visit.answer = .loaded schema := by
  have action : visit.action = .load := by
    by_contra other
    simp [brings?_of_ne_load other] at brought
  refine ⟨action, ?_⟩
  rw [brings?, action] at brought
  cases read : visit.request.message Api.LoadRequest.ofFields with
  | error refusal => simp [read] at brought
  | ok message =>
    refine ⟨message, rfl, ?_⟩
    cases outcome : loadOutcome settings visit.workspace message visit.answer with
    | loaded other => simpa [read, outcome] using brought
    | failed error => simp [read, outcome] at brought
    | brokenOff cause => simp [read, outcome] at brought

/-- What a load brings is held, even if another workspace has to go for it. -/
theorem heldBy_of_brings? (orderly : app.store.Orderly)
    (brought : visit.brings? app.settings = some schema) :
    (app.visit visit).heldBy visit.workspace = some schema := by
  obtain ⟨action, message, read, -⟩ := load_of_brings? brought
  have sound := orderly.sound.acquire visit.workspace
  have found := Store.find?_of_mem sound (Store.mem_held_acquired orderly visit.workspace)
  rw [App.heldBy, (visit.handle_spec app).1, handled_of_load action, App.store_loadSchema,
    if_pos (Request.isRead_of_message read), read]
  dsimp only
  rw [Store.engine?_modify sound found, if_pos rfl, Option.bind_some, brings?_of_load action read,
    brought]
  rfl

theorem hasRoom_of_heldBy {workspace : String} (held : app.heldBy workspace = some schema) :
    app.store.HasRoom workspace := by
  refine .inl ?_
  rw [Store.contains]
  cases found : app.store.find? workspace with
  | some id => rfl
  | none => simp [App.heldBy, Store.engine?, found] at held

/-- Visits that only show what is held, or complete with it. -/
def Looks (visit : Visit) : Prop := visit.action = .schema ∨ visit.action = .suggestions

theorem Looks.drops (looks : visit.Looks) : visit.drops = false := by
  rcases looks with action | action <;> simp [Visit.drops, action]

theorem Looks.brings? (looks : visit.Looks) (settings : Settings) :
    visit.brings? settings = none := by
  apply brings?_of_ne_load
  rcases looks with action | action <;> simp [action]

theorem responseTo_schema (sound : app.store.Sound) (shows : visit.action = .schema)
    (held : app.heldBy visit.workspace = some schema) :
    app.responseTo visit = visit.dress app.settings
      (if schema.Sendable then some (.json 200 schema.toJson) else none) := by
  rw [responseTo_visit sound (hasRoom_of_heldBy held), held, expected, shows]
  dsimp only
  rw [Response.ofSchema_some]

/-- Right after a load that succeeds the schema is shown, if its texts can be sent. -/
theorem responseTo_brought {settings : Settings} {shown : Visit}
    (reachable : App.Reachable settings app) (brought : visit.brings? app.settings = some schema)
    (there : shown.workspace = visit.workspace) (shows : shown.action = .schema) :
    (app.visit visit).responseTo shown = shown.dress app.settings
      (if schema.Sendable then some (.json 200 schema.toJson) else none) := by
  have after : App.Reachable settings (app.visit visit) := .handled _ _ _ reachable
  have held := heldBy_of_brings? reachable.orderly brought
  rw [← there] at held
  rw [responseTo_schema after.orderly.sound shows held, settings_visit]

/-- Who looks sees the contents only. -/
theorem Looks.expected_congr (looks : visit.Looks) {shown held : Schema}
    (same : shown.contents = held.contents) (settings : Settings) (engaged before : Bool) :
    visit.expected settings engaged (some shown) = visit.expected settings before (some held) := by
  rcases looks with action | action
  · simp [expected, action, Response.ofSchema, Schema.toJson_congr same]
  · simp [expected, action, Response.ofSuggestions, suggest_congr same]

end Visit

/-- A load that succeeds, a look at the schema that it has brought, and one more load, which is
answered with what that look was shown. -/
structure Reload (app : App) where
  workspace : String
  first : Visit
  shown : Visit
  again : Visit
  schema : Schema
  token : Text
  value : Json.Value
  firstThere : first.workspace = workspace
  shownThere : shown.workspace = workspace
  againThere : again.workspace = workspace
  brought : first.brings? app.settings = some schema
  shows : shown.action = .schema
  loads : again.action = .load
  read : again.request.message Api.LoadRequest.ofFields = .ok ⟨token⟩
  ascii : isAscii token = true
  body : ((app.visit first).responseTo shown).body = .json value
  carries : again.answer.Carries value

namespace Reload

variable {settings : Settings} {app : App} (reload : Reload app)

def loaded : App := app.visit reload.first

def seen : App := reload.loaded.visit reload.shown

def reloaded : App := reload.seen.visit reload.again

theorem settings_loaded : reload.loaded.settings = app.settings :=
  Visit.settings_visit app reload.first

theorem settings_seen : reload.seen.settings = app.settings :=
  (Visit.settings_visit reload.loaded reload.shown).trans reload.settings_loaded

theorem settings_reloaded : reload.reloaded.settings = app.settings :=
  (Visit.settings_visit reload.seen reload.again).trans reload.settings_seen

section reachable

variable (reachable : App.Reachable settings app)
include reachable

theorem reachable_loaded : App.Reachable settings reload.loaded := .handled _ _ _ reachable

theorem reachable_seen : App.Reachable settings reload.seen :=
  .handled _ _ _ (reload.reachable_loaded reachable)

theorem reachable_reloaded : App.Reachable settings reload.reloaded :=
  .handled _ _ _ (reload.reachable_seen reachable)

theorem heldBy_loaded : reload.loaded.heldBy reload.workspace = some reload.schema := by
  have held := Visit.heldBy_of_brings? reachable.orderly reload.brought
  rwa [reload.firstThere] at held

theorem responseTo_shown : (app.visit reload.first).responseTo reload.shown =
    reload.shown.dress app.settings
      (if reload.schema.Sendable then some (.json 200 reload.schema.toJson) else none) :=
  Visit.responseTo_brought reachable reload.brought
    (reload.shownThere.trans reload.firstThere.symm) reload.shows

/-- What was shown as JSON can be sent; the body of a failure is no JSON. -/
theorem sendable : reload.schema.Sendable := by
  by_contra unsendable
  have body := reload.body
  rw [reload.responseTo_shown reachable, if_neg unsendable] at body
  cases body

/-- What was shown is the schema with its defaults. -/
theorem value_eq : reload.value = reload.schema.toJson := by
  have body := reload.body
  rw [reload.responseTo_shown reachable, if_pos (reload.sendable reachable)] at body
  exact (Body.json.inj body).symm

theorem heldBy_seen : reload.seen.heldBy reload.workspace = some reload.schema := by
  have held := reload.heldBy_loaded reachable
  rw [← reload.shownThere] at held ⊢
  have looks : reload.shown.Looks := .inl reload.shows
  rw [seen, Visit.heldBy_visit (reload.reachable_loaded reachable).orderly.sound
    (Visit.hasRoom_of_heldBy held), looks.drops, looks.brings?, held]
  rfl

theorem loadOutcome_again :
    loadOutcome app.settings reload.again.workspace ⟨reload.token⟩ reload.again.answer =
      .loaded reload.schema.filled := by
  obtain ⟨-, message, -, loaded⟩ := Visit.load_of_brings? reload.brought
  have carries := reload.carries
  rw [reload.value_eq reachable] at carries
  rw [reload.firstThere, ← reload.againThere] at loaded
  exact SchemaService.loaded_of_carries (reload.sendable reachable) loaded reload.ascii carries

theorem brings?_again : reload.again.brings? app.settings = some reload.schema.filled := by
  have outcome := reload.loadOutcome_again reachable
  simp [Visit.brings?, reload.loads, reload.read, outcome]

theorem responseTo_again : reload.seen.responseTo reload.again =
    reload.again.dress app.settings (some (.json 200 (Api.LoadReport.toJson
      ⟨true, reload.workspace, some (reload.schema.tables.length : Int)⟩))) := by
  have held := reload.heldBy_seen reachable
  have outcome := reload.loadOutcome_again reachable
  have brought := reload.brings?_again reachable
  rw [← reload.againThere] at held ⊢
  rw [Visit.responseTo_visit (reload.reachable_seen reachable).orderly.sound
    (Visit.hasRoom_of_heldBy held), reload.settings_seen]
  simp [Visit.expected, reload.loads, reload.read, brought, outcome, Response.ofLoad,
    Schema.filled]

theorem heldBy_reloaded :
    reload.reloaded.heldBy reload.workspace = some reload.schema.filled := by
  have held := reload.heldBy_seen reachable
  have brought := reload.brings?_again reachable
  rw [← reload.againThere] at held ⊢
  rw [reloaded, Visit.heldBy_visit (reload.reachable_seen reachable).orderly.sound
    (Visit.hasRoom_of_heldBy held), reload.settings_seen, brought]
  simp [Visit.drops, reload.loads]

theorem responseTo_look {look : Visit} (there : look.workspace = reload.workspace)
    (looks : look.Looks) :
    reload.reloaded.responseTo look = reload.loaded.responseTo look := by
  have before := reload.heldBy_loaded reachable
  have after := reload.heldBy_reloaded reachable
  rw [← there] at before after
  rw [Visit.responseTo_visit (reload.reachable_reloaded reachable).orderly.sound
      (Visit.hasRoom_of_heldBy after),
    Visit.responseTo_visit (reload.reachable_loaded reachable).orderly.sound
      (Visit.hasRoom_of_heldBy before),
    before, after, reload.settings_reloaded, reload.settings_loaded,
    looks.expected_congr reload.schema.contents_filled]

end reachable
end Reload

/-- Writing a schema and reading it undo each other. As it was given, it is written as the value it
was read from without the members that are not known; written either way, it is read as a schema of
the same contents. After any load that succeeds the schema is shown if its texts can be sent, and
the handling is broken off otherwise. If it was shown, a load that is answered with what was shown
succeeds as well, and whoever looks afterwards is answered as before. -/
theorem shown_schema_loads_again (schema : Schema) :
    (∀ v : Json.Value, Schema.ofJson v = .ok schema →
      Json.Same schema.givenJson (Schema.known v)) ∧
    Schema.ofJson schema.givenJson = .ok schema ∧
    (∃ again, Schema.ofJson schema.toJson = .ok again ∧ again.contents = schema.contents) ∧
    (∀ (settings : Settings) (app : App), App.Reachable settings app →
      ∀ first shown : Visit, first.brings? app.settings = some schema →
      shown.workspace = first.workspace → shown.action = .schema →
      (app.visit first).responseTo shown = shown.dress app.settings
        (if schema.Sendable then some (.json 200 schema.toJson) else none)) ∧
    (∀ (settings : Settings) (app : App), App.Reachable settings app →
      ∀ reload : Reload app, reload.schema = schema →
      (reload.loaded.responseTo reload.shown).status = 200 ∧
      reload.value = schema.toJson ∧
      reload.seen.responseTo reload.again =
        reload.again.dress app.settings (some (.json 200 (Api.LoadReport.toJson
          ⟨true, reload.workspace, some (schema.tables.length : Int)⟩))) ∧
      ∀ look : Visit, look.workspace = reload.workspace → look.Looks →
        reload.reloaded.responseTo look = reload.loaded.responseTo look) := by
  refine ⟨fun _ => Schema.same_known, schema.ofJson_givenJson, ?_,
    fun _ _ reachable _ _ => Visit.responseTo_brought reachable, ?_⟩
  · exact ⟨schema.filled, schema.ofJson_toJson, schema.contents_filled⟩
  · rintro settings app reachable reload rfl
    refine ⟨?_, reload.value_eq reachable, reload.responseTo_again reachable,
      fun look => reload.responseTo_look reachable⟩
    rw [Reload.loaded, reload.responseTo_shown reachable, if_pos (reload.sendable reachable)]
    rfl

/-- A table is sent with a member that is not known and without a description; it is shown with its
defaults, and loaded again from there. -/
theorem sent_short_shown_in_full :
    let app : App := { settings := {}, service := { store := { capacity := 100 } } }
    let sent : Json.Value := .obj [("tables", .arr [.obj [("name", .str "T"), ("rank", .int 1)]])]
    let schema : Schema := ⟨[⟨"T", none, none⟩]⟩
    let shownValue : Json.Value := .obj [("tables", .arr
      [.obj [("name", .str "T"), ("description", .null), ("columns", .arr [])]])]
    let url (path : String) : Url := ⟨"http", "", "h", none, path, none, none⟩
    let load : Request := ⟨"POST", url "/api/v1/workspaces/w/schema/load",
      [("content-type", "application/json")],
      Text.Utf8.encode "\x7b\"token\":\"t\"\x7d".toList⟩
    let first : Visit := ⟨.load, "w", "1", load, .response 200 [] sent.bytes, routes[2],
      by decide +kernel, rfl⟩
    let shown : Visit := ⟨.schema, "w", "2", ⟨"GET", url "/api/v1/workspaces/w/schema", [], []⟩,
      .failure "ReadTimeout" "", routes[3], by decide +kernel, rfl⟩
    let again : Visit := ⟨.load, "w", "3", load, .response 200 [] shownValue.bytes, routes[2],
      by decide +kernel, rfl⟩
    let loaded := app.visit first
    Schema.ofJson sent = .ok schema ∧ Json.Same schema.givenJson (Schema.known sent) ∧
      App.Reachable {} app ∧ (loaded.responseTo shown).body = .json shownValue ∧
      ((loaded.visit shown).visit again).responseTo shown = loaded.responseTo shown := by
  intro app sent schema shownValue url load first shown again loaded
  have reachable : App.Reachable {} app := .start rfl
  have read : Schema.ofJson sent = .ok schema := rfl
  have brought : first.brings? app.settings = some schema := by decide +kernel
  have message : again.request.message Api.LoadRequest.ofFields = .ok ⟨"t"⟩ := rfl
  have ascii : isAscii "t" = true := by decide
  obtain ⟨dumped, -, -, look, reloaded⟩ := shown_schema_loads_again schema
  have body : (loaded.responseTo shown).body = .json shownValue := by
    have sendable : schema.Sendable := by decide +kernel
    rw [look {} app reachable first shown brought rfl rfl, if_pos sendable]
    rfl
  let reload : Reload app := {
    workspace := "w", first, shown, again, schema, token := "t", value := shownValue
    firstThere := rfl, shownThere := rfl, againThere := rfl
    brought, shows := rfl, loads := rfl, read := message, ascii, body
    carries := .plainly rfl rfl rfl }
  have kept := (reloaded {} app reachable reload rfl).2.2.2 shown rfl (.inl rfl)
  exact ⟨read, dumped sent read, reachable, body, kept⟩

/-- A table is named by half of a surrogate pair. After it has been loaded it is not shown, and what
the client gets in its place cannot be loaded. -/
theorem unpaired_half_cannot_be_loaded_again :
    let app : App := { settings := {}, service := { store := { capacity := 100 } } }
    let schema : Schema := ⟨[⟨[.half 0], none, none⟩]⟩
    let url (path : String) : Url := ⟨"http", "", "h", none, path, none, none⟩
    let load (answer : Answer) : Visit := ⟨.load, "u", "1",
      ⟨"POST", url "/api/v1/workspaces/u/schema/load", [("content-type", "application/json")],
        Text.Utf8.encode "\x7b\"token\":\"t\"\x7d".toList⟩, answer, routes[2],
      by decide +kernel, rfl⟩
    let look : Visit := ⟨.schema, "u", "2", ⟨"GET", url "/api/v1/workspaces/u/schema", [], []⟩,
      .failure "ReadTimeout" "", routes[3], by decide +kernel, rfl⟩
    let first := load (.response 200 [] schema.givenJson.bytes)
    let instead := "Internal Server Error"
    let again := load (.response 200 [] (Text.Utf8.encode instead.toList))
    App.Reachable {} app ∧ first.brings? app.settings = some schema ∧
      ((app.visit first).responseTo look).status = 500 ∧
      ((app.visit first).responseTo look).body = .text instead ∧
      again.brings? app.settings = none := by
  intro app schema url load look first instead again
  have reachable : App.Reachable {} app := .start rfl
  have brought : first.brings? app.settings = some schema := by decide +kernel
  have unsendable : ¬ schema.Sendable := by decide +kernel
  have there : look.workspace = first.workspace := rfl
  have shown := Visit.responseTo_brought reachable brought there rfl
  rw [if_neg unsendable] at shown
  refine ⟨reachable, brought, congrArg Response.status shown, congrArg Response.body shown, ?_⟩
  decide +kernel

end Http
end KqlCompletion
