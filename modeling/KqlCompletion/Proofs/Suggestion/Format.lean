import KqlCompletion.Proofs.Http.Workspaces
import KqlCompletion.Proofs.Json.RoundTrip
import KqlCompletion.Proofs.Schema.Format

/-! Suggestions and the JSON that they are read from. What a suggestion is read from says its kind,
so a list that is written reads back as it was, whichever name the insert texts have; and so does
the list in the answer to a request for suggestions. -/
namespace KqlCompletion

open Json (Value Members)
open Validation

namespace Suggestion

variable {v : Value} {fields : Members} {suggestion : Suggestion} {kind : Kind}

@[simp] theorem Kind.ofTag?_tag (kind : Kind) : Kind.ofTag? kind.tag = some kind := by
  cases kind <;> decide

theorem Kind.ofTag?_eq_some_iff {tag : Text} : Kind.ofTag? tag = some kind ↔ tag = kind.tag := by
  constructor
  · intro found
    have same : (Text.of kind.tag == tag) = true := by
      simpa using List.find?_some found
    exact (beq_iff_eq.1 same).symm
  · rintro rfl
    exact kind.ofTag?_tag

theorem kindOf_eq_ok_iff : kindOf fields = .ok kind ↔ fields.get? "type" = some (.str kind.tag) := by
  rw [kindOf]
  cases fields.get? "type" with
  | none => simp [Checked.fail]
  | some tag =>
    have told : tag.str?.bind Kind.ofTag? = some kind ↔ tag = .str kind.tag := by
      cases tag <;> simp [Value.str?, Kind.ofTag?_eq_some_iff]
    rw [Option.some_inj, ← told]
    dsimp only
    cases tag.str?.bind Kind.ofTag? <;> simp [Checked.fail]

theorem insertTextOf_eq_ok_iff {s : Text} : insertTextOf fields = .ok s ↔
    (fields.get? insertTextName).or (fields.get? insertTextAlias) = some (.str s) := by
  rw [insertTextOf, required]
  cases fields.get? insertTextName <;> cases fields.get? insertTextAlias <;> simp [text_eq_ok_iff]

theorem ofFields_eq_ok_iff : ofFields kind fields = .ok suggestion ↔ suggestion.kind = kind ∧
    fields.get? "value" = some (.str suggestion.value) ∧
    fields.get? "label" = some (.str suggestion.label) ∧
    fields.get? "description" = suggestion.givenDescription.map .str ∧
    (fields.get? insertTextName).or (fields.get? insertTextAlias) =
      some (.str suggestion.insertText) := by
  obtain ⟨own, value, label, description, insertText⟩ := suggestion
  simp only [ofFields, Checked.map4, map3_eq_ok_iff, Checked.both_eq_ok_iff, required_eq_ok_iff,
    text_eq_ok_iff, given_eq_ok_iff, rel_eq_map_iff, insertTextOf_eq_ok_iff]
  constructor
  · rintro ⟨⟨_, _⟩, _, _, ⟨⟨v, named, rfl⟩, ⟨w, labelled, rfl⟩⟩, told, inserted, same⟩
    cases same
    exact ⟨rfl, named, labelled, told, inserted⟩
  · rintro ⟨rfl, named, labelled, told, inserted⟩
    exact ⟨(value, label), description, insertText, ⟨⟨_, named, rfl⟩, ⟨_, labelled, rfl⟩⟩, told,
      inserted, rfl⟩

/-- The kind is told first. It says which suggestion the other fields are read as. -/
theorem ofJson_obj_eq_ok_iff : ofJson (.obj fields) = .ok suggestion ↔
    ∃ kind, kindOf fields = .ok kind ∧ ofFields kind fields = .ok suggestion := by
  simp only [ofJson, members, bind, Except.bind]
  cases kindOf fields <;> simp

/-- What a value has to say to be read as a suggestion. The first name of the insert text counts, and
the other one only if that is missing. -/
theorem ofJson_eq_ok_iff : ofJson v = .ok suggestion ↔ ∃ fields : Members, v = .obj fields ∧
    fields.get? "type" = some (.str suggestion.kind.tag) ∧
    fields.get? "value" = some (.str suggestion.value) ∧
    fields.get? "label" = some (.str suggestion.label) ∧
    fields.get? "description" = suggestion.givenDescription.map .str ∧
    (fields.get? insertTextName).or (fields.get? insertTextAlias) =
      some (.str suggestion.insertText) := by
  cases v with
  | obj fields => simp [ofJson_obj_eq_ok_iff, kindOf_eq_ok_iff, ofFields_eq_ok_iff]
  | _ => simp [ofJson, members, Checked.fail, bind, Except.bind]

def filled (suggestion : Suggestion) : Suggestion :=
  { suggestion with givenDescription := some suggestion.description }

/-- What a suggestion says, given or not. -/
def contents (suggestion : Suggestion) : Kind × Text × Text × Text × Text :=
  (suggestion.kind, suggestion.value, suggestion.label, suggestion.description,
    suggestion.insertText)

theorem contents_filled (suggestion : Suggestion) :
    suggestion.filled.contents = suggestion.contents := rfl

theorem ofJson_toJson (suggestion : Suggestion) :
    ofJson suggestion.toJson = .ok suggestion.filled :=
  ofJson_eq_ok_iff.2 ⟨_, rfl, by simp [filled, insertTextName, insertTextAlias]⟩

theorem ofJson_givenJson (suggestion : Suggestion) :
    ofJson suggestion.givenJson = .ok suggestion := by
  refine ofJson_eq_ok_iff.2 ⟨_, rfl, ?_⟩
  cases suggestion.givenDescription <;> simp [insertTextName, insertTextAlias]

section names

/-- The value with its insert text under the other name. -/
def rekeyed : Value → Value
  | .obj fields => .obj (Members.renamed insertTextName insertTextAlias fields)
  | v => v

theorem ofJson_rekeyed (absent : fields.get? insertTextAlias = none) :
    ofJson (rekeyed (.obj fields)) = .ok suggestion ↔ ofJson (.obj fields) = .ok suggestion := by
  have found := Members.get?_renamed (by decide : insertTextName ≠ insertTextAlias) absent
  simp only [ofJson_eq_ok_iff, rekeyed, Value.obj.injEq, exists_eq_left', found, absent]
  simp [insertTextName, insertTextAlias]

/-- Where the first name is there, the other one says nothing. -/
theorem ofJson_without_alias (there : fields.get? insertTextName = some v) :
    ofJson (.obj (fields.without insertTextAlias)) = .ok suggestion ↔
      ofJson (.obj fields) = .ok suggestion := by
  simp only [insertTextName] at there
  simp [ofJson_eq_ok_iff, Members.get?_without, there, insertTextName, insertTextAlias]

theorem insertText_of_ofJson (there : fields.get? insertTextName = some v)
    (read : ofJson (.obj fields) = .ok suggestion) : v = .str suggestion.insertText := by
  obtain ⟨_, same, -, -, -, -, told⟩ := ofJson_eq_ok_iff.1 read
  cases same
  simpa [there] using told

end names

/-- An item of a list that is written in this way, its insert text under either name. -/
def IsItem (write : Suggestion → Value) (suggestion : Suggestion) (item : Value) : Prop :=
  item = write suggestion ∨ item = rekeyed (write suggestion)

theorem IsItem.ofJson_toJson {item : Value} (listed : IsItem toJson suggestion item) :
    ofJson item = .ok suggestion.filled := by
  rcases listed with rfl | rfl
  · exact suggestion.ofJson_toJson
  · exact (ofJson_rekeyed (by simp [insertTextName, insertTextAlias])).2 suggestion.ofJson_toJson

theorem IsItem.ofJson_givenJson {item : Value} (listed : IsItem givenJson suggestion item) :
    ofJson item = .ok suggestion := by
  rcases listed with rfl | rfl
  · exact suggestion.ofJson_givenJson
  · refine (ofJson_rekeyed ?_).2 suggestion.ofJson_givenJson
    cases suggestion.givenDescription <;> simp [insertTextName, insertTextAlias]

theorem completionOfJson_eq_ok_iff {items : List Value} {read : List Suggestion} :
    Api.completionOfJson (Api.itemsJson items) = .ok read ↔
      List.Forall₂ (fun item suggestion => ofJson item = .ok suggestion) items read := by
  simp [Api.completionOfJson, Api.itemsJson, members, bind, Except.bind, required_eq_ok_iff,
    list_eq_ok_iff]

end Suggestion

section suggest

variable {schema : Option Schema} {suggestion : Suggestion}

/-- Every suggestion is made with a description. -/
theorem filled_of_mem_suggest {text : Option Text} (listed : suggestion ∈ suggest text schema) :
    suggestion.filled = suggestion := by
  cases origin_of_mem_suggest listed <;> rfl

theorem map_filled_suggest (text : Option Text) (schema : Option Schema) :
    (suggest text schema).map Suggestion.filled = suggest text schema :=
  (List.map_congr_left fun _ => filled_of_mem_suggest).trans (List.map_id _)

end suggest

section answer

open Json.Reader (Readable)

theorem Suggestion.Sendable.readable_toJson {suggestion : Suggestion}
    (sendable : suggestion.Sendable) : Readable 1 suggestion.toJson := by
  refine .obj (by simp [insertTextName]) (by simp [insertTextName, Text.settled_of]) ?_
  simp only [List.forall_mem_cons, List.not_mem_nil, false_implies, implies_true, and_true]
  exact ⟨.str (Text.settled_of _), .of_isSound sendable.value, .of_isSound sendable.label,
    .of_isSound sendable.description, .of_isSound sendable.insertText⟩

theorem Api.readable_completionJson {suggestions : List Suggestion}
    (sendable : ∀ suggestion ∈ suggestions, suggestion.Sendable) :
    Readable 3 (completionJson suggestions) := by
  have items : Readable 2 (.arr (suggestions.map Suggestion.toJson)) := by
    refine .arr fun item listed => ?_
    obtain ⟨suggestion, among, rfl⟩ := List.mem_map.1 listed
    exact (sendable suggestion among).readable_toJson
  exact .obj (by simp) (by simp [Text.settled_of]) (by simpa using items)

namespace Http

variable {app : App} {visit : Visit} {message : Api.CompletionRequest}

theorem Visit.responseTo_suggestions (asks : visit.action = .suggestions)
    (read : visit.request.message Api.CompletionRequest.ofFields = .ok message) :
    let acquired := app.store.acquire visit.workspace
    let offered := suggest (some message.text) (acquired.1.engine acquired.2.1).schema
    app.responseTo visit = visit.dress app.settings
      (if ∀ suggestion ∈ offered, suggestion.Sendable then
        some (.json 200 (Api.completionJson offered))
      else none) := by
  intro acquired offered
  rw [(visit.handle_spec app).2.2, handled_of_suggestions asks, App.response_suggestions,
    Response.ofSuggestions_of_message read]

end Http
end answer

namespace Suggestion

open Http (App Visit)

/-- A list of suggestions that is written reads back as that list, each suggestion with its kind and
all that it says, whichever name its insert text has; so what a request for suggestions is answered
with is read as what the engine has offered. It is answered if the texts of that can be sent, which
is so if those of the schema can; otherwise the handling is broken off. Of two insert texts the one
under the first name decides whether anything is read at all, and what. -/
theorem written_suggestions_read_back (suggestions : List Suggestion) :
    (∀ items, List.Forall₂ (IsItem toJson) suggestions items →
      Api.completionOfJson (Api.itemsJson items) = .ok (suggestions.map filled) ∧
        (suggestions.map filled).map contents = suggestions.map contents) ∧
    (∀ items, List.Forall₂ (IsItem givenJson) suggestions items →
      Api.completionOfJson (Api.itemsJson items) = .ok suggestions) ∧
    (∀ text schema, suggest text schema = suggestions →
      Api.completionOfJson (Api.completionJson suggestions) = .ok suggestions) ∧
    (∀ (app : App) (visit : Visit) (message : Api.CompletionRequest), visit.action = .suggestions →
      visit.request.message Api.CompletionRequest.ofFields = .ok message →
      let acquired := app.store.acquire visit.workspace
      let held := (acquired.1.engine acquired.2.1).schema
      suggest (some message.text) held = suggestions →
      ((∀ suggestion ∈ suggestions, suggestion.Sendable) →
        ∃ value, (app.responseTo visit).status = 200 ∧ (app.responseTo visit).body = .json value ∧
          Json.ofBytes value.bytes = .ok value ∧ Api.completionOfJson value = .ok suggestions) ∧
      (¬ (∀ suggestion ∈ suggestions, suggestion.Sendable) →
        (app.responseTo visit).status = 500) ∧
      ((∀ schema ∈ held, schema.Sendable) → ∀ suggestion ∈ suggestions, suggestion.Sendable)) ∧
    (∀ items, Api.completionOfJson (Api.itemsJson items) = .ok suggestions ↔
      List.Forall₂ (fun item suggestion => ofJson item = .ok suggestion) items suggestions) ∧
    ∀ (fields : Members) v, fields.get? insertTextName = some v → ∀ suggestion,
      (ofJson (.obj fields) = .ok suggestion ↔
        ofJson (.obj (fields.without insertTextAlias)) = .ok suggestion) ∧
      (ofJson (.obj fields) = .ok suggestion → v = .str suggestion.insertText) := by
  have offered (text : Option Text) (schema : Option Schema)
      (made : suggest text schema = suggestions) :
      Api.completionOfJson (Api.completionJson suggestions) = .ok suggestions := by
    subst made
    rw [Api.completionJson, completionOfJson_eq_ok_iff]
    have back := forall₂_of_written Suggestion.ofJson_toJson (suggest text schema)
    rwa [map_filled_suggest] at back
  refine ⟨?_, ?_, offered, ?_, fun _ => completionOfJson_eq_ok_iff, ?_⟩
  · intro items listed
    refine ⟨completionOfJson_eq_ok_iff.2 ?_, ?_⟩
    · rw [List.forall₂_map_right_iff]
      exact listed.flip.imp fun _ _ => IsItem.ofJson_toJson
    · rw [List.map_map]
      exact List.map_congr_left fun suggestion _ => suggestion.contents_filled
  · intro items listed
    exact completionOfJson_eq_ok_iff.2 (listed.flip.imp fun _ _ => IsItem.ofJson_givenJson)
  · intro app visit message asks read acquired held made
    have response : app.responseTo visit = _ := Visit.responseTo_suggestions asks read
    rw [made] at response
    refine ⟨fun sendable => ⟨Api.completionJson suggestions, ?_⟩, fun unsendable => ?_, ?_⟩
    · rw [response, if_pos sendable]
      have readable := Api.readable_completionJson sendable
      exact ⟨rfl, rfl, Json.ofBytes_bytes readable (by decide), offered _ _ made⟩
    · rw [response, if_neg unsendable]
      rfl
    · rw [← made]
      exact fun sendable _ => sendable_of_mem_suggest sendable
  · intro fields v there suggestion
    exact ⟨(ofJson_without_alias there).symm, insertText_of_ofJson there⟩

/-- A table without a description and a column whose insert text has the other name are read as they
were; an operator is offered over HTTP; and a table whose first insert text is no text is refused,
whatever the second one is. -/
theorem table_and_rekeyed_column_read_back :
    let table : Suggestion := ⟨.table, "T", "T", none, "T"⟩
    let column : Suggestion := ⟨.column, "C", "C", some "string", "C"⟩
    let app : App := { settings := {}, service := { store := { capacity := 100 } } }
    let url : Url := ⟨"http", "", "h", none, "/api/v1/workspaces/w/suggestions", none, none⟩
    let visit : Visit := ⟨.suggestions, "w", "1", ⟨"POST", url,
      [("content-type", "application/json")],
      Text.Utf8.encode "\x7b\"text\":\"T |\"\x7d".toList⟩,
      .failure "ReadTimeout" "", Http.routes[4], by decide +kernel, rfl⟩
    let both : Members := [("type", .str "table"), ("value", .str "T"), ("label", .str "T"),
      (insertTextName, .null), (insertTextAlias, .str "T")]
    Api.completionOfJson (Api.itemsJson [table.toJson, rekeyed column.toJson]) =
        .ok [table.filled, column] ∧
      Api.completionOfJson (Api.itemsJson [rekeyed table.givenJson, column.givenJson]) =
        .ok [table, column] ∧
      (∃ value, (app.responseTo visit).body = .json value ∧
        Api.completionOfJson value = .ok (suggest (some (Text.of "T |")) none)) ∧
      ∀ suggestion, ofJson (.obj both) ≠ .ok suggestion := by
  intro table column app url visit both
  obtain ⟨full, given, -, -, -, decided⟩ := written_suggestions_read_back [table, column]
  obtain ⟨-, -, -, answered, -⟩ :=
    written_suggestions_read_back (suggest (some (Text.of "T |")) none)
  have message : visit.request.message Api.CompletionRequest.ofFields =
      .ok ⟨some (Text.of "T |"), none⟩ := rfl
  obtain ⟨sent, -, sendable⟩ := answered app visit _ rfl message rfl
  obtain ⟨value, -, body, read⟩ := sent (sendable nofun)
  refine ⟨(full _ ?_).1, given _ ?_, ⟨value, body, read.2⟩, ?_⟩
  · exact .cons (.inl rfl) (.cons (.inr rfl) .nil)
  · exact .cons (.inr rfl) (.cons (.inl rfl) .nil)
  · intro suggestion accepted
    cases (decided both .null rfl suggestion).2 accepted

/-- A table is named by half of a surrogate pair. It is offered to a query that starts, but a
request for its completion is answered with a failure. -/
theorem unpaired_half_is_not_sent :
    let app : App := { settings := {}, service := { store := { capacity := 100 } } }
    let schema : Schema := ⟨[⟨[.half 0], none, none⟩]⟩
    let request (path body : String) : Http.Request :=
      ⟨"POST", ⟨"http", "", "h", none, path, none, none⟩, [("content-type", "application/json")],
        Text.Utf8.encode body.toList⟩
    let load : Visit := ⟨.load, "x", "1",
      request "/api/v1/workspaces/x/schema/load" "\x7b\"token\":\"t\"\x7d",
      .response 200 [] schema.givenJson.bytes, Http.routes[2], by decide +kernel, rfl⟩
    let ask : Visit := ⟨.suggestions, "x", "2",
      request "/api/v1/workspaces/x/suggestions" "\x7b\"text\":\"\"\x7d",
      .failure "ReadTimeout" "", Http.routes[4], by decide +kernel, rfl⟩
    let offered := suggest (some []) ((app.visit load).heldBy "x")
    offered = [⟨.table, [.half 0], [.half 0], some [], [.half 0]⟩] ∧
      Api.completionOfJson (Api.completionJson offered) = .ok offered ∧
      ((app.visit load).responseTo ask).status = 500 := by
  intro app schema request load ask offered
  have made : offered = [⟨.table, [.half 0], [.half 0], some [], [.half 0]⟩] := by decide +kernel
  refine ⟨made, ?_, by decide +kernel⟩
  rw [made]
  rfl

end Suggestion
end KqlCompletion
