import KqlCompletion.Proofs.Json.Limit
import KqlCompletion.Proofs.Json.Listing
import KqlCompletion.Proofs.Settings.Environment
import KqlCompletion.Proofs.Validation.Issues

/-! The origins that are let in, as they are read from the environment. Their text is JSON of a list
of strings, or of a string that is in turn JSON of one. A text that is no JSON is not read at all; all
else that is no list of strings is an issue of the origins, and the other settings are as they would be
without them. -/
namespace KqlCompletion

open Json (Value Members IsListing IsQuoting)
open Validation

namespace Validation

variable {α β γ δ ε : Type} {v : Value} {fields others : Members} {name : Text}

theorem given_congr {check : Value → Checked α} (same : fields.get? name = others.get? name) :
    given fields name check = given others name check := by
  rw [given, given, same]

theorem map4_eq_ok_iff {f : α → β → γ → δ → ε} {a : Checked α} {b : Checked β} {c : Checked γ}
    {d : Checked δ} {e : ε} : Checked.map4 f a b c d = .ok e ↔
      ∃ x y z w, a = .ok x ∧ b = .ok y ∧ c = .ok z ∧ d = .ok w ∧ f x y z w = e := by
  simp [Checked.map4, Checked.map3, and_assoc]

theorem list_text_eq_ok_iff {texts : List Text} :
    list text v = .ok texts ↔ v = .arr (texts.map .str) := by
  have each (items : List Value) :
      List.Forall₂ (fun item result => text item = .ok result) items texts ↔
        items = texts.map .str := by
    simp only [text_eq_ok_iff]
    rw [← List.forall₂_eq_eq_eq, List.forall₂_map_right_iff]
  simp only [list_eq_ok_iff, each, exists_eq_right]

end Validation

namespace Settings

def plainNames : List String := ["app_env", "log_level", "metrics_enabled", "max_engines"]

/-- What the text is JSON of, or what the string is JSON of that the text is JSON of. -/
inductive Decodes (text : Text) : Value → Prop where
  | once {v : Value} : Json.ofText text = .ok v → Decodes text v
  | twice {inner : Text} {v : Value} : Json.ofText text = .ok (.str inner) →
    Json.ofText inner = .ok v → Decodes text v

/-- Neither the text nor the string that it is JSON of holds containers nested too deep. -/
structure WithinLimit (text : Text) : Prop where
  outer : Json.ofText text ≠ .error (.limit .depth)
  inner : ∀ inner, Json.ofText text = .ok (.str inner) →
    Json.ofText inner ≠ .error (.limit .depth)

theorem corsOriginsOfJson_eq_ok_iff {text : Text} {v : Value} {origins : List Text}
    (decoded : Json.ofText text = .ok v) :
    corsOriginsOfJson v = .ok origins ↔ Decodes text (.arr (origins.map .str)) := by
  constructor
  · intro read
    fun_cases corsOriginsOfJson v with
    | case1 written inner inside =>
      rw [corsOriginsOfJson, inside] at read
      obtain rfl := list_text_eq_ok_iff.1 read
      exact .twice decoded inside
    | case2 written failure inside =>
      rw [corsOriginsOfJson, inside] at read
      cases read
    | case3 other =>
      simp only [corsOriginsOfJson] at read
      obtain rfl := list_text_eq_ok_iff.1 read
      exact .once decoded
  · intro decodes
    cases decodes with
    | once once =>
      obtain rfl := Except.ok.inj (decoded.symm.trans once)
      exact list_text_eq_ok_iff.2 rfl
    | twice once again =>
      obtain rfl := Except.ok.inj (decoded.symm.trans once)
      rw [corsOriginsOfJson, again]
      exact list_text_eq_ok_iff.2 rfl

theorem isExplained_corsOriginsOfJson (v : Value) : (corsOriginsOfJson v).IsExplained := by
  fun_cases corsOriginsOfJson v with
  | case1 => exact isExplained_list isExplained_text _
  | case2 => exact nofun
  | case3 => exact isExplained_list isExplained_text _

theorem ofFields_of_origins {env : Environment} {fields others : Members} {base : Settings}
    (same : ∀ name ≠ Text.of "cors_origins", fields.get? name = others.get? name)
    (absent : others.get? "cors_origins" = none) (rest : ofFields env others = .ok base) :
    base.corsOrigins = ({} : Settings).corsOrigins ∧
      ofFields env fields = (given fields "cors_origins" corsOriginsOfJson).map fun origins =>
        { base with corsOrigins := origins.getD ({} : Settings).corsOrigins } := by
  -- Without origins every other field has been read, and it is read the same with them.
  rw [ofFields, map4_eq_ok_iff] at rest
  obtain ⟨_, logLevel, metricsEnabled, maxEngines, three, level, metrics, engines, made⟩ := rest
  rw [map3_eq_ok_iff] at three
  obtain ⟨appEnv, schemaApi, origins, app, schema, cors, rfl⟩ := three
  have none : origins = none := by
    rw [given, absent] at cors
    exact (Except.ok.inj cors).symm
  subst none
  subst made
  refine ⟨rfl, ?_⟩
  rw [ofFields, given_congr (same "app_env" (by decide)), given_congr (same "schema_api" (by decide)),
    given_congr (same "log_level" (by decide)), given_congr (same "metrics_enabled" (by decide)),
    given_congr (same "max_engines" (by decide)), app, schema, level, metrics, engines]
  cases given fields "cors_origins" corsOriginsOfJson <;> rfl

theorem ofFields_without (env : Environment) (fields : Members) :
    ofFields (env.without "cors_origins") fields = ofFields env fields := by
  rw [ofFields, ofFields, SchemaApiSettings.ofJson_without]

section members

variable {env : Environment} {schemaApi origins : Members} {base : Settings} {e : SettingsError}

theorem ofEnvironment_of_members (read : env.json? "schema_api" = .ok schemaApi)
    (used : (schemaApi.get? "schema_api").bind SchemaApiSettings.misuse? = none)
    (readAlso : env.json? "cors_origins" = .ok origins) :
    ofEnvironment env = if holdsTooDeep origins then .error .tooDeep
      else (ofFields env (schemaApi ++ origins ++ env.fields {} plainNames)).mapError .invalid := by
  rw [ofEnvironment, read, readAlso]
  dsimp only [bind, Except.bind]
  rw [used]
  rfl

/-- Settings that are made are made of what is read, and nothing in it ends the reading. -/
theorem exists_members_of_ofEnvironment (made : ofEnvironment env = .ok base) :
    ∃ schemaApi origins, env.json? "schema_api" = .ok schemaApi ∧
      env.json? "cors_origins" = .ok origins ∧
      (schemaApi.get? "schema_api").bind SchemaApiSettings.misuse? = none ∧
      holdsTooDeep origins = false ∧
      ofFields env (schemaApi ++ origins ++ env.fields {} plainNames) = .ok base := by
  cases read : env.json? "schema_api" with
  | error e =>
    rw [ofEnvironment, read] at made
    cases made
  | ok schemaApi =>
    cases readAlso : env.json? "cors_origins" with
    | error e =>
      rw [ofEnvironment, read, readAlso] at made
      cases made
    | ok origins =>
      cases used : (schemaApi.get? "schema_api").bind SchemaApiSettings.misuse? with
      | some misuse =>
        rw [ofEnvironment, read, readAlso] at made
        dsimp only [bind, Except.bind] at made
        rw [used] at made
        cases made
      | none =>
        rw [ofEnvironment_of_members read used readAlso] at made
        cases deep : holdsTooDeep origins with
        | true =>
          rw [deep] at made
          cases made
        | false =>
          cases checked : ofFields env (schemaApi ++ origins ++ env.fields {} plainNames) with
          | error issues =>
            rw [deep, checked] at made
            cases made
          | ok settings =>
            rw [deep, checked] at made
            cases made
            exact ⟨schemaApi, origins, rfl, rfl, used, deep, checked⟩

end members

theorem holdsTooDeep_member_iff {name : Text} {v : Value} : holdsTooDeep [(name, v)] = true ↔
    ∃ inner, v = .str inner ∧ Json.ofText inner = .error (.limit .depth) := by
  cases v with
  | str inner =>
    simp only [holdsTooDeep, Value.str?, List.any_cons, List.any_nil, Bool.or_false,
      Option.map_some, Value.str.injEq, exists_eq_left']
    split
    · next deep => simpa using deep
    · next shallow => simpa using shallow
  | _ => simp [holdsTooDeep, Value.str?]

section origins

variable {env : Environment} {text : String} {base : Settings} {v : Value}
  (given : env.get? "cors_origins" = some text)
  (rest : ofEnvironment (env.without "cors_origins") = .ok base)

include rest

/-- Settings that are made without any origins are made of members that are there with them. -/
theorem exists_members_of_rest : ∃ schemaApi, env.json? "schema_api" = .ok schemaApi ∧
    (schemaApi.get? "schema_api").bind SchemaApiSettings.misuse? = none ∧
    (schemaApi ++ env.fields {} plainNames).get? "cors_origins" = none ∧
    ofFields env (schemaApi ++ env.fields {} plainNames) = .ok base := by
  obtain ⟨schemaApi, origins, read, none, used, -, made⟩ := exists_members_of_ofEnvironment rest
  rw [Environment.json?_without_self] at none
  cases none
  have differ : ∀ name ∈ plainNames, Text.lower name ≠ Text.lower "cors_origins" := by decide
  have plain : (env.without "cors_origins").fields {} plainNames = env.fields {} plainNames :=
    Environment.fields_without
      (fun name listed => Environment.apart_of_lower (differ name listed)) env
  have absent : schemaApi.get? "cors_origins" = none :=
    Environment.get?_of_json? read (by decide)
  have unlisted : (env.fields {} plainNames).get? "cors_origins" = none :=
    Environment.get?_fields (by decide)
  rw [Environment.json?_without (Environment.apart_of_lower (by decide))] at read
  rw [ofFields_without, plain, List.append_nil] at made
  exact ⟨schemaApi, read, used, by simp [absent, unlisted], made⟩

theorem corsOrigins_of_rest : base.corsOrigins = ({} : Settings).corsOrigins := by
  obtain ⟨schemaApi, -, -, absent, made⟩ := exists_members_of_rest rest
  exact (ofFields_of_origins (fun _ _ => rfl) absent made).1

theorem ofEnvironment_of_json?_error {e : SettingsError}
    (fails : env.json? "cors_origins" = .error e) : ofEnvironment env = .error e := by
  obtain ⟨schemaApi, read, -⟩ := exists_members_of_rest rest
  rw [ofEnvironment, read, fails]
  rfl

theorem ofEnvironment_of_json?_ok {members : Members}
    (read : env.json? "cors_origins" = .ok members) :
    ofEnvironment env = if holdsTooDeep members then .error .tooDeep else
      ((Validation.given members "cors_origins" corsOriginsOfJson).map fun origins =>
        { base with corsOrigins := origins.getD ({} : Settings).corsOrigins }).mapError .invalid := by
  obtain ⟨schemaApi, readApi, used, absent, made⟩ := exists_members_of_rest rest
  have same : ∀ name ≠ Text.of "cors_origins",
      (schemaApi ++ members ++ env.fields {} plainNames).get? name =
        (schemaApi ++ env.fields {} plainNames).get? name := by
    intro name differ
    have others := Environment.get?_of_json? read differ.symm
    simp [others]
  have own : (schemaApi ++ members ++ env.fields {} plainNames).get? "cors_origins" =
      members.get? "cors_origins" := by
    rw [Members.get?_append, Option.or_eq_none_iff] at absent
    simp [absent.1, absent.2]
  rw [ofEnvironment_of_members readApi used read, (ofFields_of_origins same absent made).2,
    given_congr own]

include given

theorem ofEnvironment_of_null (decoded : Json.ofText text = .ok .null) :
    ofEnvironment env = .ok base := by
  have same : { base with corsOrigins := ({} : Settings).corsOrigins } = base := by
    rw [← corsOrigins_of_rest rest]
  rw [ofEnvironment_of_json?_ok rest (Environment.json?_of_null given decoded)]
  exact congrArg Except.ok same

theorem ofEnvironment_of_value (within : WithinLimit text) (decoded : Json.ofText text = .ok v)
    (value : v ≠ .null) : ofEnvironment env =
      ((Checked.under (.field "cors_origins") (corsOriginsOfJson v)).map fun origins =>
        { base with corsOrigins := origins }).mapError .invalid := by
  have shallow : ¬ holdsTooDeep [("cors_origins", v)] = true := by
    rw [holdsTooDeep_member_iff]
    rintro ⟨inner, rfl, deep⟩
    exact within.inner inner decoded deep
  rw [ofEnvironment_of_json?_ok rest (Environment.json?_of_ok given decoded value), if_neg shallow,
    Validation.given, Members.get?_cons, if_pos rfl]
  dsimp only
  cases Checked.under (.field "cors_origins") (corsOriginsOfJson v) <;> rfl

theorem ofEnvironment_of_too_deep (deep : ¬ WithinLimit text) :
    ofEnvironment env = .error .tooDeep := by
  by_cases outer : Json.ofText text = .error (.limit .depth)
  · exact ofEnvironment_of_json?_error rest (Environment.json?_of_depth given outer)
  · -- The text itself is JSON: it can only be of a string that holds what is nested too deep.
    have held : ∃ inner, Json.ofText text = .ok (.str inner) ∧
        Json.ofText inner = .error (.limit .depth) := by
      by_contra shallow
      exact deep ⟨outer, fun inner decoded inside => shallow ⟨inner, decoded, inside⟩⟩
    obtain ⟨inner, decoded, inside⟩ := held
    rw [ofEnvironment_of_json?_ok rest (Environment.json?_of_ok given decoded nofun),
      if_pos (holdsTooDeep_member_iff.2 ⟨inner, rfl, inside⟩)]

theorem ofEnvironment_unreadable_iff {field : String} (within : WithinLimit text) :
    ofEnvironment env = .error (.unreadable field) ↔
      field = "cors_origins" ∧ ∃ failure, Json.ofText text = .error failure := by
  cases decoded : Json.ofText text with
  | error failure =>
    have shallow : failure ≠ .limit .depth := fun deep => within.outer (deep ▸ decoded)
    rw [ofEnvironment_of_json?_error rest (Environment.json?_of_error given decoded shallow)]
    simp [eq_comm]
  | ok v =>
    by_cases null : v = .null
    · rw [ofEnvironment_of_null given rest (null ▸ decoded)]
      simp
    · rw [ofEnvironment_of_value given rest within decoded null]
      cases corsOriginsOfJson v <;> simp [Checked.under, Except.map, Except.mapError]

theorem ofEnvironment_of_decodes {origins : List Text} (within : WithinLimit text)
    (decodes : Decodes text (.arr (origins.map .str))) :
    ofEnvironment env = .ok { base with corsOrigins := origins } := by
  obtain ⟨v, decoded, value⟩ : ∃ v, Json.ofText text = .ok v ∧ v ≠ .null := by
    cases decodes with
    | once once => exact ⟨_, once, nofun⟩
    | twice once _ => exact ⟨_, once, nofun⟩
  rw [ofEnvironment_of_value given rest within decoded value,
    (corsOriginsOfJson_eq_ok_iff decoded).2 decodes]
  rfl

/-- What no list of strings is decoded from is an issue of the origins. -/
theorem ofEnvironment_of_undecodable (within : WithinLimit text)
    (decoded : Json.ofText text = .ok v) (value : v ≠ .null)
    (undecodable : ∀ origins : List Text, ¬ Decodes text (.arr (origins.map .str))) :
    ∃ issues ≠ [], ofEnvironment env = .error (.invalid issues) ∧
      ∀ issue ∈ issues, issue.path.head? = some (.field "cors_origins") := by
  cases checked : corsOriginsOfJson v with
  | ok origins => exact absurd ((corsOriginsOfJson_eq_ok_iff decoded).1 checked) (undecodable origins)
  | error issues =>
    have some : issues ≠ [] := by
      rintro rfl
      exact isExplained_corsOriginsOfJson v checked
    refine ⟨issues.map (·.below (.field "cors_origins")), by simpa using some, ?_, ?_⟩
    · rw [ofEnvironment_of_value given rest within decoded value, checked]
      rfl
    · intro issue member
      obtain ⟨inner, -, rfl⟩ := List.mem_map.1 member
      rfl

end origins

/-- The origins are the list of strings that their text is JSON of, once or twice, and stay what they
are by default for JSON null. A text that is no JSON is not read, and all else is an issue of the
origins. Only JSON nested too deep, at either decoding, ends the reading. The other settings are what
they are without the variable. -/
theorem origins_are_decoded_once_or_twice {env : Environment} {text : String} {base : Settings}
    (given : env.get? "cors_origins" = some text)
    (rest : ofEnvironment (env.without "cors_origins") = .ok base) :
    base.corsOrigins = ({} : Settings).corsOrigins ∧
    (∀ origins : List Text, (∀ origin ∈ origins, origin.Settled) →
      IsListing origins text ∨
        (∃ listing : String, IsListing origins listing ∧ IsQuoting listing text) →
        ofEnvironment env = .ok { base with corsOrigins := origins }) ∧
    (WithinLimit text →
      (∀ field, ofEnvironment env = .error (.unreadable field) ↔
        field = "cors_origins" ∧ ∃ failure, Json.ofText text = .error failure) ∧
      (Json.ofText text = .ok .null → ofEnvironment env = .ok base) ∧
      ∀ v ≠ .null, Json.ofText text = .ok v →
        (∃ origins : List Text, Decodes text (.arr (origins.map .str)) ∧
          ofEnvironment env = .ok { base with corsOrigins := origins }) ∨
        ((∀ origins : List Text, ¬ Decodes text (.arr (origins.map .str))) ∧
          ∃ issues ≠ [], ofEnvironment env = .error (.invalid issues) ∧
            ∀ issue ∈ issues, issue.path.head? = some (.field "cors_origins"))) ∧
    (¬ WithinLimit text → ofEnvironment env = .error .tooDeep) := by
  refine ⟨corsOrigins_of_rest rest, ?_, ?_, ofEnvironment_of_too_deep given rest⟩
  · intro origins settled encoded
    rcases encoded with listing | ⟨listing, isListing, quoting⟩
    · have decoded := listing.ofText settled
      have within : WithinLimit text := ⟨by simp [decoded], by simp [decoded]⟩
      exact ofEnvironment_of_decodes given rest within (.once decoded)
    · have decoded := quoting.ofText (Text.settled_of listing)
      have inside := isListing.ofText settled
      have within : WithinLimit text := ⟨by simp [decoded], by simp [decoded, inside]⟩
      exact ofEnvironment_of_decodes given rest within (.twice decoded inside)
  · intro within
    refine ⟨fun field => ofEnvironment_unreadable_iff given rest within,
      ofEnvironment_of_null given rest, ?_⟩
    intro v value decoded
    by_cases decodes : ∃ origins : List Text, Decodes text (.arr (origins.map .str))
    · obtain ⟨origins, decodes⟩ := decodes
      exact .inl ⟨origins, decodes, ofEnvironment_of_decodes given rest within decodes⟩
    · rw [not_exists] at decodes
      exact .inr ⟨decodes, ofEnvironment_of_undecodable given rest within decoded value decodes⟩

theorem origins_are_taken_beside_others :
    ofEnvironment [("METRICS_ENABLED", "false"),
        ("Cors_Origins", "\"[\\\"https://a.test\\\", \\\"*\\\"]\"")] =
      .ok { metricsEnabled := false, corsOrigins := ["https://a.test", "*"] } := by
  have listing : IsListing [Text.of "https://a.test", Text.of "*"] "[\"https://a.test\", \"*\"]" :=
    ⟨Json.Writer.isAscii, [' '], Json.Writer.clean_isAscii, by simp [Json.Reader.isSpace], by decide⟩
  have quoting : IsQuoting "[\"https://a.test\", \"*\"]"
      "\"[\\\"https://a.test\\\", \\\"*\\\"]\"" := Json.isQuoting_write _
  have given : Environment.get? [("METRICS_ENABLED", "false"),
      ("Cors_Origins", "\"[\\\"https://a.test\\\", \\\"*\\\"]\"")] "cors_origins" =
        some "\"[\\\"https://a.test\\\", \\\"*\\\"]\"" := by
    decide
  have settled : ∀ origin ∈ [Text.of "https://a.test", Text.of "*"], origin.Settled := by
    simp [Text.settled_of]
  exact (origins_are_decoded_once_or_twice given rfl).2.1 _ settled (.inr ⟨_, listing, quoting⟩)

/-- A string is JSON however deep the JSON that it holds is nested, and the halves of a pair that
stand side by side come back as one character. -/
theorem nested_lists_and_halves_are_not_held :
    let inner := String.ofList (List.replicate 5000 '[' ++ List.replicate 5000 ']')
    let env : Environment := [("CORS_ORIGINS", Value.write (.str inner))]
    let halves : Text := [.half 0x3D, .half 0x600]
    (Json.ofText (Value.write (.str inner)) = .ok (.str inner) ∧
      ofEnvironment (env.without "cors_origins") = .ok {} ∧
      ofEnvironment env = .error .tooDeep) ∧
    IsListing [halves] "[\"\\ud83d\\ude00\"]" ∧
      ofEnvironment [("CORS_ORIGINS", "[\"\\ud83d\\ude00\"]")] =
        .ok { corsOrigins := [Text.of "😀"] } := by
  intro inner env halves
  have decoded : Json.ofText (Value.write (.str inner)) = .ok (.str inner) :=
    (Json.isQuoting_write inner).ofText (Text.settled_of inner)
  have spelled : Text.of inner =
      List.replicate 5000 (.char '[') ++ List.replicate 5000 (.char ']') := by
    rw [Text.of, String.toList_ofList, List.map_append, List.map_replicate, List.map_replicate]
  have deep : Json.ofText inner = .error (.limit .depth) := by
    rw [spelled]
    exact Json.ofText_nested _ (by decide)
  have named : Environment.matchesName {} "cors_origins" "CORS_ORIGINS" = true := by decide
  have given : env.get? "cors_origins" = some (Value.write (.str inner)) := by
    simp [Environment.get?, Environment.find?, env, named]
  have alone : env.without "cors_origins" = [] := by simp [Environment.without, env, named]
  have rest : ofEnvironment (env.without "cors_origins") = .ok {} := by
    rw [alone]
    rfl
  have listing : IsListing [halves] "[\"\\ud83d\\ude00\"]" :=
    ⟨Json.Writer.isAscii, [], Json.Writer.clean_isAscii, by simp, by decide⟩
  have joined : Json.ofText "[\"\\ud83d\\ude00\"]" = .ok (.arr [.str [.char '😀']]) := rfl
  have decodes : Decodes "[\"\\ud83d\\ude00\"]" (.arr ([Text.of "😀"].map .str)) := .once joined
  have written : Environment.get? [("CORS_ORIGINS", "[\"\\ud83d\\ude00\"]")] "cors_origins" =
      some "[\"\\ud83d\\ude00\"]" := by decide
  have within : WithinLimit "[\"\\ud83d\\ude00\"]" := ⟨by simp [joined], by simp [joined]⟩
  refine ⟨⟨decoded, rest, ofEnvironment_of_too_deep given rest fun within =>
    within.inner inner decoded deep⟩, listing, ?_⟩
  exact ofEnvironment_of_decodes written rfl within decodes

end Settings
end KqlCompletion
