import KqlCompletion.Proofs.Schema.Format
import KqlCompletion.Proofs.Service.Busy
import KqlCompletion.Proofs.Suggestion.Origin
import Mathlib.Data.List.Nodup

/-! The names of the tables that an engine holds. They are the names in the body that the schema was
read from, in its order, and nothing keeps two tables from having one name: of these the first one
is found, while all of them are offered. -/
namespace KqlCompletion

open Json (Value Members)
open Schema (Table)

def Schema.namesIn (body : Value) : List Value :=
  match body with
  | .obj fields =>
    match Members.get? fields "tables" with
    | some (.arr items) => items.filterMap fun
      | .obj table => Members.get? table "name"
      | _ => none
    | _ => []
  | _ => []

namespace Schema

variable {schema : Schema} {table : Table} {body : Value}

/-- All tables are read, under their names and in their order. -/
theorem namesIn_of_ofJson (read : ofJson body = .ok schema) :
    namesIn body = schema.tables.map fun table => .str table.name := by
  obtain ⟨fields, items, rfl, tables, all⟩ := ofJson_eq_ok_iff.1 read
  obtain ⟨listed⟩ := schema
  dsimp only at all ⊢
  simp only [namesIn, tables]
  clear read tables
  induction all with
  | nil => rfl
  | cons first _ ih =>
    obtain ⟨own, rfl, name, -, -⟩ := Table.ofJson_eq_ok_iff.1 first
    simp [name, ih]

theorem nodup_namesIn_iff (read : ofJson body = .ok schema) :
    (namesIn body).Nodup ↔ (schema.tables.map (·.name)).Nodup := by
  have written : (schema.tables.map fun table => Value.str table.name) =
      (schema.tables.map (·.name)).map Value.str := by simp
  rw [namesIn_of_ofJson read, written]
  exact List.nodup_map_iff fun _ _ same => Value.str.inj same

/-- Of the tables of one name the first is found. -/
theorem findTable_of_mem (member : table ∈ schema.tables) :
    ∃ first front back, schema.findTable table.name = some first ∧ first.name = table.name ∧
      schema.tables = front ++ first :: back ∧ ∀ other ∈ front, other.name ≠ table.name := by
  obtain ⟨first, found⟩ : ∃ first, schema.findTable table.name = some first :=
    Option.isSome_iff_exists.1 (List.find?_isSome.2 ⟨table, member, by simp⟩)
  obtain ⟨same, front, back, whole, others⟩ := List.find?_eq_some_iff_append.1 found
  exact ⟨first, front, back, found, by simpa using same, whole, by simpa using others⟩

theorem findTable_of_nodup (distinct : (schema.tables.map (·.name)).Nodup)
    (member : table ∈ schema.tables) : schema.findTable table.name = some table := by
  obtain ⟨first, front, back, found, same, whole, -⟩ := findTable_of_mem member
  have listed : first ∈ schema.tables := by simp [whole]
  rw [found, List.inj_on_of_nodup_map distinct listed member same]

end Schema

section offered

variable {schema : Schema} {suggestion : Suggestion}

/-- What is offered as a table is one of the schema. -/
theorem table_of_mem_suggest {text : Option Text}
    (member : suggestion ∈ suggest text (some schema)) (isTable : suggestion.kind = .table) :
    ∃ table ∈ schema.tables, suggestion = .ofTable table := by
  cases origin_of_mem_suggest member with
  | table there listed =>
    cases there
    exact ⟨_, listed, rfl⟩
  | column | operator | keyword | function | aggregation | timeRange => cases isTable

end offered

namespace Engine.Busy

open Happening
open SchemaService (Attempt)

/-- What is held was read from the body of the last load to succeed. -/
theorem body_of_held (turns : List Turn) {schema : Schema}
    (held : (({} : Busy).run turns).engine.schema = some schema) :
    ∃ attempt body, latest? replaces (({} : Busy).history turns) = some (.ended attempt) ∧
      attempt.value? = some body ∧ Schema.ofJson body = .ok schema := by
  have accounts := Accounts.empty.run turns
  have holding := accounts.holding
  rw [List.nil_append] at holding
  obtain ⟨holds, same, rfl⟩ := Option.map_eq_some_iff.1 held
  rw [same] at holding
  obtain ⟨happening, latest, brought⟩ := Option.bind_eq_some_iff.1 holding.symm
  cases happening with
  | cleared => cases brought
  | ended attempt =>
    obtain ⟨schema, found, rfl⟩ := Option.map_eq_some_iff.1 brought
    obtain ⟨body, isBody, read⟩ := Option.bind_eq_some_iff.1 found
    refine ⟨attempt, body, latest, isBody, ?_⟩
    cases checked : Schema.ofJson body with
    | error issues => simp [checked, Except.toOption] at read
    | ok other => simpa [checked, Except.toOption] using read

/-- However loads start and end on an engine: the names of the tables that it holds are those in the
body that was read last, in the order of that body, so they differ exactly if those do. Every table
offered is one of them, and what is found under its name is the first table of this name, which is
the table itself if all names differ. -/
theorem table_names_are_those_of_body (turns : List Turn) (schema : Schema)
    (held : (({} : Busy).run turns).engine.schema = some schema) :
    (∃ attempt body, latest? replaces (({} : Busy).history turns) = some (.ended attempt) ∧
      attempt.value? = some body ∧
      Schema.namesIn body = schema.tables.map (fun table => .str table.name) ∧
      ((schema.tables.map (·.name)).Nodup ↔ (Schema.namesIn body).Nodup)) ∧
    ∀ text, ∀ suggestion ∈ suggest text (some schema), suggestion.kind = .table →
      ∃ table ∈ schema.tables, suggestion = .ofTable table ∧
        (∃ first front back, schema.findTable table.name = some first ∧
          first.name = table.name ∧ schema.tables = front ++ first :: back ∧
          ∀ other ∈ front, other.name ≠ table.name) ∧
        ((schema.tables.map (·.name)).Nodup → schema.findTable table.name = some table) := by
  obtain ⟨attempt, body, latest, isBody, read⟩ := body_of_held turns held
  refine ⟨⟨attempt, body, latest, isBody, Schema.namesIn_of_ofJson read,
    (Schema.nodup_namesIn_iff read).symm⟩, ?_⟩
  intro text suggestion offered isTable
  obtain ⟨table, listed, rfl⟩ := table_of_mem_suggest offered isTable
  exact ⟨table, listed, rfl, Schema.findTable_of_mem listed,
    fun distinct => Schema.findTable_of_nodup distinct listed⟩

def loadOf (body : String) : List Turn :=
  [.start ⟨"https://schema.test/api", "w", "t"⟩,
    .answer 0 (.response 200 [] (Text.Utf8.encode body.toList))]

theorem two_tables_are_found :
    let body := "\x7b\"tables\":[\x7b\"name\":\"A\"\x7d,\x7b\"name\":\"B\"\x7d]\x7d"
    let schema : Schema := ⟨[⟨"A", none, none⟩, ⟨"B", none, none⟩]⟩
    (({} : Busy).run (loadOf body)).engine.schema = some schema ∧
      Suggestion.ofTable ⟨"B", none, none⟩ ∈ suggest (some "") (some schema) ∧
      ∃ table ∈ schema.tables, Suggestion.ofTable ⟨"B", none, none⟩ = .ofTable table ∧
        schema.findTable table.name = some table := by
  intro body schema
  have held : (({} : Busy).run (loadOf body)).engine.schema = some schema := by decide +kernel
  have offered : Suggestion.ofTable ⟨"B", none, none⟩ ∈ suggest (some "") (some schema) := by
    decide +kernel
  have distinct : (schema.tables.map (·.name)).Nodup := by decide
  obtain ⟨table, listed, same, -, found⟩ :=
    (table_names_are_those_of_body (loadOf body) schema held).2 (some "") _ offered rfl
  exact ⟨held, offered, table, listed, same, found distinct⟩

/-- Two tables of one name are held, and both are offered; only the first one is found. -/
theorem second_table_of_a_name_is_held :
    let body := "\x7b\"tables\":[\x7b\"name\":\"T\"\x7d," ++
      "\x7b\"name\":\"T\",\"description\":\"second\"\x7d]\x7d"
    let schema : Schema := ⟨[⟨"T", none, none⟩, ⟨"T", some (some "second"), none⟩]⟩
    (({} : Busy).run (loadOf body)).engine.schema = some schema ∧
      ¬ (schema.tables.map (·.name)).Nodup ∧
      Suggestion.ofTable ⟨"T", some (some "second"), none⟩ ∈ suggest (some "") (some schema) ∧
      schema.findTable "T" = some ⟨"T", none, none⟩ := by
  decide +kernel

end Engine.Busy
end KqlCompletion
