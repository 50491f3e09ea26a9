import KqlCompletion.Proofs.Schema.Offences
import KqlCompletion.Proofs.Json.RoundTrip
import KqlCompletion.Proofs.SchemaService.Checks

/-! Malformed schemas. What a value has to be like to be read as a schema is said once more, form by
form; of any other value the offences are reported, and a load that ends there tells how many they
are. -/
namespace KqlCompletion.Schema

open Json (Value Members)
open Validation

section counts

variable {members : Members} {items : List Value}

theorem count_items {α : Type} {form item : Form} {check : Value → Checked α}
    (kind : form.item? = some item) (reports : Reports item check) (items : List Value) :
    form.count (.arr items) = (items.map item.count).sum := by
  simp only [(Reports.of_items kind reports).count_eq, reports.count_eq, length_issues_list]

/-- What is wrong with a table is wrong with one of its three fields. -/
theorem count_table (members : Members) : Form.table.count (.obj members) =
    (members.get? "name").elim 1 Form.text.count +
      (members.get? "description").elim 0 Form.textOrNull.count +
      (members.get? "columns").elim 0 Form.columns.count := by
  have columns : Reports .columns (list Column.ofJson) := .of_items rfl reports_column
  have split : (Table.ofJson (.obj members)).issues = (required members "name" text).issues ++
      (given members "description" (nullable text)).issues ++
      (given members "columns" (list Column.ofJson)).issues := Checked.issues_map3 ..
  simp only [reports_table.count_eq, split, List.length_append, length_issues_required,
    length_issues_given, reports_text.count_eq, reports_textOrNull.count_eq, columns.count_eq]

theorem count_schema (members : Members) :
    Form.schema.count (.obj members) = (members.get? "tables").elim 1 Form.tables.count := by
  have tables : Reports .tables (list Table.ofJson) := .of_items rfl reports_table
  have only : (ofJson (.obj members)).issues =
      (required members "tables" (list Table.ofJson)).issues := Checked.issues_map ..
  simp only [reports_schema.count_eq, only, length_issues_required, tables.count_eq]

theorem count_schema_of_tables (listed : members.get? "tables" = some (.arr items)) :
    Form.schema.count (.obj members) = (items.map Form.table.count).sum := by
  rw [count_schema, listed]
  exact count_items rfl reports_table items

theorem count_table_of_columns (listed : members.get? "columns" = some (.arr items)) :
    Form.table.count (.obj members) =
      Form.table.count (.obj (members.without "columns")) + (items.map Form.column.count).sum := by
  have columns : Form.columns.count (.arr items) = (items.map Form.column.count).sum :=
    count_items rfl reports_column items
  simp [count_table, Members.get?_without, listed, columns]

end counts

section fits

variable {v : Value}

/-- A value that is read as a column: its name is a text, and so is its type if it has one, and its
description if that is not null. -/
def Column.Fits (v : Value) : Prop :=
  ∃ members : Members, v = .obj members ∧
    (∃ name, members.get? "name" = some (.str name)) ∧
    (∀ u, members.get? "type" = some u → ∃ type, u = .str type) ∧
    ∀ u, members.get? "description" = some u → u = .null ∨ ∃ text, u = .str text

def Table.Fits (v : Value) : Prop :=
  ∃ members : Members, v = .obj members ∧
    (∃ name, members.get? "name" = some (.str name)) ∧
    (∀ u, members.get? "description" = some u → u = .null ∨ ∃ text, u = .str text) ∧
    ∀ u, members.get? "columns" = some u →
      ∃ items, u = .arr items ∧ ∀ item ∈ items, Column.Fits item

def Fits (v : Value) : Prop :=
  ∃ (members : Members) (items : List Value), v = .obj members ∧
    members.get? "tables" = some (.arr items) ∧ ∀ item ∈ items, Table.Fits item

variable {α β : Type}

theorem exists_rel_iff {P : α → β → Prop} {o : Option α} :
    (∃ p, Option.Rel P o p) ↔ ∀ a, o = some a → ∃ b, P a b := by
  cases o with
  | none => simpa using ⟨none, .none⟩
  | some a => simp [Option.exists]

theorem exists_eq_map_iff {f : β → α} {o : Option α} :
    (∃ p : Option β, o = p.map f) ↔ ∀ a, o = some a → ∃ b, a = f b := by
  simp only [← rel_eq_map_iff, exists_rel_iff]

theorem exists_forall₂_iff {P : α → β → Prop} {items : List α} :
    (∃ results : List β, List.Forall₂ P items results) ↔ ∀ item ∈ items, ∃ b, P item b := by
  induction items with
  | nil => simp
  | cons item items ih => simp [List.forall₂_cons_left_iff, ← ih]

theorem exists_listed_iff {P : Value → β → Prop} {v : Value} :
    (∃ results items, v = .arr items ∧ List.Forall₂ P items results) ↔
      ∃ items, v = .arr items ∧ ∀ item ∈ items, ∃ b, P item b := by
  rw [exists_comm]
  simp only [exists_and_left, exists_forall₂_iff]

theorem exists_nullOr_iff {v : Value} :
    (∃ text, v = nullOr text) ↔ v = .null ∨ ∃ text, v = .str text := by
  simp [Option.exists, nullOr]

theorem Column.exists_ofJson_iff : (∃ column, Column.ofJson v = .ok column) ↔ Column.Fits v := by
  simp only [Column.Fits, ← exists_nullOr_iff]
  constructor
  · rintro ⟨column, read⟩
    obtain ⟨members, rfl, named, typed, told⟩ := Column.ofJson_eq_ok_iff.1 read
    exact ⟨members, rfl, ⟨_, named⟩, exists_eq_map_iff.1 ⟨_, typed⟩, exists_eq_map_iff.1 ⟨_, told⟩⟩
  · rintro ⟨members, rfl, ⟨name, named⟩, typed, told⟩
    obtain ⟨type, typed⟩ := exists_eq_map_iff.2 typed
    obtain ⟨description, told⟩ := exists_eq_map_iff.2 told
    exact ⟨⟨name, type, description⟩,
      Column.ofJson_eq_ok_iff.2 ⟨members, rfl, named, typed, told⟩⟩

theorem Table.exists_ofJson_iff : (∃ table, Table.ofJson v = .ok table) ↔ Table.Fits v := by
  simp only [Table.Fits, ← exists_nullOr_iff, ← Column.exists_ofJson_iff, ← exists_listed_iff]
  constructor
  · rintro ⟨table, read⟩
    obtain ⟨members, rfl, named, told, listed⟩ := Table.ofJson_eq_ok_iff.1 read
    exact ⟨members, rfl, ⟨_, named⟩, exists_eq_map_iff.1 ⟨_, told⟩, exists_rel_iff.1 ⟨_, listed⟩⟩
  · rintro ⟨members, rfl, ⟨name, named⟩, told, listed⟩
    obtain ⟨description, told⟩ := exists_eq_map_iff.2 told
    obtain ⟨columns, listed⟩ := exists_rel_iff.2 listed
    exact ⟨⟨name, description, columns⟩,
      Table.ofJson_eq_ok_iff.2 ⟨members, rfl, named, told, listed⟩⟩

theorem exists_ofJson_iff : (∃ schema, ofJson v = .ok schema) ↔ Fits v := by
  simp only [Fits, ← Table.exists_ofJson_iff, ← exists_forall₂_iff]
  constructor
  · rintro ⟨schema, read⟩
    obtain ⟨members, items, rfl, listed, all⟩ := ofJson_eq_ok_iff.1 read
    exact ⟨members, items, rfl, listed, _, all⟩
  · rintro ⟨members, items, rfl, listed, tables, all⟩
    exact ⟨⟨tables⟩, ofJson_eq_ok_iff.2 ⟨members, items, rfl, listed, all⟩⟩

end fits
section loads

open Json.Reader (Readable)
open SchemaService (Attempt Check)

/-- A load that comes as far as the schema fails with the number of issues. -/
theorem outcome_of_issues {attempt : Attempt} {issues : List Issue}
    (value : attempt.value? = some v) (refused : ofJson v = .error issues)
    (passed : ∀ check, check ≠ .schema → attempt.passes check = true) :
    attempt.outcome = .failed (.notASchema issues.length) := by
  have fails : attempt.passes .schema = false := by
    simp [Attempt.passes, Attempt.schema?, value, refused, Except.toOption]
  have earlier : attempt.PassesFirst 9 := fun check among => passed check (by
    rintro rfl
    exact absurd among (by decide))
  have ended := attempt.ends
  rw [earlier.firstFailing rfl fails] at ended
  generalize attempt.outcome = outcome at ended ⊢
  cases ended with
  | brokenOff escapes => exact escapes.elim
  | @failed _ error reported =>
    cases error with
    | notASchema count =>
      obtain ⟨other, found, same, read, rfl⟩ := reported
      obtain rfl := Option.some.inj (value.symm.trans same)
      rw [Except.error.inj (refused.symm.trans read)]
    | _ => exact reported.elim

/-- A value is read as a schema exactly if it is like one, which is if nothing in it offends. Of any
other value the issues are its offences, one for each place and in the order of the places, and
their number is what a load notes. It adds up over the tables, and in a table over the columns. -/
theorem issues_are_the_offences (v : Value) :
    ((∃ schema, ofJson v = .ok schema) ↔ Fits v) ∧
    (Fits v ↔ ∀ issue, ¬ Form.schema.Offends v issue) ∧
    (∀ issues, ofJson v = .error issues →
      (∀ issue, issue ∈ issues ↔ Form.schema.Offends v issue) ∧
      (issues.Pairwise fun a b => Form.schema.Before a.path b.path) ∧
      (issues.map (·.path)).Nodup ∧ issues.length = Form.schema.count v) ∧
    (∀ (attempt : Attempt) (engine : Engine), attempt.value? = some v →
      (∀ check, check ≠ .schema → attempt.passes check = true) → ¬ Fits v →
      ((engine.complete attempt.workspace attempt.outcome).lastError.map (·.message) =
        some ("malformed schema body: " ++ toString (Form.schema.count v) ++ " error(s)"))) ∧
    (∀ (members : Members) items, v = .obj members → members.get? "tables" = some (.arr items) →
      Form.schema.count v = (items.map Form.table.count).sum) ∧
    ∀ (members : Members) items, members.get? "columns" = some (.arr items) →
      Form.table.count (.obj members) = Form.table.count (.obj (members.without "columns")) +
        (items.map Form.column.count).sum := by
  refine ⟨exists_ofJson_iff, ?_, ?_, ?_, ?_, fun _ _ => count_table_of_columns⟩
  · rw [← exists_ofJson_iff]
    exact reports_schema.ok_iff v
  · intro issues refused
    have found : (ofJson v).issues = issues := by rw [refused]; rfl
    rw [reports_schema.count_eq, ← found]
    exact ⟨reports_schema.mem_iff v, reports_schema.ordered v, reports_schema.nodup v, rfl⟩
  · intro attempt engine value passed unfit
    cases read : ofJson v with
    | ok schema => exact absurd (exists_ofJson_iff.1 ⟨schema, read⟩) unfit
    | error issues =>
      have number : Form.schema.count v = issues.length := by
        simp only [reports_schema.count_eq, read, Checked.issues]
      rw [outcome_of_issues value read passed, number]
      rfl
  · rintro members items rfl listed
    exact count_schema_of_tables listed

/-- The first table has no text as its name, and its columns lack one, have no text as their type,
or are none; the second table is none. -/
theorem five_offences_are_noted :
    let v : Value := .obj [("tables", .arr [
      .obj [("name", .null), ("columns", .arr [.obj [("type", .null)], .bool true])], .null])]
    let attempt : Attempt :=
      ⟨"https://schema.test/api", "w", "tok", .response 200 [] v.bytes⟩
    ¬ Fits v ∧ Form.schema.count v = 5 ∧
      (Engine.complete "w" attempt.outcome {}).lastError.map (·.message) =
        some "malformed schema body: 5 error(s)" := by
  intro v attempt
  have readable : Readable 5 v := by
    have column : Readable 1 (.obj [("type", .null)]) :=
      .obj (by simp) (by simp [Text.settled_of]) (by simp [Readable.null])
    have columns : Readable 2 (.arr [.obj [("type", .null)], .bool true]) :=
      .arr (by simp [column, Readable.bool])
    have table : Readable 3 (.obj [("name", .null),
        ("columns", .arr [.obj [("type", .null)], .bool true])]) :=
      .obj (by simp) (by simp [Text.settled_of]) (by simp [columns, Readable.null])
    exact .obj (by simp) (by simp [Text.settled_of])
      (by simpa using .arr (by simp [table, Readable.null]))
  have value : attempt.value? = some v := by
    rw [Attempt.value?, Attempt.content?_of_uncoded rfl rfl, Option.bind_some,
      Json.ofBytes_bytes readable (by decide)]
    rfl
  have passed : ∀ check, check ≠ Check.schema → attempt.passes check = true := by
    intro check other
    cases check with
    | json => simp [Attempt.passes, value]
    | schema => exact absurd rfl other
    | _ => decide +kernel
  obtain ⟨fits, -, offences, noted, -⟩ := issues_are_the_offences v
  have unfit : ¬ Fits v := by
    intro right
    obtain ⟨schema, accepted⟩ := fits.2 right
    cases accepted
  have five : Form.schema.count v = 5 := (offences _ rfl).2.2.2.symm
  refine ⟨unfit, five, ?_⟩
  rw [noted attempt {} value passed unfit, five]
  decide

end loads
end KqlCompletion.Schema
