import KqlCompletion.Proofs.Schema.Format
import KqlCompletion.Suggestion.Provider

/-! Schemas of the same contents are completed alike: nothing that is suggested tells whether a
field was given or left to its default. -/
namespace KqlCompletion

open Query (Context)
open Schema (Table Column)

namespace Suggestion

theorem ofTable_congr {table other : Table} (same : table.contents = other.contents) :
    ofTable table = ofTable other := by
  obtain ⟨name, rest⟩ := Prod.mk.inj same
  rw [ofTable, ofTable, name, (Prod.mk.inj rest).1]

theorem ofColumn_congr (detailed : Bool) {column other : Column}
    (same : column.contents = other.contents) :
    ofColumn detailed column = ofColumn detailed other := by
  obtain ⟨name, rest⟩ := Prod.mk.inj same
  obtain ⟨type, description⟩ := Prod.mk.inj rest
  rw [ofColumn, ofColumn, name, type, description]

end Suggestion

variable {schema other : Schema} (same : schema.contents = other.contents)

theorem Schema.findTable_contents (schema : Schema) (name : Text) :
    (schema.findTable name).map Table.contents = schema.contents.find? (·.1 == name) := by
  rw [findTable, contents, List.find?_map]
  rfl

include same

theorem Query.sourceTable_congr (text : Text) :
    (sourceTable text schema).map Table.contents = (sourceTable text other).map Table.contents := by
  have line (line : Text) :
      (lineTable? schema line).map Table.contents = (lineTable? other line).map Table.contents := by
    rw [lineTable?, lineTable?]
    cases sourceWord? line with
    | none => rfl
    | some word => simp [Schema.findTable_contents, same]
  rw [sourceTable, sourceTable]
  induction Text.lines text with
  | nil => rfl
  | cons first lines ih =>
    have first := line first
    rw [List.findSome?_cons, List.findSome?_cons]
    split <;> split <;> simp_all

namespace Provider

theorem tables_congr (context : Context) :
    tables context (some schema) = tables context (some other) := by
  rw [tables, tables]
  split
  · rfl
  · exact map_eq_of_map_eq (fun _ _ => Suggestion.ofTable_congr) same

theorem columns_congr (context : Context) :
    columns context (some schema) = columns context (some other) := by
  have source := Query.sourceTable_congr same context.fullText
  rw [columns, columns]
  dsimp only [Query.sourceTable?, Option.bind_some]
  generalize Query.sourceTable context.fullText schema = found at source ⊢
  generalize Query.sourceTable context.fullText other = foundOther at source ⊢
  cases found with
  | none =>
    obtain rfl : foundOther = none := by simpa using source.symm
    rfl
  | some table =>
    obtain ⟨another, rfl, alike⟩ := Option.map_eq_some_iff.1 source.symm
    have listed := (Prod.mk.inj (Prod.mk.inj alike).2).2
    exact map_eq_of_map_eq (fun _ _ => Suggestion.ofColumn_congr _) listed.symm

theorem stems_congr (context : Context) :
    stems context (some schema) = stems context (some other) := by
  have named (p : Text → Bool) (schema : Schema) :
      (schema.tables.filter fun table => p table.name).map Table.contents =
        schema.contents.filter fun table => p table.1 := by
    rw [Schema.contents, List.filter_map]
    rfl
  rw [stems, stems]
  congr 1
  refine map_eq_of_map_eq (fun _ _ => Suggestion.ofTable_congr) ?_
  have named := named (startsWith (Text.lower context.currentWord))
  exact (named schema).trans (same ▸ (named other).symm)

theorem run_congr (provider : Provider) (context : Context) :
    provider.run context (some schema) = provider.run context (some other) := by
  cases provider with
  | table => exact tables_congr same context
  | operator => rfl
  | column => exact columns_congr same context
  | aggregation => rfl
  | stem => exact stems_congr same context
  | timeRange => rfl

end Provider

theorem suggest_congr (text : Option Text) :
    suggest text (some schema) = suggest text (some other) := by
  simp only [suggest, Context.suggestions, Provider.run_congr same]

end KqlCompletion
