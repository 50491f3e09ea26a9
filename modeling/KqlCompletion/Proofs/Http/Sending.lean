import KqlCompletion.Proofs.Http.Handlers
import KqlCompletion.Proofs.Suggestion.Origin
import Mathlib.Tactic.MkIffOfInductiveProp

/-! What can be sent. A schema is accepted with any texts, but it can be sent only if none of them
has half of a surrogate pair without the other half. Suggestions take their texts from the catalogs
and from the schema, so those for a schema that can be sent can be sent as well. -/
namespace KqlCompletion

open Http (isWritable)

namespace Text

variable {text other : Text}

@[simp] theorem isSound_of (written : String) : isSound (of written) = true :=
  isSound_iff.2 ⟨written, rfl⟩

theorem isSound_append (sound : isSound text = true) (also : isSound other = true) :
    isSound (text ++ other) = true := by
  obtain ⟨written, rfl⟩ := isSound_iff.1 sound
  obtain ⟨behind, rfl⟩ := isSound_iff.1 also
  rw [← of_append]
  exact isSound_of _

end Text

namespace Http

@[simp] theorem isWritable_str (text : Text) : isWritable (.str text) = text.isSound := by
  rw [isWritable]

@[simp] theorem isWritable_nullOr_iff {text : Option Text} :
    isWritable (Schema.nullOr text) = true ↔ ∀ told ∈ text, told.isSound = true := by
  cases text <;> simp [Schema.nullOr, isWritable]

@[simp] theorem isWritable_arr_iff {items : List Json.Value} :
    isWritable (.arr items) = true ↔ ∀ item ∈ items, isWritable item = true := by
  rw [isWritable]
  induction items with
  | nil => simp [areWritable]
  | cons item items ih => simp [areWritable, ih]

@[simp] theorem isWritable_obj_iff {members : Json.Members} :
    isWritable (.obj members) = true ↔
      ∀ member ∈ members, member.1.isSound = true ∧ isWritable member.2 = true := by
  rw [isWritable]
  induction members with
  | nil => simp [membersWritable]
  | cons member members ih => simp [membersWritable, ih]

end Http

namespace Schema

@[mk_iff]
structure Column.Sendable (column : Column) : Prop where
  name : column.name.isSound = true
  type : column.type.isSound = true
  description : ∀ text ∈ column.description, text.isSound = true

@[mk_iff]
structure Table.Sendable (table : Table) : Prop where
  name : table.name.isSound = true
  description : ∀ text ∈ table.description, text.isSound = true
  columns : ∀ column ∈ table.columns, column.Sendable

def Sendable (schema : Schema) : Prop := ∀ table ∈ schema.tables, table.Sendable

theorem Column.isWritable_toJson_iff (column : Column) :
    isWritable column.toJson = true ↔ column.Sendable := by
  simp [toJson, Column.sendable_iff]

theorem Table.isWritable_toJson_iff (table : Table) :
    isWritable table.toJson = true ↔ table.Sendable := by
  simp [toJson, Table.sendable_iff, Column.isWritable_toJson_iff]

/-- A schema can be written into an answer if all its texts can be sent. -/
theorem isWritable_toJson_iff (schema : Schema) :
    isWritable schema.toJson = true ↔ schema.Sendable := by
  simp [toJson, Sendable, Table.isWritable_toJson_iff]

instance (schema : Schema) : Decidable schema.Sendable :=
  decidable_of_iff _ schema.isWritable_toJson_iff

end Schema

namespace Suggestion

@[mk_iff]
structure Sendable (suggestion : Suggestion) : Prop where
  value : suggestion.value.isSound = true
  label : suggestion.label.isSound = true
  description : suggestion.description.isSound = true
  insertText : suggestion.insertText.isSound = true

theorem isWritable_toJson_iff (suggestion : Suggestion) :
    isWritable suggestion.toJson = true ↔ suggestion.Sendable := by
  simp [toJson, insertTextName, sendable_iff]

instance (suggestion : Suggestion) : Decidable suggestion.Sendable :=
  decidable_of_iff _ suggestion.isWritable_toJson_iff

end Suggestion

theorem Api.isWritable_completionJson_iff (suggestions : List Suggestion) :
    isWritable (completionJson suggestions) = true ↔
      ∀ suggestion ∈ suggestions, suggestion.Sendable := by
  simp [completionJson, itemsJson, Suggestion.isWritable_toJson_iff]

section suggest

open Schema (Table Column)

variable {held : Option Schema} {suggestion : Suggestion}

theorem Suggestion.sendable_ofTable {table : Table} (sendable : table.Sendable) :
    (ofTable table).Sendable := by
  refine ⟨sendable.name, sendable.name, ?_, sendable.name⟩
  change Text.isSound (table.description.getD []) = true
  cases told : table.description with
  | none => rfl
  | some text => exact sendable.description text told

theorem Suggestion.sendable_ofColumn {column : Column} (detailed : Bool)
    (sendable : column.Sendable) : (ofColumn detailed column).Sendable := by
  refine ⟨sendable.name, sendable.name, ?_, sendable.name⟩
  dsimp only [ofColumn, plain, Suggestion.description, Option.getD_some]
  cases told : column.description with
  | none => exact sendable.type
  | some text =>
    dsimp only
    split
    · have typed := Text.isSound_append sendable.type (Text.isSound_of " - ")
      exact Text.isSound_append typed (sendable.description text told)
    · exact sendable.type

/-- Whatever is in a catalog can be sent. -/
theorem Suggestion.sendable_of_catalog :
    (∀ operator ∈ Catalog.operators, (ofOperator operator).Sendable) ∧
    (∀ keyword ∈ Catalog.keywords, (ofKeyword keyword).Sendable) ∧
    (∀ function ∈ Catalog.functions, (ofFunction "KQL function" function).Sendable) ∧
    (∀ function ∈ Catalog.aggregations, (ofFunction "Aggregation function" function).Sendable) ∧
    ∀ range ∈ Catalog.timeRanges, (ofTimeRange range).Sendable := by
  decide +kernel

/-- Suggestions for a schema that can be sent, or for none, can be sent. -/
theorem sendable_of_mem_suggest {text : Option Text} (sendable : ∀ schema ∈ held, schema.Sendable)
    (offered : suggestion ∈ suggest text held) : suggestion.Sendable := by
  obtain ⟨operators, keywords, functions, aggregations, ranges⟩ := Suggestion.sendable_of_catalog
  cases origin_of_mem_suggest offered with
  | table there listed => exact Suggestion.sendable_ofTable (sendable _ there _ listed)
  | column detailed there listed among =>
    exact Suggestion.sendable_ofColumn detailed ((sendable _ there _ listed).columns _ among)
  | operator listed => exact operators _ listed
  | keyword listed => exact keywords _ listed
  | function listed => exact functions _ listed
  | aggregation listed => exact aggregations _ listed
  | timeRange listed => exact ranges _ listed

end suggest

namespace Http.Response

variable {request : Request} {message : Api.CompletionRequest}

theorem ofSchema_some (schema : Schema) : ofSchema (some schema) =
    if schema.Sendable then some (.json 200 schema.toJson) else none := by
  simp only [ofSchema, json?, schema.isWritable_toJson_iff]

theorem ofSuggestions_of_message
    (read : request.message Api.CompletionRequest.ofFields = .ok message) (held : Option Schema) :
    let offered := suggest (some message.text) held
    ofSuggestions request held =
      if ∀ suggestion ∈ offered, suggestion.Sendable then
        some (.json 200 (Api.completionJson offered))
      else none := by
  intro offered
  simp only [ofSuggestions, read, json?, Api.isWritable_completionJson_iff, offered]

end Http.Response
end KqlCompletion
