import KqlCompletion.Schema.Basic
import KqlCompletion.Validation.Checked

/-! Schemas as JSON. Unknown members are ignored at every level. `toJson` writes every field, with
defaults for what was left out; `givenJson` writes exactly what was given. -/
namespace KqlCompletion.Schema

open Json (Value Members)
open Validation

def nullOr (text : Option Text) : Value := text.elim .null .str

def member? (name : Text) (value : Option Value) : Members :=
  (value.map (name, ·)).toList

def Column.ofJson (v : Value) : Checked Column := do
  let fields ← members (.model "ColumnSchema") v
  Checked.map3 Column.mk (required fields "name" text) (given fields "type" text)
    (given fields "description" (nullable text))

def Column.toJson (column : Column) : Value :=
  .obj [("name", .str column.name), ("type", .str column.type),
    ("description", nullOr column.description)]

def Column.givenJson (column : Column) : Value :=
  .obj (("name", .str column.name) :: (member? "type" (column.givenType.map .str) ++
    member? "description" (column.givenDescription.map nullOr)))

def Table.ofJson (v : Value) : Checked Table := do
  let fields ← members (.model "TableSchema") v
  Checked.map3 Table.mk (required fields "name" text) (given fields "description" (nullable text))
    (given fields "columns" (list Column.ofJson))

def Table.toJson (table : Table) : Value :=
  .obj [("name", .str table.name), ("description", nullOr table.description),
    ("columns", .arr (table.columns.map Column.toJson))]

def Table.givenJson (table : Table) : Value :=
  .obj (("name", .str table.name) :: (member? "description" (table.givenDescription.map nullOr) ++
    member? "columns" (table.givenColumns.map fun columns => .arr (columns.map Column.givenJson))))

def ofJson (v : Value) : Checked Schema := do
  let fields ← members (.model "WorkspaceSchema") v
  (required fields "tables" (list Table.ofJson)).map Schema.mk

def toJson (schema : Schema) : Value := .obj [("tables", .arr (schema.tables.map Table.toJson))]

def givenJson (schema : Schema) : Value :=
  .obj [("tables", .arr (schema.tables.map Table.givenJson))]

end KqlCompletion.Schema
