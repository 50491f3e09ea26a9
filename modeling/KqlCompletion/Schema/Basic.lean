import KqlCompletion.Text.CodePoint

/-! Workspace schemas: the tables that queries may read and their columns, in the order in which
the schema service lists them. Names need not be unique. -/
namespace KqlCompletion

namespace Schema

/-- What the service leaves out is not stored: `givenType` and `givenDescription` are what it wrote,
and a description may be written as null. -/
structure Column where
  name : Text
  givenType : Option Text := none
  givenDescription : Option (Option Text) := none
  deriving DecidableEq, Repr

def Column.type (column : Column) : Text := column.givenType.getD []
def Column.description (column : Column) : Option Text := column.givenDescription.join

structure Table where
  name : Text
  givenDescription : Option (Option Text) := none
  givenColumns : Option (List Column) := none
  deriving DecidableEq, Repr

def Table.description (table : Table) : Option Text := table.givenDescription.join
def Table.columns (table : Table) : List Column := table.givenColumns.getD []

end Schema

structure Schema where
  tables : List Schema.Table
  deriving DecidableEq, Repr

namespace Schema

/-- The first table of this name; letter case counts. -/
def findTable (schema : Schema) (name : Text) : Option Table :=
  schema.tables.find? (·.name == name)

end Schema
end KqlCompletion
