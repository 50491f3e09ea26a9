import KqlCompletion.Query.Context
import KqlCompletion.Query.Source
import KqlCompletion.Suggestion.Basic
import KqlCompletion.Suggestion.Catalog

/-! Providers turn a context and the schema held, if any, into suggestions of one kind of slot. The
position of the context selects a provider; time ranges come on top of any. Nothing is sorted or
made unique: catalogs and schemas keep their order. -/
namespace KqlCompletion

open Query (Context Position)
open Schema (Table Column)

namespace Suggestion

def ofTable (table : Table) : Suggestion :=
  .plain .table table.name (table.description.getD [])

def ofOperator (operator : Text) : Suggestion :=
  .plain .keyword operator ("KQL " ++ operator ++ " operator") (" " ++ operator ++ " ")

/-- A detailed description adds the column's own one, unless that is empty, to its type. -/
def ofColumn (detailed : Bool) (column : Column) : Suggestion :=
  let description :=
    match column.description with
    | some text => if detailed && !text.isEmpty then column.type ++ " - " ++ text else column.type
    | none => column.type
  .plain .column column.name description

def ofFunction (description function : Text) : Suggestion :=
  .plain .function function description (placeCaret function)

def ofKeyword (keyword : Text) : Suggestion := .plain .keyword keyword "KQL keyword"

def ofTimeRange (range : Text) : Suggestion := .plain .timeRange range "Time range"

end Suggestion

inductive Provider where
  | table
  | operator
  | column
  | aggregation
  | stem
  | timeRange
  deriving DecidableEq, Repr

namespace Provider

/-- Every table where a query may start. Behind a finished pipe only an operator fits. -/
def tables (context : Context) (schema : Option Schema) : List Suggestion :=
  if context.atPipe && context.currentWord.isEmpty then []
  else (schema.elim [] Schema.tables).map Suggestion.ofTable

def operators (context : Context) : List Suggestion :=
  if context.atPipe then Catalog.operators.map Suggestion.ofOperator else []

/-- Columns of the table the query reads from. Behind a grouping keyword they show their types
only. -/
def columns (context : Context) (schema : Option Schema) : List Suggestion :=
  let detailed := !Query.groupingKeywords.contains (Text.lower context.previousWord)
  match Query.sourceTable? (some context.fullText) schema with
  | none => []
  | some source => source.columns.map (Suggestion.ofColumn detailed)

def aggregations : List Suggestion :=
  Catalog.aggregations.map (Suggestion.ofFunction "Aggregation function")

/-- Letter case does not count. -/
def startsWith (stem word : Text) : Bool := stem.isPrefixOf (Text.lower word)

/-- Keywords, then functions, then tables that start with the word being typed. -/
def stems (context : Context) (schema : Option Schema) : List Suggestion :=
  let stem := Text.lower context.currentWord
  (Catalog.keywords.filter stem.isPrefixOf).map Suggestion.ofKeyword ++
    (Catalog.functions.filter (startsWith stem)).map (Suggestion.ofFunction "KQL function") ++
    ((schema.elim [] Schema.tables).filter fun table => startsWith stem table.name).map
      Suggestion.ofTable

def timeRanges (context : Context) : List Suggestion :=
  if context.timeContext then Catalog.timeRanges.map Suggestion.ofTimeRange else []

def run (provider : Provider) (context : Context) (schema : Option Schema) : List Suggestion :=
  match provider with
  | table => tables context schema
  | operator => operators context
  | column => columns context schema
  | aggregation => aggregations
  | stem => stems context schema
  | timeRange => timeRanges context

def forPosition : Position → List Provider
  | .startOfQuery => [table, operator]
  | .afterColumnKeyword | .afterGroupingKeyword => [column]
  | .afterSummarize => [aggregation]
  | .generalToken => [stem]

end Provider

/-- The completion of a query: what its position offers, then time ranges if they fit. -/
def Query.Context.suggestions (context : Context) (schema : Option Schema) : List Suggestion :=
  (Provider.forPosition context.position).flatMap (·.run context schema) ++
    Provider.timeRanges context

def suggest (text : Option Text) (schema : Option Schema) : List Suggestion :=
  (Context.of? text).suggestions schema

end KqlCompletion
