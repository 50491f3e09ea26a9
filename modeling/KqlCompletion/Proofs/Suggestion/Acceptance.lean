import KqlCompletion.Proofs.Query.Continuation
import KqlCompletion.Proofs.Query.Source
import KqlCompletion.Proofs.Suggestion.Blocks

/-! What comes of a suggestion that is accepted. The name of a table is inserted as it is and read
again as the first word of a line, so a table is found again unless its name cannot be read as such a
word or belongs to another table in front of it. An operator is inserted between blanks, so it does
not run into the pipe in front of it, and the query goes on behind it. -/
namespace KqlCompletion

open Query (Context IsNameable)
open Schema (Table Column)
open Text (lastLine)

variable {text : Text} {schema : Option Schema}

/-- Behind a keyword that asks for columns nothing but columns is offered in the first place. -/
theorem suggest_behind_columnKeyword (behind : (Context.ofText text).position = .afterColumnKeyword)
    (schema : Option Schema) : suggest (some text) schema =
      (((Query.sourceTable? (some text) schema).elim [] Table.columns).map fun column =>
        .plain .column column.name (column.described .afterColumnKeyword)) ++
        Provider.timeRanges (Context.ofText text) := by
  have inside : (Context.ofText text).position ≠ .startOfQuery := by simp [behind]
  have columns := Provider.columns_ofText schema inside
  rw [behind] at columns
  rw [suggest_some, Context.suggestions, behind, ← columns]
  simp only [Provider.forPosition, List.flatMap_cons, List.flatMap_nil, List.append_nil,
    Provider.run]

namespace Suggestion

/-- A query on what is accepted, up to where its first filter asks for a column. -/
def filterBegun (accepted : Suggestion) : Text := accepted.insertText ++ "\n| where "

section filterBegun

variable {accepted : Suggestion}

theorem lastLine_filterBegun : lastLine accepted.filterBegun = "| where " := by
  have noFeed : .char '\n' ∉ Text.of "| where " := by decide
  rw [filterBegun]
  exact Text.lastLine_append_line _ noFeed

theorem position_filterBegun :
    (Context.ofText accepted.filterBegun).position = .afterColumnKeyword := by
  rw [Context.ofText_eq, lastLine_filterBegun]
  dsimp only
  decide +kernel

/-- The word being typed is empty, so it cannot look like a time range. -/
theorem timeRanges_filterBegun :
    Provider.timeRanges (Context.ofText accepted.filterBegun) = [] := by
  have untimely : (Context.ofText accepted.filterBegun).timeContext = false := by
    rw [Context.ofText_eq, lastLine_filterBegun]
    dsimp only
    decide +kernel
  rw [Provider.timeRanges, untimely]
  rfl

theorem sourceTable_filterBegun (schema : Schema) :
    Query.sourceTable accepted.filterBegun schema =
      Query.sourceTable accepted.insertText schema := by
  have lines : accepted.filterBegun = accepted.insertText ++ "\n" ++ "| where " := by
    rw [filterBegun, List.append_assoc]
    rfl
  have none : Query.sourceTable "| where " schema = none := by
    have unnamed : Query.sourceWord? "| where " = none := by decide
    have single : Text.lines "| where " = [Text.of "| where "] := by decide
    rw [Query.sourceTable, single, List.findSome?_singleton, Query.lineTable?, unnamed]
    rfl
  rw [lines, Query.sourceTable_append, none, Option.or_none]

end filterBegun

/-- A table whose suggestion is accepted is read from exactly if its name can be the first word of a
line and no other table of this name comes first. Then a filter on it is offered the columns of this
table and nothing else. -/
theorem accepted_table_is_read_from (schema : Schema) (table : Table) :
    let text := (ofTable table).filterBegun
    let resolves := IsNameable table.name ∧ schema.IsFirst table
    (Query.sourceTable? (some text) (some schema) = some table ↔ resolves) ∧
    (resolves → suggest (some text) (some schema) = table.columns.map fun column =>
      .plain .column column.name (column.described .afterColumnKeyword)) := by
  intro text resolves
  have found : Query.sourceTable? (some text) (some schema) = some table ↔ resolves := by
    show Query.sourceTable (ofTable table).filterBegun schema = some table ↔ _
    rw [sourceTable_filterBegun]
    exact Query.sourceTable_name_iff
  refine ⟨found, fun resolved => ?_⟩
  rw [suggest_behind_columnKeyword position_filterBegun, found.2 resolved, timeRanges_filterBegun,
    Option.elim_some, List.append_nil]

/-- Two tables of one name: the first is read from, and its columns are offered. -/
theorem first_table_of_a_name_is_read_from :
    let table : Table := ⟨"Logs", none, some [⟨"Level", some "int", none⟩]⟩
    let schema : Schema := ⟨[⟨"Perf", none, none⟩, table, ⟨"Logs", none, none⟩]⟩
    (IsNameable table.name ∧ schema.IsFirst table) ∧
      suggest (some "Logs\n| where ") (some schema) = [.plain .column "Level" "int"] := by
  intro table schema
  have solid : (Text.of "Logs").all (!Text.isBlank ·) = true := by decide
  rw [List.all_eq_true] at solid
  have nameable : IsNameable table.name :=
    ⟨by decide, fun c member => by simpa using solid c member, by decide, by decide⟩
  have isFirst : schema.IsFirst table :=
    ⟨[⟨"Perf", none, none⟩], [⟨"Logs", none, none⟩], rfl, by decide⟩
  exact ⟨⟨nameable, isFirst⟩, (accepted_table_is_read_from schema table).2 ⟨nameable, isFirst⟩⟩

/-! ### Operators -/

section operator

variable {accepted : Suggestion}

/-- Behind a pipe operators are the only keywords offered. -/
theorem operator_of_mem_suggest (atPipe : (Context.ofText text).atPipe = true)
    (offered : accepted ∈ suggest (some text) schema) (keyword : accepted.kind = .keyword) :
    ∃ operator ∈ Catalog.operators, accepted = ofOperator operator := by
  have start : (Context.ofText text).position = .startOfQuery := by
    rw [Context.position_eq, if_pos (.inr atPipe)]
  rw [suggest_some, Context.suggestions, start, Provider.timeRanges_of_startOfQuery start,
    List.append_nil] at offered
  simp only [Provider.forPosition, List.flatMap_cons, List.flatMap_nil, List.append_nil,
    List.mem_append, Provider.run] at offered
  rcases offered with fromTables | fromOperators
  · rw [Provider.tables] at fromTables
    split at fromTables
    · cases fromTables
    · obtain ⟨table, -, rfl⟩ := List.mem_map.1 fromTables
      cases keyword
  · rw [Provider.operators, if_pos atPipe] at fromOperators
    obtain ⟨operator, listed, rfl⟩ := List.mem_map.1 fromOperators
    exact ⟨operator, listed, rfl⟩

theorem solid_of_operator {operator : Text} (listed : operator ∈ Catalog.operators) :
    (∀ c ∈ operator, Text.isBlank c = false) ∧ operator ≠ [] ∧ operator ≠ Query.pipe := by
  have all : ∀ operator ∈ Catalog.operators,
      operator.all (!Text.isBlank ·) = true ∧ operator ≠ [] ∧ operator ≠ Query.pipe := by
    decide
  obtain ⟨solid, apart⟩ := all operator listed
  exact ⟨by simpa using solid, apart⟩

theorem afterWord_of_operator : ∀ operator ∈ Catalog.operators,
    Query.Position.afterWord operator =
      if operator ∈ (["where", "project", "extend"] : List Text) then .afterColumnKeyword
      else if operator = "summarize" then .afterSummarize else .generalToken := by
  decide +kernel

/-- An operator that is accepted behind a pipe becomes the word in front of the caret, and nothing is
typed behind it yet. The query reads from the same table as before, and behind `where`, `project` and
`extend` it is offered the columns of this table and nothing else. -/
theorem accepted_operator_opens_its_slot (text : Text) (schema : Option Schema)
    (accepted : Suggestion) (atPipe : (Context.ofText text).atPipe = true)
    (offered : accepted ∈ suggest (some text) schema) (keyword : accepted.kind = .keyword) :
    let query := text ++ accepted.insertText
    let context := Context.ofText query
    let asking : List Text := ["where", "project", "extend"]
    let others : List Text := ["summarize", "take", "sort", "join", "union"]
    accepted.value ∈ asking ++ others ∧
    context.previousWord = accepted.value ∧ context.currentWord = [] ∧
    Query.sourceTable? (some query) schema = Query.sourceTable? (some text) schema ∧
    (context.position =
      if accepted.value ∈ asking then .afterColumnKeyword
      else if accepted.value = "summarize" then .afterSummarize else .generalToken) ∧
    (accepted.value ∈ asking → suggest (some query) schema =
      ((Query.sourceTable? (some text) schema).elim [] Table.columns).map fun column =>
        .plain .column column.name (column.described .afterColumnKeyword)) := by
  intro query context asking others
  obtain ⟨operator, listed, rfl⟩ := operator_of_mem_suggest atPipe offered keyword
  obtain ⟨solid, nonempty, noPipe⟩ := solid_of_operator listed
  have worded : Text.words (lastLine text) ≠ [] := by
    intro blank
    rw [Context.atPipe_iff, blank] at atPipe
    cases atPipe
  have current : context.currentWord = [] :=
    Context.currentWord_append_finished solid nonempty text
  have previous : context.previousWord = operator :=
    Context.previousWord_append_finished solid nonempty text
  have position : context.position = _ :=
    (Context.position_append_finished solid nonempty noPipe text).trans
      (afterWord_of_operator operator listed)
  have source : Query.sourceTable? (some query) schema = Query.sourceTable? (some text) schema :=
    Context.sourceTable?_append_finished solid nonempty worded schema
  refine ⟨listed, previous, current, source, position, fun column => ?_⟩
  have behind : context.position = .afterColumnKeyword := position.trans (if_pos column)
  have untimely : Provider.timeRanges context = [] := by
    have plain : Query.isTimeWord [] = false := by decide
    rw [Provider.timeRanges, Context.timeContext_eq, current, plain]
    rfl
  rw [suggest_behind_columnKeyword behind, source, untimely, List.append_nil]

/-- A pipe right behind a table, and behind it the first operator. -/
theorem where_behind_pipe_is_offered_columns :
    let text := "Logs |"
    let schema : Schema := ⟨[⟨"Logs", none, some [⟨"Level", some "int", none⟩]⟩]⟩
    let accepted := ofOperator "where"
    ((Context.ofText text).atPipe = true ∧ accepted ∈ suggest (some text) (some schema) ∧
      accepted.kind = .keyword) ∧
    suggest (some (text ++ accepted.insertText)) (some schema) = [.plain .column "Level" "int"] := by
  intro text schema accepted
  have atPipe : (Context.ofText text).atPipe = true := by decide
  have offered : accepted ∈ suggest (some text) (some schema) := by decide +kernel
  have slot := accepted_operator_opens_its_slot text (some schema) accepted atPipe offered rfl
  refine ⟨⟨atPipe, offered, rfl⟩, (slot.2.2.2.2.2 (by decide)).trans ?_⟩
  decide +kernel

end operator

end Suggestion
end KqlCompletion
