import KqlCompletion.Proofs.Query.Source
import KqlCompletion.Proofs.Suggestion.Blocks

/-! What the lines in front of the last one have to do with its completion. The analysis does not
look at them, and of all providers only that of columns looks at more of the text than the analysis
found: it reads from the first table that is named anywhere. -/
namespace KqlCompletion

open Query (Context Position)
open Schema (Table)
open Text (lastLine)

variable {front line : Text}

namespace Query.Context

/-- Whatever stands in front of the last line, the analysis of that line is all there is. -/
theorem ofText_behind (single : .char '\n' ∉ line) (front : Text) :
    ofText (front ++ "\n" ++ line) = { ofText line with fullText := front ++ "\n" ++ line } := by
  have behind : lastLine (front ++ "\n" ++ line) = line := by
    rw [List.append_assoc]
    exact Text.lastLine_append_line _ single
  rw [ofText_eq, ofText_eq, behind, Text.lastLine_of_not_mem single]

/-- What the analysis finds in its line is not looked up in the text. -/
theorem found_withFullText (context : Context) (text : Text) :
    let other := { context with fullText := text }
    other.currentLine = context.currentLine ∧ other.currentWord = context.currentWord ∧
      other.previousWord = context.previousWord ∧ other.position = context.position ∧
      other.timeContext = context.timeContext ∧ other.atPipe = context.atPipe :=
  ⟨rfl, rfl, rfl, rfl, rfl, rfl⟩

theorem currentLine_of_single (single : .char '\n' ∉ line) : (ofText line).currentLine = line := by
  rw [ofText_eq, Text.lastLine_of_not_mem single]

end Query.Context

namespace Provider

/-- The text itself is read for its columns only. -/
theorem run_withFullText {provider : Provider} (other : provider ≠ .column) (context : Context)
    (text : Text) (schema : Option Schema) :
    provider.run { context with fullText := text } schema = provider.run context schema := by
  cases provider with
  | column => exact absurd rfl other
  | table => rfl
  | operator => rfl
  | aggregation => rfl
  | stem => rfl
  | timeRange => rfl

theorem column_mem_forPosition_iff {position : Position} : column ∈ forPosition position ↔
    position = .afterColumnKeyword ∨ position = .afterGroupingKeyword := by
  cases position <;> decide

end Provider

theorem suggestions_of_sourceTable {context : Context} {schema : Option Schema} {text : Text}
    (source : Query.sourceTable? (some text) schema =
      Query.sourceTable? (some context.fullText) schema) :
    { context with fullText := text }.suggestions schema = context.suggestions schema :=
  suggestions_congr rfl rfl rfl rfl source

theorem suggestions_withFullText {context : Context}
    (noColumns : Provider.column ∉ Provider.forPosition context.position) (text : Text)
    (schema : Option Schema) :
    { context with fullText := text }.suggestions schema = context.suggestions schema := by
  have ran : ∀ provider ∈ Provider.forPosition context.position,
      provider.run { context with fullText := text } schema = provider.run context schema := by
    intro provider listed
    refine Provider.run_withFullText ?_ context text schema
    rintro rfl
    exact noColumns listed
  rw [Context.suggestions, Context.suggestions, List.flatMap_congr ran]
  rfl

/-- The first table that is named decides, and the earlier lines come first. -/
theorem sourceTable?_behind (front line : Text) (schema : Option Schema) :
    Query.sourceTable? (some (front ++ "\n" ++ line)) schema =
      (Query.sourceTable? (some front) schema).or (Query.sourceTable? (some line) schema) := by
  cases schema with
  | none => rfl
  | some schema => exact Query.sourceTable_append front line schema

/-- Where columns are asked for, they are those of the first table that is named, in the earlier
lines if these name one. -/
theorem suggest_columns_behind (single : .char '\n' ∉ line)
    (asked : (Context.ofText line).position = .afterColumnKeyword ∨
      (Context.ofText line).position = .afterGroupingKeyword)
    (front : Text) (schema : Option Schema) :
    suggest (some (front ++ "\n" ++ line)) schema =
      ((((Query.sourceTable? (some front) schema).or
        (Query.sourceTable? (some line) schema)).elim [] Table.columns).map fun column =>
          .plain .column column.name (column.described (Context.ofText line).position)) ++
        Provider.timeRanges (Context.ofText line) := by
  have whole := Context.ofText_behind single front
  have position : (Context.ofText (front ++ "\n" ++ line)).position =
      (Context.ofText line).position := by rw [whole]
  have inside : (Context.ofText (front ++ "\n" ++ line)).position ≠ .startOfQuery := by
    rw [position]
    rcases asked with here | here <;> simp [here]
  have offered : Provider.forPosition (Context.ofText line).position = [.column] := by
    rcases asked with here | here <;> rw [here] <;> rfl
  have columns := Provider.columns_ofText schema inside
  rw [position, sourceTable?_behind] at columns
  rw [suggest_some, Context.suggestions, position, offered, ← columns, whole]
  simp only [List.flatMap_cons, List.flatMap_nil, List.append_nil, Provider.run]
  rfl

/-- Lines in front of the last one are not analysed, and of what is offered they can change the
columns only: if they name a table, these are its columns instead of those of the table that the last
line names. -/
theorem earlier_lines_decide_on_columns_only (front line : Text) (schema : Option Schema)
    (single : .char '\n' ∉ line) :
    let text := front ++ "\n" ++ line
    let whole := Context.ofText text
    let alone := Context.ofText line
    let asked := alone.position = .afterColumnKeyword ∨ alone.position = .afterGroupingKeyword
    (whole.currentLine = alone.currentLine ∧ whole.currentWord = alone.currentWord ∧
      whole.previousWord = alone.previousWord ∧ whole.position = alone.position ∧
      whole.timeContext = alone.timeContext ∧ whole.atPipe = alone.atPipe) ∧
    alone.currentLine = line ∧
    (¬ asked → suggest (some text) schema = suggest (some line) schema) ∧
    (asked → Query.sourceTable? (some front) schema = none →
      suggest (some text) schema = suggest (some line) schema) ∧
    (asked → ∀ table, Query.sourceTable? (some front) schema = some table →
      suggest (some text) schema = (table.columns.map fun column =>
        .plain .column column.name (column.described alone.position)) ++
          Provider.timeRanges alone) := by
  intro text whole alone asked
  have same : whole = { alone with fullText := text } := Context.ofText_behind single front
  have offered : suggest (some text) schema =
      { alone with fullText := text }.suggestions schema := by
    rw [suggest_some, ← same]
  refine ⟨?_, Context.currentLine_of_single single, ?_, ?_, ?_⟩
  · rw [same]
    exact Context.found_withFullText alone text
  · intro other
    rw [offered, suggest_some]
    exact suggestions_withFullText (mt Provider.column_mem_forPosition_iff.1 other) text schema
  · intro _ unnamed
    rw [offered, suggest_some]
    refine suggestions_of_sourceTable ?_
    rw [sourceTable?_behind, unnamed, Option.none_or, Context.fullText_eq]
  · intro here table named
    rw [suggest_columns_behind single here, named]
    rfl

/-- The last line names a table, but it is the line in front of a comment that the columns come
from. -/
theorem table_in_front_of_comment_is_read_from :
    let front := Text.of "Logs\r\n// Perf"
    let line := Text.of "Perf | where "
    let schema : Schema := ⟨[⟨"Perf", none, some [⟨"Cpu", some "real", none⟩]⟩,
      ⟨"Logs", none, some [⟨"Level", some "int", none⟩]⟩]⟩
    .char '\n' ∉ line ∧
      suggest (some line) (some schema) = [.plain .column "Cpu" "real"] ∧
      suggest (some (front ++ "\n" ++ line)) (some schema) = [.plain .column "Level" "int"] := by
  intro front line schema
  have single : .char '\n' ∉ line := by decide
  have position : (Context.ofText line).position = .afterColumnKeyword := by decide +kernel
  have named : Query.sourceTable? (some front) (some schema) =
      some ⟨"Logs", none, some [⟨"Level", some "int", none⟩]⟩ := by decide +kernel
  obtain ⟨-, -, -, -, columns⟩ := earlier_lines_decide_on_columns_only front line (some schema) single
  refine ⟨single, by decide +kernel, (columns (.inl position) _ named).trans ?_⟩
  rw [position]
  decide +kernel

end KqlCompletion
