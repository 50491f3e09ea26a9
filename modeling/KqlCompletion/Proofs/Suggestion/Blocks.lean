import KqlCompletion.Proofs.Query.Analysis
import KqlCompletion.Suggestion.Provider

/-! What is offered where. The position of a query decides on a first block of suggestions, and the
word being typed on the time ranges behind it. -/
namespace KqlCompletion

open Query (Context Position)
open Schema (Table Column)
open Text (words lastLine endsBlank)

variable {text : Text} {schema : Option Schema}

/-- The type of a column says enough where something is grouped by it, and where the column has no
description of its own. -/
def Schema.Column.described (position : Position) (column : Column) : Text :=
  if position = .afterGroupingKeyword ∨ column.description.getD [] = [] then column.type
  else column.type ++ " - " ++ column.description.getD []

theorem described_eq_type_iff {position : Position} {column : Column} :
    column.described position = column.type ↔
      position = .afterGroupingKeyword ∨ column.description.getD [] = [] := by
  rw [Column.described]
  split
  · next bare => simp [bare]
  · next detailed =>
    refine iff_of_false (fun same => ?_) detailed
    have lengths := congrArg List.length same
    have joint : (Text.of " - ").length = 3 := rfl
    simp only [List.length_append, joint] at lengths
    omega

namespace Provider

theorem ofColumn_eq (position : Position) (column : Column) :
    Suggestion.ofColumn (position != .afterGroupingKeyword) column =
      .plain .column column.name (column.described position) := by
  rw [Suggestion.ofColumn, Column.described]
  by_cases grouping : position = .afterGroupingKeyword
  · cases column.description <;> simp [grouping]
  · cases described : column.description with
    | none => simp
    | some own => by_cases empty : own = [] <;> simp [grouping, empty]

theorem timeRanges_ofText (text : Text) : timeRanges (Context.ofText text) =
    if Text.of "ago" <:+: (Context.ofText text).currentWord ∨
        Text.of "between" <:+: (Context.ofText text).currentWord then
      Catalog.timeRanges.map Suggestion.ofTimeRange
    else [] := by
  simp only [timeRanges, Context.timeContext_eq, Query.isTimeWord_iff]

theorem timeRanges_of_startOfQuery (start : (Context.ofText text).position = .startOfQuery) :
    timeRanges (Context.ofText text) = [] := by
  have untimely : ∀ word ∈ [Query.pipe, []], Query.isTimeWord word = false := by decide
  have typed : (Context.ofText text).currentWord ∈ [Query.pipe, []] := by
    simpa using Context.currentWord_of_startOfQuery start
  rw [timeRanges, Context.timeContext_eq, untimely _ typed]
  rfl

theorem tables_ofText (text : Text) (schema : Option Schema) :
    tables (Context.ofText text) schema =
      if (words (lastLine text)).getLast? = some Query.pipe ∧ endsBlank (lastLine text) then []
      else (schema.elim [] Schema.tables).map Suggestion.ofTable := by
  have finished :
      ((Context.ofText text).atPipe && (Context.ofText text).currentWord.isEmpty) = true ↔
      (words (lastLine text)).getLast? = some Query.pipe ∧ endsBlank (lastLine text) := by
    rw [Bool.and_eq_true, Context.atPipe_iff, List.isEmpty_iff, Context.currentWord_eq_nil_iff]
    refine and_congr_right fun atPipe => or_iff_left fun nothing => ?_
    simp [nothing] at atPipe
  simp only [tables, finished]

theorem operators_ofText (text : Text) : operators (Context.ofText text) =
    if (words (lastLine text)).getLast? = some Query.pipe then
      Catalog.operators.map Suggestion.ofOperator
    else [] := by
  simp only [operators, Context.atPipe_iff]

/-- Behind a keyword the position tells whether it is one of grouping. -/
theorem grouping_ofText (behind : (Context.ofText text).position ≠ .startOfQuery) :
    (!Query.groupingKeywords.contains (Text.lower (Context.ofText text).previousWord)) =
      ((Context.ofText text).position != .afterGroupingKeyword) := by
  rw [Context.position_eq] at behind ⊢
  split at behind
  · exact absurd rfl behind
  · next inside =>
    rw [if_neg inside, Bool.eq_iff_iff, bne_iff_ne, ne_eq,
      Query.afterWord_eq_afterGroupingKeyword_iff]
    simp

theorem columns_ofText (schema : Option Schema)
    (behind : (Context.ofText text).position ≠ .startOfQuery) :
    columns (Context.ofText text) schema =
      ((Query.sourceTable? (some text) schema).elim [] Table.columns).map fun column =>
        .plain .column column.name (column.described (Context.ofText text).position) := by
  rw [columns, grouping_ofText behind, Context.fullText_eq]
  cases Query.sourceTable? (some text) schema with
  | none => rfl
  | some source => simp [ofColumn_eq]

theorem stems_eq (context : Context) (schema : Option Schema) :
    let stem := (Text.lower context.currentWord)
    let fits (name : Text) : Bool := stem <+: (Text.lower name)
    stems context schema =
      (Catalog.keywords.filter fits).map Suggestion.ofKeyword ++
        (Catalog.functions.filter fits).map (Suggestion.ofFunction "KQL function") ++
        ((schema.elim [] Schema.tables).filter fun table => fits table.name).map
          Suggestion.ofTable := by
  intro stem fits
  have lowercase : ∀ keyword ∈ Catalog.keywords, Text.lower keyword = keyword := by decide +kernel
  have fits_eq (name : Text) : startsWith (Text.lower context.currentWord) name = fits name := by
    rw [Bool.eq_iff_iff, decide_eq_true_iff]
    exact List.isPrefixOf_iff_prefix
  have keywords : (Catalog.keywords.filter fun keyword =>
      (Text.lower context.currentWord).isPrefixOf keyword) =
        Catalog.keywords.filter fits := by
    refine List.filter_congr fun keyword member => ?_
    rw [← fits_eq, startsWith, lowercase keyword member]
  have functions : Catalog.functions.filter (startsWith (Text.lower context.currentWord)) =
      Catalog.functions.filter fits := List.filter_congr fun name _ => fits_eq name
  simp only [stems, keywords, functions, fits_eq]

end Provider

theorem suggest_some (text : Text) (schema : Option Schema) :
    suggest (some text) schema = (Context.ofText text).suggestions schema := by
  rw [suggest, Context.of?, Option.elim_some]

/-- Of the text itself only its source counts, and of its last line only what the analysis found. -/
theorem suggestions_congr {first second : Context}
    (current : first.currentWord = second.currentWord)
    (previous : first.previousWord = second.previousWord)
    (position : first.position = second.position) (timely : first.timeContext = second.timeContext)
    (source : Query.sourceTable? (some first.fullText) schema =
      Query.sourceTable? (some second.fullText) schema) :
    first.suggestions schema = second.suggestions schema := by
  have pipe : first.atPipe = second.atPipe := by
    rw [Context.atPipe, Context.atPipe, current, previous]
  have ran (provider : Provider) : provider.run first schema = provider.run second schema := by
    cases provider <;>
      simp only [Provider.run, Provider.tables, Provider.operators, Provider.columns,
        Provider.stems, Provider.timeRanges, pipe, current, previous, timely, source]
  have behind : Provider.timeRanges first = Provider.timeRanges second := ran .timeRange
  simp only [Context.suggestions, position, behind, ran]

/-- What is offered for a text is a block that its position decides on, and behind it the time ranges
if the word being typed looks like one. -/
theorem suggest_in_blocks (text : Text) (schema : Option Schema) :
    let context := Context.ofText text
    let line := lastLine text
    let atPipe := (words line).getLast? = some Query.pipe
    let tables := schema.elim [] Schema.tables
    let columns := (Query.sourceTable? (some text) schema).elim [] Table.columns
    let fits (name : Text) : Bool :=
      (Text.lower context.currentWord) <+: (Text.lower name)
    ∃ primary overlay, suggest (some text) schema = primary ++ overlay ∧
      (overlay = if Text.of "ago" <:+: context.currentWord ∨
          Text.of "between" <:+: context.currentWord then
        Catalog.timeRanges.map .ofTimeRange else []) ∧
      (context.position = .startOfQuery → overlay = []) ∧
      (context.atPipe = true ↔ atPipe) ∧
      (context.position = .startOfQuery → primary =
        (if atPipe ∧ endsBlank line then [] else tables.map .ofTable) ++
          if atPipe then Catalog.operators.map .ofOperator else []) ∧
      (context.position = .afterColumnKeyword ∨ context.position = .afterGroupingKeyword →
        primary = columns.map fun column =>
          .plain .column column.name (column.described context.position)) ∧
      (∀ column : Column, column.described context.position = column.type ↔
        context.position = .afterGroupingKeyword ∨ column.description.getD [] = []) ∧
      (context.position = .afterSummarize → primary =
        Catalog.aggregations.map (.ofFunction "Aggregation function")) ∧
      (context.position = .generalToken → primary =
        (Catalog.keywords.filter fits).map .ofKeyword ++
          (Catalog.functions.filter fits).map (.ofFunction "KQL function") ++
          (tables.filter fun table => fits table.name).map .ofTable) := by
  intro context line atPipe tables columns fits
  refine ⟨(Provider.forPosition context.position).flatMap (·.run context schema),
    Provider.timeRanges context, ?_, Provider.timeRanges_ofText text,
    Provider.timeRanges_of_startOfQuery, Context.atPipe_iff, ?_, ?_,
    fun _ => described_eq_type_iff, ?_, ?_⟩
  · rw [suggest_some, Context.suggestions]
  · intro start
    rw [start]
    simp only [Provider.forPosition, List.flatMap_cons, List.flatMap_nil, List.append_nil,
      Provider.run]
    rw [Provider.tables_ofText, Provider.operators_ofText]
  · intro behind
    have inside : context.position ≠ .startOfQuery := by
      rcases behind with here | here <;> simp [here]
    refine Eq.trans ?_ (Provider.columns_ofText schema inside)
    rcases behind with here | here <;> rw [here] <;> exact List.append_nil _
  · intro summarize
    rw [summarize]
    simp [Provider.forPosition, Provider.run, Provider.aggregations]
  · intro general
    rw [general]
    simp only [Provider.forPosition, List.flatMap_cons, List.flatMap_nil, List.append_nil,
      Provider.run]
    exact Provider.stems_eq context schema

end KqlCompletion
