import KqlCompletion.Proofs.Query.Continuation
import KqlCompletion.Proofs.Suggestion.Blocks

/-! Typing behind a keyword. The word being typed there does not decide what is offered, so more of it
changes nothing but the time ranges that come on top. -/
namespace KqlCompletion

open Query (Context Position)

variable {first second : Context} {schema : Option Schema}

/-- Where columns or aggregations are offered, the word being typed is not looked at. -/
theorem Provider.flatMap_run_congr
    (behind : first.position ∈
      [Position.afterColumnKeyword, .afterGroupingKeyword, .afterSummarize])
    (previous : second.previousWord = first.previousWord)
    (source : Query.sourceTable? (some second.fullText) schema =
      Query.sourceTable? (some first.fullText) schema) :
    (forPosition first.position).flatMap (·.run second schema) =
      (forPosition first.position).flatMap (·.run first schema) := by
  have same : columns second schema = columns first schema := by
    rw [columns, columns, previous, source]
  simp only [List.mem_cons, List.not_mem_nil, or_false] at behind
  rcases behind with here | here | here <;>
    simp only [here, forPosition, List.flatMap_cons, List.flatMap_nil, run, same]

/-- Behind a keyword more of a word leaves the query where it was: at the same position, behind the
same word and reading from the same table. It is offered the same, but for the time ranges, which are
there exactly if the whole word looks like one. -/
theorem typing_on_keeps_slot (text word : Text) (schema : Option Schema)
    (behind : (Context.ofText text).position ∈
      [Position.afterColumnKeyword, .afterGroupingKeyword, .afterSummarize])
    (solid : ∀ c ∈ word, Text.isBlank c = false)
    (noPipe : (Context.ofText (text ++ word)).currentWord ≠ Query.pipe) :
    let before := Context.ofText text
    let typed := Context.ofText (text ++ word)
    let timeRanges (word : Text) : List Suggestion :=
      if Text.of "ago" <:+: word ∨ Text.of "between" <:+: word then
        Catalog.timeRanges.map .ofTimeRange
      else []
    typed.position = before.position ∧
    typed.currentWord = before.currentWord ++ word ∧
    typed.previousWord = before.previousWord ∧
    Query.sourceTable? (some (text ++ word)) schema = Query.sourceTable? (some text) schema ∧
    ∃ primary, suggest (some text) schema = primary ++ timeRanges before.currentWord ∧
      suggest (some (text ++ word)) schema = primary ++ timeRanges typed.currentWord := by
  intro before typed timeRanges
  have started : before.position ≠ .startOfQuery := by
    intro start
    simp [before, start] at behind
  have keyword : before.position ≠ .generalToken := by
    intro general
    simp [before, general] at behind
  have position : typed.position = before.position :=
    Context.position_append solid started noPipe
  have previous : typed.previousWord = before.previousWord :=
    Context.previousWord_append solid text
  have source : Query.sourceTable? (some (text ++ word)) schema =
      Query.sourceTable? (some text) schema :=
    Context.sourceTable?_append_word solid (Context.previousWord_ne_nil started keyword) schema
  have block : (Provider.forPosition before.position).flatMap (·.run typed schema) =
      (Provider.forPosition before.position).flatMap (·.run before schema) := by
    refine Provider.flatMap_run_congr behind previous ?_
    rw [Context.fullText_eq, Context.fullText_eq, source]
  refine ⟨position, Context.currentWord_append solid text, previous, source,
    (Provider.forPosition before.position).flatMap (·.run before schema), ?_, ?_⟩
  · rw [suggest_some, Context.suggestions, Provider.timeRanges_ofText]
  · rw [suggest_some, Context.suggestions, Provider.timeRanges_ofText, ← block, ← position]

/-- A comparison with a column of a table, and behind its sign a time range that is begun. -/
theorem ago_typed_on_adds_timeRanges :
    let text := Text.of "Logs\n| where Time>"
    let schema : Schema := ⟨[⟨"Logs", none, some [⟨"Time", some "datetime", none⟩]⟩]⟩
    ((Context.ofText text).position ∈
        [Position.afterColumnKeyword, .afterGroupingKeyword, .afterSummarize] ∧
      (∀ c ∈ Text.of "ago", Text.isBlank c = false) ∧
      (Context.ofText (text ++ "ago")).currentWord ≠ Query.pipe) ∧
    ∃ primary, suggest (some text) (some schema) = primary ++ [] ∧
      suggest (some (text ++ "ago")) (some schema) =
        primary ++ Catalog.timeRanges.map .ofTimeRange := by
  intro text schema
  have behind : (Context.ofText text).position ∈
      [Position.afterColumnKeyword, .afterGroupingKeyword, .afterSummarize] := by decide +kernel
  have solid : ∀ c ∈ Text.of "ago", Text.isBlank c = false := by
    have all : (Text.of "ago").all (!Text.isBlank ·) = true := by decide
    simpa using all
  have noPipe : (Context.ofText (text ++ "ago")).currentWord ≠ Query.pipe := by decide +kernel
  have word : (Context.ofText text).currentWord = "Time>" := by decide +kernel
  have whole : (Context.ofText (text ++ "ago")).currentWord = "Time>ago" := by decide +kernel
  obtain ⟨-, -, -, -, primary, before, typed⟩ :=
    typing_on_keeps_slot text "ago" (some schema) behind solid noPipe
  beta_reduce at before typed
  rw [word, if_neg (by decide)] at before
  rw [whole, if_pos (by decide)] at typed
  exact ⟨⟨behind, solid, noPipe⟩, primary, before, typed⟩

end KqlCompletion
