import KqlCompletion.Proofs.Query.Analysis

/-! The position of a query, told by the words of its last line. Only one word counts, the one in
front of what is being typed: the last word if the line ends with a blank, else the last but one. -/
namespace KqlCompletion.Query

open Text (words lastLine endsBlank)

variable {line text : Text}

/-- The word in front of the one being typed, empty if there is none. -/
def wordBefore (line : Text) : Text :=
  if endsBlank line then (words line).getLastD [] else (words line).dropLast.getLastD []

theorem snd_lastWords (line : Text) :
    (Context.lastWords line).2 = (wordBefore line) := by
  have last (items : List Text) : items.reverse.headD [] = items.getLastD [] := by
    rw [List.headD_eq_head?_getD, List.head?_reverse, List.getLastD_eq_getLast?]
  rw [lastWords_eq, recentWords, wordBefore]
  split
  · simp only [List.singleton_append, List.tail_cons, last]
  · simp only [List.nil_append, List.tail_reverse, last]

/-- Each position but the start is that behind keywords of one kind, or behind no keyword. -/
theorem afterWord_spec (word : Text) :
    let keyword := Text.lower word
    (Position.afterWord word = .afterColumnKeyword ↔ keyword ∈ columnKeywords) ∧
    (Position.afterWord word = .afterGroupingKeyword ↔ keyword ∈ groupingKeywords) ∧
    (Position.afterWord word = .afterSummarize ↔ keyword = summarizeKeyword) ∧
    (Position.afterWord word = .generalToken ↔
      keyword ∉ columnKeywords ++ groupingKeywords ++ [summarizeKeyword]) := by
  have apart : summarizeKeyword ∉ columnKeywords ∧ summarizeKeyword ∉ groupingKeywords := by decide
  intro keyword
  have position : Position.afterWord word =
      if keyword ∈ columnKeywords then .afterColumnKeyword
      else if keyword ∈ groupingKeywords then .afterGroupingKeyword
      else if keyword = summarizeKeyword then .afterSummarize else .generalToken := by
    simp only [Position.afterWord, List.contains_iff_mem, beq_iff_eq]
    rfl
  refine ⟨?_, afterWord_eq_afterGroupingKeyword_iff, ?_, ?_⟩
  · rw [position]
    by_cases column : keyword ∈ columnKeywords
    · simp [column]
    · simp only [column, if_false, iff_false]
      split_ifs <;> simp
  · rw [position]
    by_cases summarize : keyword = summarizeKeyword
    · simp [summarize, apart]
    · simp only [summarize, if_false, iff_false]
      split_ifs <;> simp
  · rw [position, List.mem_append, List.mem_append, List.mem_singleton]
    split_ifs with column grouping summarize <;> simp [*]

namespace Context

/-- A query starts where the last line has no word or ends in a pipe. Anywhere else the position is
that behind the word in front of what is being typed. -/
theorem position_by_words (text : Text) :
    let line := text.rtakeWhile (· != .char '\n')
    let words := (line.splitOnP Text.isBlank).filter (!·.isEmpty)
    let starts := words = [] ∨ words.getLast? = some pipe
    let before := if endsBlank line then words.getLastD [] else words.dropLast.getLastD []
    let keyword := Text.lower before
    let context := ofText text
    (context.position = .startOfQuery ↔ starts) ∧
    (context.position = .afterColumnKeyword ↔
      ¬ starts ∧ keyword ∈ (["where", "extend", "project"] : List Text)) ∧
    (context.position = .afterGroupingKeyword ↔ ¬ starts ∧ keyword ∈ (["by", "on"] : List Text)) ∧
    (context.position = .afterSummarize ↔ ¬ starts ∧ keyword = "summarize") ∧
    (context.position = .generalToken ↔
      ¬ starts ∧ keyword ∉ (["where", "extend", "project", "by", "on", "summarize"] : List Text)) ∧
    (context.atPipe = true ↔ words.getLast? = some pipe) := by
  intro line words starts before keyword context
  have sameLine : lastLine text = line := Text.lastLine_eq_rtakeWhile _
  have sameWords : Text.words line = words := Text.words_eq_filter_splitOnP _
  have atPipe : context.atPipe = true ↔ words.getLast? = some pipe := by
    rw [atPipe_iff, sameLine, sameWords]
  have previous : context.previousWord = before := by
    rw [previousWord_eq, snd_lastWords, sameLine, wordBefore, sameWords]
  have starting : (Text.words (lastLine text) = [] ∨ context.atPipe) ↔ starts := by
    rw [sameLine, sameWords, atPipe]
  by_cases start : starts
  · have position : context.position = .startOfQuery := by
      rw [position_eq, if_pos (starting.2 start)]
    simp [position, start, atPipe]
  · have position : context.position = .afterWord before := by
      rw [position_eq, if_neg (mt starting.1 start), previous]
    obtain ⟨column, grouping, summarize, general⟩ := afterWord_spec before
    rw [position]
    simp only [start, not_false_eq_true, true_and]
    exact ⟨iff_of_false (afterWord_ne_startOfQuery _) id, column, grouping, summarize, general,
      atPipe⟩

end Context
end KqlCompletion.Query
