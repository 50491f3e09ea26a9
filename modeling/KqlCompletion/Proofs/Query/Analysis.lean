import KqlCompletion.Proofs.Text.Words
import KqlCompletion.Query.Context
import KqlCompletion.Query.Source

/-! What the analysis of a query knows of its lines: their words, and of the last line also whether
it ends with a blank. -/
namespace KqlCompletion.Query

open Text (words pieces lastLine endsBlank)

variable {line text : Text}

theorem isBlankLine_iff : isBlankLine line = true ↔ words line = [] := by
  simp [isBlankLine, Text.strip_eq_nil_iff]

/-- The words of a line, latest first. Behind a blank one more word is being typed, still empty. -/
def recentWords (line : Text) : List Text :=
  (if endsBlank line then [[]] else []) ++ (words line).reverse

theorem lastWords_eq (line : Text) : Context.lastWords line =
    ((recentWords line).headD [], (recentWords line).tail.headD []) := by
  obtain ⟨first, whole, empty⟩ : ∃ first : List Text,
      (pieces line).reverse = recentWords line ++ first ∧ (first = [] ∨ first = [[]]) := by
    rw [Text.pieces_eq, recentWords]
    refine ⟨if line = [] ∨ Text.startsBlank line then [[]] else [], ?_, ?_⟩
    · simp only [List.reverse_append, ← List.append_assoc]
      congr 1
      · congr 1
        split <;> rfl
      · split <;> rfl
    · split <;> simp
  rw [Context.lastWords, whole]
  rcases recentWords line with _ | ⟨word, _ | ⟨previous, others⟩⟩ <;>
    rcases empty with rfl | rfl <;> rfl

/-- A pipe is the last word, whether more is to come behind it or not. -/
theorem isAtPipe_iff : isAtPipe (Context.lastWords line).1 (Context.lastWords line).2 = true ↔
    (words line).getLast? = some pipe := by
  have solid : ∀ word ∈ (words line).reverse, word ≠ [] := fun word member =>
    Text.ne_nil_of_mem_words (List.mem_reverse.1 member)
  have nonempty : pipe ≠ [] := by decide
  rw [lastWords_eq, isAtPipe, recentWords, ← List.head?_reverse]
  simp only [Bool.or_eq_true, Bool.and_eq_true, beq_iff_eq, List.isEmpty_iff]
  rcases reversed : (words line).reverse with _ | ⟨word, others⟩
  · split <;> simp [nonempty.symm]
  · have some := solid word (by simp [reversed])
    split <;> simp [some, nonempty.symm]

theorem fst_lastWords_eq_nil_iff : (Context.lastWords line).1 = [] ↔
    endsBlank line = true ∨ words line = [] := by
  have solid : ∀ word ∈ (words line).reverse, word ≠ [] := fun word member =>
    Text.ne_nil_of_mem_words (List.mem_reverse.1 member)
  rw [lastWords_eq, recentWords]
  by_cases blank : endsBlank line = true
  · simp [blank]
  · rcases reversed : (words line).reverse with _ | ⟨word, others⟩
    · simp_all
    · have some := solid word (by simp [reversed])
      have nonempty : words line ≠ [] := by
        intro nothing
        simp [nothing] at reversed
      simp [blank, some, nonempty]

/-! ### Positions -/

theorem afterWord_ne_startOfQuery (word : Text) : Position.afterWord word ≠ .startOfQuery := by
  rw [Position.afterWord]
  split
  · simp
  · split
    · simp
    · split <;> simp

/-- No keyword is of both kinds, so the position tells which it is. -/
theorem afterWord_eq_afterGroupingKeyword_iff {word : Text} :
    Position.afterWord word = .afterGroupingKeyword ↔ Text.lower word ∈ groupingKeywords := by
  have apart : ∀ keyword ∈ columnKeywords, keyword ∉ groupingKeywords := by decide
  simp only [Position.afterWord, List.contains_iff_mem]
  split
  · next column => simp [apart _ column]
  · split
    · next grouping => simp [grouping]
    · next neither => split <;> simp [neither]

namespace Context

theorem ofText_eq (text : Text) : ofText text =
    let line := lastLine text
    ⟨text, line, (lastWords line).1, (lastWords line).2,
      classify line (lastWords line).1 (lastWords line).2,
      isTimeWord (lastWords line).1⟩ := rfl

theorem currentWord_eq (text : Text) :
    (ofText text).currentWord = (lastWords (lastLine text)).1 := by
  rw [ofText_eq]

theorem previousWord_eq (text : Text) :
    (ofText text).previousWord = (lastWords (lastLine text)).2 := by
  rw [ofText_eq]

theorem atPipe_iff : (ofText text).atPipe = true ↔
    (words (lastLine text)).getLast? = some pipe := by
  rw [atPipe, currentWord_eq, previousWord_eq, isAtPipe_iff]

theorem currentWord_eq_nil_iff : (ofText text).currentWord = [] ↔
    endsBlank (lastLine text) = true ∨ words (lastLine text) = [] := by
  rw [currentWord_eq, fst_lastWords_eq_nil_iff]

theorem position_eq (text : Text) : (ofText text).position =
    if words (lastLine text) = [] ∨ (ofText text).atPipe then .startOfQuery
    else .afterWord (ofText text).previousWord := by
  simp only [ofText_eq, atPipe, classify, Bool.or_eq_true, isBlankLine_iff]

theorem timeContext_eq (text : Text) :
    (ofText text).timeContext = isTimeWord (ofText text).currentWord := by
  rw [ofText_eq]

theorem fullText_eq (text : Text) : (ofText text).fullText = text := by
  rw [ofText_eq]

/-- Where a query starts, the word being typed is a pipe or empty. -/
theorem currentWord_of_startOfQuery (start : (ofText text).position = .startOfQuery) :
    (ofText text).currentWord = pipe ∨ (ofText text).currentWord = [] := by
  rw [position_eq] at start
  split at start
  · next starts =>
    rcases starts with blank | typed
    · exact .inr (currentWord_eq_nil_iff.2 (.inr blank))
    · rw [atPipe, isAtPipe, Bool.or_eq_true, Bool.and_eq_true, beq_iff_eq,
        List.isEmpty_iff] at typed
      exact typed.imp id And.left
  · exact absurd start (afterWord_ne_startOfQuery _)

end Context

theorem isTimeWord_iff {word : Text} : isTimeWord word = true ↔
    Text.of "ago" <:+: word ∨ Text.of "between" <:+: word := by
  simp only [isTimeWord, List.any_cons, List.any_nil, Bool.or_false, Bool.or_eq_true,
    Text.occursIn_iff]

/-! ### The source -/

theorem sourceWord?_eq (line : Text) : sourceWord? line = (words line).head?.filter fun word =>
    !((Text.of "//").isPrefixOf word || pipe.isPrefixOf word) := by
  have solid : (Text.of "//").all (!Text.isBlank ·) ∧ pipe.all (!Text.isBlank ·) := by decide
  rw [List.all_eq_true, List.all_eq_true] at solid
  rw [sourceWord?, Text.words_strip, ← Text.words_strip line,
    Text.head?_words (Text.startsBlank_strip line)]
  by_cases nothing : Text.strip line = []
  · simp [nothing]
  · rw [if_neg nothing, Option.filter_some, Text.isPrefixOf_takeWhile solid.1,
      Text.isPrefixOf_takeWhile solid.2, List.isEmpty_eq_false_iff.2 nothing, Bool.false_or]
    cases (Text.of "//").isPrefixOf (Text.strip line) || pipe.isPrefixOf (Text.strip line) <;> rfl

def firstWords (text : Text) : List (Option Text) :=
  (Text.lines text).map fun line => (words line).head?

def namedTable? (schema : Schema) (word : Option Text) : Option Schema.Table :=
  (word.filter fun word => !((Text.of "//").isPrefixOf word || pipe.isPrefixOf word)).bind
    schema.findTable

/-- Of every line only the first word counts. -/
theorem sourceTable_eq (text : Text) (schema : Schema) :
    sourceTable text schema = (firstWords text).findSome? (namedTable? schema) := by
  have byFirstWord (line : Text) :
      lineTable? schema line = namedTable? schema (words line).head? := by
    rw [lineTable?, sourceWord?_eq, namedTable?]
  rw [sourceTable, firstWords, List.findSome?_map]
  exact congrArg (List.findSome? · _) (funext byFirstWord)

end KqlCompletion.Query
