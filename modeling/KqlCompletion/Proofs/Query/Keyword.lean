import KqlCompletion.Proofs.Query.Position
import KqlCompletion.Proofs.Text.LetterCase

/-! Keywords in any case of their letters. What a keyword opens is opened by the ASCII words that are
this keyword but for the case of their letters, and by no others. -/
namespace KqlCompletion.Query

open Text (asciiLower isAscii lower)

variable {word : Text}

/-- A keyword is found in a word by its ASCII letters alone: no character beyond ASCII turns into a
letter of one. -/
theorem lower_mem_iff {keywords : List Text}
    (plain : ∀ keyword ∈ keywords, isAscii keyword = true ∧ Text.CodePoint.char 'k' ∉ keyword) :
    lower word ∈ keywords ↔ asciiLower word ∈ keywords := by
  constructor
  · intro member
    obtain ⟨ascii, noK⟩ := plain _ member
    rwa [(Text.lower_eq_iff ascii noK).1 rfl]
  · intro member
    obtain ⟨ascii, noK⟩ := plain _ member
    rwa [(Text.lower_eq_iff ascii noK).2 rfl]

theorem afterWord_by_ascii (word : Text) :
    (Position.afterWord word = .afterColumnKeyword ↔
      asciiLower word ∈ (["where", "extend", "project"] : List Text)) ∧
    (Position.afterWord word = .afterGroupingKeyword ↔
      asciiLower word ∈ (["by", "on"] : List Text)) ∧
    (Position.afterWord word = .afterSummarize ↔ asciiLower word = "summarize") := by
  obtain ⟨column, grouping, summarize, -⟩ := afterWord_spec word
  refine ⟨column.trans (lower_mem_iff (by decide)), grouping.trans (lower_mem_iff (by decide)), ?_⟩
  exact summarize.trans (Text.lower_eq_iff (by decide) (by decide))

theorem afterWord_asciiLower (word : Text) :
    Position.afterWord (asciiLower word) = Position.afterWord word := by
  rw [Position.afterWord, Position.afterWord, Text.lower_asciiLower]

theorem isAtPipe_asciiLower (current previous : Text) :
    isAtPipe (asciiLower current) (asciiLower previous) = isAtPipe current previous := by
  have pipe_iff (word : Text) : asciiLower word = pipe ↔ word = pipe :=
    Text.asciiLower_eq_iff (by decide)
  have empty_iff (word : Text) : asciiLower word = [] ↔ word = [] :=
    Text.asciiLower_eq_iff (by simp)
  rw [isAtPipe, isAtPipe, Bool.eq_iff_iff]
  simp only [Bool.or_eq_true, Bool.and_eq_true, beq_iff_eq, List.isEmpty_iff, pipe_iff, empty_iff]

theorem classify_eq (line current previous : Text) : classify line current previous =
    if isBlankLine line = false ∧ isAtPipe current previous = false then .afterWord previous
    else .startOfQuery := by
  rw [classify]
  cases isBlankLine line <;> cases isAtPipe current previous <;> rfl

/-- The position behind a keyword is that of no other word, and of no word at all in a blank line or
behind a pipe. -/
theorem classify_by_ascii (line current previous : Text) :
    let inside := isBlankLine line = false ∧ isAtPipe current previous = false
    let position := classify line current previous
    (position = .afterColumnKeyword ↔
      inside ∧ asciiLower previous ∈ (["where", "extend", "project"] : List Text)) ∧
    (position = .afterGroupingKeyword ↔ inside ∧ asciiLower previous ∈ (["by", "on"] : List Text)) ∧
    (position = .afterSummarize ↔ inside ∧ asciiLower previous = "summarize") := by
  intro inside position
  by_cases here : inside
  · have behind : position = .afterWord previous :=
      (classify_eq line current previous).trans (if_pos here)
    simpa only [behind, here, true_and] using afterWord_by_ascii previous
  · have start : position = .startOfQuery :=
      (classify_eq line current previous).trans (if_neg here)
    simp [start, here]

/-- A word with a character beyond ASCII is no keyword in any case of its letters. -/
theorem classify_of_not_isAscii (foreign : isAscii word = false) (line current : Text) :
    classify line current word = .startOfQuery ∨ classify line current word = .generalToken := by
  obtain ⟨column, grouping, summarize⟩ := classify_by_ascii line current word
  have other {keywords : List Text} (plain : ∀ keyword ∈ keywords, isAscii keyword = true) :
      asciiLower word ∉ keywords := fun listed => by
    have ascii := plain _ listed
    rw [Text.isAscii_asciiLower, foreign] at ascii
    cases ascii
  cases place : classify line current word with
  | startOfQuery => exact .inl rfl
  | generalToken => exact .inr rfl
  | afterColumnKeyword => exact absurd (column.1 place).2 (other (by decide))
  | afterGroupingKeyword => exact absurd (grouping.1 place).2 (other (by decide))
  | afterSummarize =>
    have listed : asciiLower word ∈ [Text.of "summarize"] := by simp [(summarize.1 place).2]
    exact absurd listed (other (by decide))

end KqlCompletion.Query
