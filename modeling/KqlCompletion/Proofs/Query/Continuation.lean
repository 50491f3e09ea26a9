import KqlCompletion.Proofs.Query.Position

/-! A query that goes on in its last line. What is typed without a blank joins the word being typed
and leaves the word in front of it alone; what is typed between blanks becomes that word itself. The
table the query reads from stays the same as long as the first word of the last line does. -/
namespace KqlCompletion.Query

open Text (words pieces lastLine endsBlank isBlank)

variable {line text word : Text}

theorem lastWords_append (solid : ∀ c ∈ word, isBlank c = false) (line : Text) :
    Context.lastWords (line ++ word) =
      ((Context.lastWords line).1 ++ word, (Context.lastWords line).2) := by
  obtain ⟨front, last, before, after⟩ := Text.exists_pieces_append solid line
  rw [Context.lastWords, Context.lastWords, before, after, List.reverse_append,
    List.reverse_append, List.reverse_singleton, List.reverse_singleton]
  cases front.reverse <;> simp

theorem lastWords_append_finished (solid : ∀ c ∈ word, isBlank c = false)
    (nonempty : word ≠ []) (line : Text) :
    words (line ++ (" " ++ word ++ " ")) = words line ++ [word] ∧
      Context.lastWords (line ++ (" " ++ word ++ " ")) = ([], word) := by
  have blank : isBlank (.char ' ') = true := by decide
  have gap : Text.of " " = [.char ' '] := rfl
  have listed : words (line ++ (" " ++ word ++ " ")) = words line ++ [word] := by
    rw [gap, List.append_assoc, List.singleton_append, Text.words_append_blank blank,
      Text.words_append_blank blank, Text.words_of_solid solid nonempty]
    rfl
  have ends : endsBlank (line ++ (" " ++ word ++ " ")) = true := by
    rw [← List.append_assoc, Text.endsBlank_append (by simp [gap])]
    exact blank
  refine ⟨listed, ?_⟩
  rw [lastWords_eq, recentWords, ends, listed]
  simp

/-- Behind another word the word being typed is not the first one of its line. -/
theorem head?_words_append (solid : ∀ c ∈ word, isBlank c = false)
    (behind : (Context.lastWords line).2 ≠ []) :
    (words (line ++ word)).head? = (words line).head? := by
  obtain ⟨front, last, before, after⟩ := Text.exists_pieces_append solid line
  rw [Context.lastWords, before, List.reverse_append, List.reverse_singleton] at behind
  obtain ⟨previous, member, solid⟩ : ∃ previous ∈ front, previous ≠ [] := by
    cases reversed : front.reverse with
    | nil => simp [reversed] at behind
    | cons previous others =>
      refine ⟨previous, List.mem_reverse.1 (by simp [reversed]), ?_⟩
      rintro rfl
      simp [reversed] at behind
  have kept : front.filter (!·.isEmpty) ≠ [] :=
    List.ne_nil_of_mem (List.mem_filter.2 ⟨member, by simpa using solid⟩)
  rw [Text.words_eq_filter_pieces, Text.words_eq_filter_pieces, before, after, List.filter_append,
    List.filter_append, List.head?_append_of_ne_nil _ kept, List.head?_append_of_ne_nil _ kept]

theorem sourceTable?_append {more : Text} (sameLine : .char '\n' ∉ more)
    (first : (words (lastLine text ++ more)).head? =
      (words (lastLine text)).head?) (schema : Option Schema) :
    sourceTable? (some (text ++ more)) schema = sourceTable? (some text) schema := by
  cases schema with
  | none => rfl
  | some schema =>
    have firsts : firstWords (text ++ more) = firstWords text := by
      rw [firstWords, firstWords, Text.lines_append_of_not_mem sameLine,
        Text.lines_eq text, List.map_append, List.map_append, List.map_singleton,
        List.map_singleton, List.dropLast_concat, first]
    show sourceTable (text ++ more) schema = sourceTable text schema
    rw [sourceTable_eq, sourceTable_eq, firsts]

namespace Context

section typing

variable (solid : ∀ c ∈ word, isBlank c = false)

include solid

theorem lastLine_append (text : Text) :
    lastLine (text ++ word) = lastLine text ++ word := by
  rw [Text.lastLine_append_of_not_mem (Text.feed_not_mem_of_solid solid)]

theorem currentWord_append (text : Text) :
    (ofText (text ++ word)).currentWord = (ofText text).currentWord ++ word := by
  rw [currentWord_eq, currentWord_eq, lastLine_append solid, lastWords_append solid]

theorem previousWord_append (text : Text) :
    (ofText (text ++ word)).previousWord = (ofText text).previousWord := by
  rw [previousWord_eq, previousWord_eq, lastLine_append solid, lastWords_append solid]

/-- Typing on does not lead to another position, unless a pipe is typed or the query has only
started. -/
theorem position_append (inside : (ofText text).position ≠ .startOfQuery)
    (noPipe : (ofText (text ++ word)).currentWord ≠ pipe) :
    (ofText (text ++ word)).position = (ofText text).position := by
  have sound : ¬ (words (lastLine text) = [] ∨ (ofText text).atPipe) := fun start =>
    inside (by rw [position_eq, if_pos start])
  have goesOn : ¬ (words (lastLine (text ++ word)) = [] ∨ (ofText (text ++ word)).atPipe) := by
    rintro (blank | piped)
    · rw [lastLine_append solid, Text.words_eq_nil_iff] at blank
      refine sound (.inl (Text.words_eq_nil_iff.2 fun c member => ?_))
      exact blank c (List.mem_append_left _ member)
    · rw [atPipe, isAtPipe, Bool.or_eq_true, Bool.and_eq_true, beq_iff_eq, List.isEmpty_iff,
        beq_iff_eq, previousWord_append solid] at piped
      rcases piped with typed | ⟨empty, finished⟩
      · exact noPipe typed
      · rw [currentWord_append solid, List.append_eq_nil_iff] at empty
        refine sound (.inr ?_)
        simp [atPipe, isAtPipe, empty.1, finished]
  rw [position_eq, position_eq, if_neg sound, if_neg goesOn, previousWord_append solid]

/-- Behind another word the first one of the line is left alone. -/
theorem sourceTable?_append_word (behind : (ofText text).previousWord ≠ [])
    (schema : Option Schema) :
    sourceTable? (some (text ++ word)) schema = sourceTable? (some text) schema := by
  rw [previousWord_eq] at behind
  exact sourceTable?_append (Text.feed_not_mem_of_solid solid) (head?_words_append solid behind)
    schema

end typing

section finishing

variable (solid : ∀ c ∈ word, isBlank c = false) (nonempty : word ≠ [])

include solid

theorem feed_not_mem_finished : .char '\n' ∉ (" " ++ word ++ " ") := by
  simpa [Text.of] using Text.feed_not_mem_of_solid solid

theorem lastLine_append_finished (text : Text) :
    lastLine (text ++ (" " ++ word ++ " ")) =
      lastLine text ++ (" " ++ word ++ " ") := by
  rw [Text.lastLine_append_of_not_mem (feed_not_mem_finished solid)]

include nonempty

/-- Behind a finished word nothing is typed yet. -/
theorem currentWord_append_finished (text : Text) :
    (ofText (text ++ (" " ++ word ++ " "))).currentWord = [] := by
  rw [currentWord_eq, lastLine_append_finished solid,
    (lastWords_append_finished solid nonempty _).2]

theorem previousWord_append_finished (text : Text) :
    (ofText (text ++ (" " ++ word ++ " "))).previousWord = word := by
  rw [previousWord_eq, lastLine_append_finished solid,
    (lastWords_append_finished solid nonempty _).2]

theorem position_append_finished (noPipe : word ≠ pipe) (text : Text) :
    (ofText (text ++ (" " ++ word ++ " "))).position = .afterWord word := by
  obtain ⟨listed, -⟩ := lastWords_append_finished solid nonempty (lastLine text)
  have goesOn : ¬ (words (lastLine (text ++ (" " ++ word ++ " "))) = [] ∨
      (ofText (text ++ (" " ++ word ++ " "))).atPipe) := by
    rw [atPipe_iff, lastLine_append_finished solid, listed, List.getLast?_concat]
    rintro (nothing | piped)
    · simp at nothing
    · exact noPipe (Option.some.inj piped)
  rw [position_eq, if_neg goesOn, previousWord_append_finished solid nonempty]

/-- A line that has a word keeps its first one. -/
theorem sourceTable?_append_finished (worded : words (lastLine text) ≠ [])
    (schema : Option Schema) :
    sourceTable? (some (text ++ (" " ++ word ++ " "))) schema =
      sourceTable? (some text) schema := by
  refine sourceTable?_append (feed_not_mem_finished solid) ?_ schema
  rw [(lastWords_append_finished solid nonempty _).1, List.head?_append_of_ne_nil _ worded]

end finishing

/-- There is a word behind which the query goes on, unless the query has only started or goes on
behind no keyword. -/
theorem previousWord_ne_nil (started : (ofText text).position ≠ .startOfQuery)
    (keyword : (ofText text).position ≠ .generalToken) : (ofText text).previousWord ≠ [] := by
  intro empty
  have plain : Position.afterWord [] = .generalToken := by decide
  rw [position_eq] at started keyword
  split at started
  · exact started rfl
  · next inside => exact keyword (by rw [if_neg inside, empty, plain])

end Context
end KqlCompletion.Query
