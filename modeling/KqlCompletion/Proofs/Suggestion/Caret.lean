import KqlCompletion.Suggestion.Basic
import Mathlib.Data.Set.Function
import Mathlib.Data.List.Infix

/-! Where the caret goes in the insert text of a function. A placeholder is put into each pair of
empty parentheses and nowhere else. What stands on its two sides is a parenthesis, so it does not
make another pair or another placeholder with its neighbours, and it can be taken out again. -/
namespace KqlCompletion

namespace Text

/-- How often `needle` occurs in the text, each place counted. -/
def occurrences (needle text : Text) : Nat := text.tails.countP needle.isPrefixOf

theorem occurrences_eq_zero_iff {needle text : Text} :
    occurrences needle text = 0 ↔ ¬ needle <:+: text := by
  simp only [occurrences, List.countP_eq_zero, List.mem_tails, List.isPrefixOf_iff_prefix]
  constructor
  · rintro none ⟨before, behind, rfl⟩
    exact none (needle ++ behind) ⟨before, by simp⟩ (List.prefix_append needle behind)
  · intro absent place suffix lead
    exact absent (lead.isInfix.trans suffix.isInfix)

@[simp] theorem occurrences_pair_nil (a b : CodePoint) : occurrences [a, b] [] = 0 := by
  simp [occurrences, List.isPrefixOf]

@[simp] theorem occurrences_pair_cons (a b c : CodePoint) (text : Text) :
    occurrences [a, b] (c :: text) =
      occurrences [a, b] text + if a = c ∧ text.head? = some b then 1 else 0 := by
  have here : [a, b].isPrefixOf (c :: text) = decide (a = c ∧ text.head? = some b) := by
    cases text <;> simp [List.isPrefixOf, eq_comm, Bool.beq_eq_decide_eq]
  simp [occurrences, List.countP_cons, here]

end Text

namespace Suggestion

open Text (CodePoint occurrences)

variable {text : Text} {c : CodePoint}

def emptyParentheses : Text := ['(', ')']

def caret : Text := ['$', '0']

/-- Takes out every caret placeholder, from left to right. -/
def withoutCarets : Text → Text
  | .char '$' :: .char '0' :: text => withoutCarets text
  | c :: text => c :: withoutCarets text
  | [] => []

theorem withoutCarets_cons (other : ¬ (c = .char '$' ∧ text.head? = some (.char '0'))) :
    withoutCarets (c :: text) = c :: withoutCarets text := by
  rw [withoutCarets]
  rintro rest rfl rfl
  exact other ⟨rfl, rfl⟩

@[simp] theorem head?_placeCaret (text : Text) : (placeCaret text).head? = text.head? := by
  fun_cases placeCaret text <;> rfl

/-- The character and the next one are no pair of empty parentheses. -/
theorem opens_no_pair (other : ∀ rest, c = .char '(' → text = .char ')' :: rest → False) :
    ¬ (.char '(' = c ∧ text.head? = some (.char ')')) := by
  rintro ⟨rfl, closes⟩
  obtain ⟨rest, rfl⟩ := List.head?_eq_some_iff.1 closes
  exact other rest rfl rfl

/-- No pair of empty parentheses is left, and none is made. -/
theorem occurrences_parentheses_placeCaret (text : Text) :
    occurrences emptyParentheses (placeCaret text) = 0 := by
  fun_induction placeCaret text with
  | case1 text ih => simpa [emptyParentheses] using ih
  | case2 c text other ih => simpa [emptyParentheses, opens_no_pair other] using ih
  | case3 => simp [emptyParentheses]

theorem length_placeCaret (text : Text) :
    (placeCaret text).length = text.length + 2 * occurrences emptyParentheses text := by
  fun_induction placeCaret text with
  | case1 text ih =>
    simp [emptyParentheses] at ih ⊢
    omega
  | case2 c text other ih =>
    simp [emptyParentheses, opens_no_pair other] at ih ⊢
    omega
  | case3 => simp [emptyParentheses]

/-- Each pair makes one placeholder, and those that were there before stay as they are. -/
theorem occurrences_caret_placeCaret (text : Text) :
    occurrences caret (placeCaret text) =
      occurrences emptyParentheses text + occurrences caret text := by
  fun_induction placeCaret text with
  | case1 text ih =>
    simp [emptyParentheses, caret] at ih ⊢
    omega
  | case2 c text other ih =>
    simp [emptyParentheses, caret, opens_no_pair other] at ih ⊢
    omega
  | case3 => simp [emptyParentheses, caret]

/-- A text without a placeholder begins with none, and neither does the rest of it. -/
theorem clean_cons (clean : occurrences caret (c :: text) = 0) :
    ¬ (c = .char '$' ∧ text.head? = some (.char '0')) ∧ occurrences caret text = 0 := by
  simp only [caret, Text.occurrences_pair_cons, Nat.add_eq_zero_iff, ite_eq_right_iff] at clean
  refine ⟨?_, clean.1⟩
  rintro ⟨rfl, next⟩
  exact absurd (clean.2 ⟨rfl, next⟩) (by decide)

theorem withoutCarets_placeCaret (clean : occurrences caret text = 0) :
    withoutCarets (placeCaret text) = text := by
  fun_induction placeCaret text with
  | case1 text ih =>
    have inner := ih (clean_cons (clean_cons clean).2).2
    simp [withoutCarets, inner]
  | case2 c text other ih =>
    obtain ⟨first, rest⟩ := clean_cons clean
    rw [withoutCarets_cons (by simpa using first), ih rest]
  | case3 => rfl

theorem getLast?_append_of_eq_some {front : Text} (last : front.getLast? = some c)
    (lead : Text) : (lead ++ front).getLast? = some c := by
  rw [List.getLast?_append, last, Option.some_or]

/-- A placeholder stands between the parentheses that it was put into. -/
theorem between_parentheses (clean : occurrences caret text = 0) {front back : Text}
    (placed : placeCaret text = front ++ caret ++ back) :
    front.getLast? = some (.char '(') ∧ back.head? = some (.char ')') := by
  fun_induction placeCaret text generalizing front with
  | case1 text ih =>
    have inner := (clean_cons (clean_cons clean).2).2
    -- the placeholder is the one put in here, or stands behind it
    rcases front with _ | ⟨_, _ | ⟨_, _ | ⟨_, _ | ⟨_, front⟩⟩⟩⟩
    · simp [caret] at placed
    · obtain ⟨rfl, rfl⟩ : CodePoint.char '(' = _ ∧ .char ')' :: placeCaret text = back := by
        simpa [caret] using placed
      exact ⟨rfl, rfl⟩
    · simp [caret] at placed
    · simp [caret] at placed
    · simp only [List.cons_append, List.cons.injEq] at placed
      obtain ⟨rfl, rfl, rfl, rfl, rest⟩ := placed
      obtain ⟨opens, closes⟩ := ih inner rest
      exact ⟨getLast?_append_of_eq_some opens ['(', '$', '0', ')'], closes⟩
  | case2 c text other ih =>
    obtain ⟨first, rest⟩ := clean_cons clean
    rcases front with _ | ⟨d, front⟩
    · obtain ⟨rfl, follows⟩ : c = .char '$' ∧ placeCaret text = .char '0' :: back := by
        simpa [caret] using placed
      have next : text.head? = some (.char '0') := by rw [← head?_placeCaret, follows]; rfl
      exact absurd ⟨rfl, next⟩ first
    · simp only [List.cons_append, List.cons.injEq] at placed
      obtain ⟨rfl, behind⟩ := placed
      obtain ⟨opens, closes⟩ := ih rest behind
      exact ⟨getLast?_append_of_eq_some opens [c], closes⟩
  | case3 => simp [caret] at placed

/-- In the insert text of a function a placeholder stands in each pair of parentheses that was empty.
So no pair is empty any more, and each has made the text longer by two characters. If the function
holds no placeholder itself, there are no others, and it comes back when they are taken out; so
different functions have different insert texts. -/
theorem caret_in_each_pair_of_parentheses :
    (∀ function : Text,
      let inserted := placeCaret function
      ¬ emptyParentheses <:+: inserted ∧
      inserted.length = function.length + 2 * occurrences emptyParentheses function ∧
      (¬ caret <:+: function →
        occurrences caret inserted = occurrences emptyParentheses function ∧
        (∀ front back, inserted = front ++ caret ++ back →
          front.getLast? = some (.char '(') ∧ back.head? = some (.char ')')) ∧
        withoutCarets inserted = function)) ∧
    Set.InjOn placeCaret {function | ¬ caret <:+: function} := by
  have back {function : Text} (clean : ¬ caret <:+: function) :
      withoutCarets (placeCaret function) = function :=
    withoutCarets_placeCaret (Text.occurrences_eq_zero_iff.2 clean)
  constructor
  · intro function inserted
    refine ⟨?_, length_placeCaret function, ?_⟩
    · rw [← Text.occurrences_eq_zero_iff]
      exact occurrences_parentheses_placeCaret function
    · intro clean
      have none := Text.occurrences_eq_zero_iff.2 clean
      refine ⟨?_, fun front behind => between_parentheses none, back clean⟩
      rw [occurrences_caret_placeCaret, none, Nat.add_zero]
  · intro first clean second alsoClean same
    rw [← back clean, ← back alsoClean, same]

/-- Two empty pairs in a pair that is not. -/
theorem two_pairs_get_two_carets :
    let function := Text.of "bin(ago(), now())"
    ¬ caret <:+: function ∧ placeCaret function = "bin(ago($0), now($0))" ∧
      occurrences caret (placeCaret function) = 2 ∧
      withoutCarets (placeCaret function) = function := by
  intro function
  have clean : ¬ caret <:+: function := by decide
  have two : occurrences emptyParentheses function = 2 := by decide
  obtain ⟨-, -, taken⟩ := caret_in_each_pair_of_parentheses.1 function
  obtain ⟨many, -, back⟩ := taken clean
  exact ⟨clean, by decide, many.trans two, back⟩

end Suggestion
end KqlCompletion
