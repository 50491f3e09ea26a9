import KqlCompletion.Proofs.Text.Words

/-! A line is put together from its pieces and the blank runs between them. It cannot be put together
from other tokens: tokens hold no blank, the runs between them are not empty, and only the outer two
tokens may be empty. -/
namespace KqlCompletion.Text

variable {line first run : Text} {others : List (Text × Text)}

/-- A first token, and others each with the run in front of it, put together. -/
def weave (first : Text) : List (Text × Text) → Text
  | [] => first
  | (run, next) :: others => first ++ run ++ weave next others

/-- The line is a first token and others, each behind a blank run. -/
structure IsWoven (line first : Text) (others : List (Text × Text)) : Prop where
  whole : line = weave first others
  lead : ∀ c ∈ first, isBlank c = false
  solid : ∀ other ∈ others, ∀ c ∈ other.2, isBlank c = false
  runs : ∀ other ∈ others, IsBlankRun other.1
  inner : ∀ other ∈ others.dropLast, other.2 ≠ []

def IsCut (line : Text) (tokens : List Text) : Prop :=
  ∃ first others, tokens = first :: others.map Prod.snd ∧ IsWoven line first others

theorem weave_cons (c : CodePoint) (first : Text) (others : List (Text × Text)) :
    weave (c :: first) others = c :: weave first others := by
  cases others <;> simp [weave]

namespace IsWoven

/-- What stands behind the first run is woven as well. -/
theorem tail {next : Text} (woven : IsWoven line first ((run, next) :: others)) :
    IsWoven (weave next others) next others := by
  obtain ⟨-, -, solid, runs, inner⟩ := woven
  rw [List.forall_mem_cons] at solid runs
  refine ⟨rfl, solid.1, solid.2, runs.2, ?_⟩
  intro other member
  cases others with
  | nil => simp at member
  | cons second others => exact inner other (by simp [member])

/-- A blank at the start is that of the first run, so there is nothing in front of it. -/
theorem startsBlank_iff (woven : IsWoven line first others) :
    startsBlank line = true ↔ first = [] ∧ others ≠ [] := by
  obtain ⟨rfl, lead, -, runs, -⟩ := woven
  rcases first with _ | ⟨c, first⟩
  · rcases others with _ | ⟨⟨run, next⟩, others⟩
    · simp [weave, startsBlank]
    · have blank : IsBlankRun run := runs _ List.mem_cons_self
      obtain ⟨d, rest, rfl⟩ := List.exists_cons_of_ne_nil blank.1
      have begins : isBlank d = true := blank.2 d List.mem_cons_self
      simp [weave, startsBlank, begins]
  · have begins : isBlank c = false := lead c List.mem_cons_self
    simp [weave_cons, startsBlank, begins]

/-- Behind a run that another one follows stands a token that is not empty. -/
theorem startsBlank_tail {next : Text}
    (woven : IsWoven line first ((run, next) :: others)) :
    startsBlank (weave next others) = false := by
  rw [Bool.eq_false_iff]
  intro starts
  obtain ⟨empty, more⟩ := woven.tail.startsBlank_iff.1 starts
  obtain ⟨second, rest, rfl⟩ := List.exists_cons_of_ne_nil more
  exact woven.inner (run, next) (by simp) empty

end IsWoven

/-- The first run of a text ends its first piece. -/
theorem pieces_append_run {front back : Text} (solid : ∀ c ∈ front, isBlank c = false)
    (blank : IsBlankRun run) (begins : startsBlank back = false) :
    pieces (front ++ run ++ back) = front :: pieces back := by
  induction front with
  | nil =>
    obtain ⟨c, rest, rfl⟩ := List.exists_cons_of_ne_nil blank.1
    rw [IsBlankRun, List.forall_mem_cons] at blank
    obtain ⟨-, first, others⟩ := blank
    induction rest generalizing c with
    | nil => simp [pieces, first, begins]
    | cons d rest ih =>
      rw [List.forall_mem_cons] at others
      simpa [pieces, startsBlank, first, others.1] using ih d others.1 others.2
  | cons c front ih =>
    rw [List.forall_mem_cons] at solid
    have rest := ih solid.2
    rw [List.append_assoc] at rest
    simp [pieces, solid.1, rest]

theorem pieces_of_isWoven (woven : IsWoven line first others) :
    pieces line = first :: others.map Prod.snd := by
  induction others generalizing line first with
  | nil =>
    obtain ⟨rfl, lead, -⟩ := woven
    exact pieces_of_solid lead
  | cons other others ih =>
    obtain ⟨run, next⟩ := other
    have blank : IsBlankRun run := woven.runs _ List.mem_cons_self
    rw [woven.whole, weave, pieces_append_run woven.lead blank woven.startsBlank_tail,
      ih woven.tail, List.map_cons]

theorem exists_isWoven (line : Text) : ∃ first others, IsWoven line first others := by
  induction line with
  | nil => exact ⟨[], [], by constructor <;> simp [weave]⟩
  | cons c line ih =>
    obtain ⟨first, others, woven⟩ := ih
    have ⟨whole, lead, solid, runs, inner⟩ := woven
    by_cases blank : isBlank c = true
    · by_cases starts : startsBlank line = true
      · -- the first run goes on to the left
        obtain ⟨rfl, more⟩ := woven.startsBlank_iff.1 starts
        obtain ⟨⟨run, next⟩, others, rfl⟩ := List.exists_cons_of_ne_nil more
        rw [List.forall_mem_cons] at solid runs
        have longer : IsBlankRun (c :: run) := ⟨by simp, by simpa [blank] using runs.1.2⟩
        refine ⟨[], (c :: run, next) :: others, by simp [whole, weave], by simp,
          List.forall_mem_cons.2 solid, List.forall_mem_cons.2 ⟨longer, runs.2⟩, ?_⟩
        rcases others with _ | ⟨second, others⟩
        · simp
        · rw [List.dropLast_cons_cons, List.forall_mem_cons] at inner ⊢
          exact inner
      · -- a run of its own, in front of the first token
        refine ⟨[], ([c], first) :: others, by simp [whole, weave], by simp,
          List.forall_mem_cons.2 ⟨lead, solid⟩,
          List.forall_mem_cons.2 ⟨⟨by simp, by simpa using blank⟩, runs⟩, ?_⟩
        rcases others with _ | ⟨second, others⟩
        · simp
        · rw [List.dropLast_cons_cons, List.forall_mem_cons]
          exact ⟨fun empty => starts (woven.startsBlank_iff.2 ⟨empty, by simp⟩), inner⟩
    · refine ⟨c :: first, others, by rw [whole, weave_cons], ?_, solid, runs, inner⟩
      rw [List.forall_mem_cons]
      exact ⟨by simpa using blank, lead⟩

theorem isCut_iff {tokens : List Text} : IsCut line tokens ↔ tokens = pieces line := by
  constructor
  · rintro ⟨first, others, rfl, woven⟩
    exact (pieces_of_isWoven woven).symm
  · rintro rfl
    obtain ⟨first, others, woven⟩ := exists_isWoven line
    exact ⟨first, others, pieces_of_isWoven woven, woven⟩

theorem head?_pieces_eq_nil_iff :
    (pieces line).head? = some [] ↔ line = [] ∨ startsBlank line = true := by
  rw [head?_pieces]
  rcases line with _ | ⟨c, line⟩
  · simp
  · by_cases blank : isBlank c = true <;> simp [startsBlank, blank]

theorem getLast?_pieces_eq_nil_iff :
    (pieces line).getLast? = some [] ↔ line = [] ∨ endsBlank line = true := by
  rw [pieces_eq]
  by_cases ends : endsBlank line = true
  · simp [ends]
  · rcases last : (words line).getLast? with _ | word
    · -- a line of blanks ends in one, unless it is empty
      rw [List.getLast?_eq_none_iff, words_eq_nil_iff] at last
      rcases line with _ | ⟨c, line⟩
      · simp [words, endsBlank]
      · have blank : endsBlank (c :: line) = true := endsBlank_of_run ⟨by simp, last⟩
        exact absurd blank ends
    · have full : word ≠ [] := ne_nil_of_mem_words (List.mem_of_getLast? last)
      have nonempty : line ≠ [] := by
        rintro rfl
        simp [words] at last
      simp [ends, last, full, nonempty]

/-- A line is cut at blank runs in one way only. The first token is empty where the line starts with
a blank, the last one where it ends with one, and the others are the words of the line; so none has
any character exactly if the line is blank. -/
theorem line_is_cut_one_way (line : Text) :
    (∀ tokens, IsCut line tokens ↔ tokens = pieces line) ∧
    ((pieces line).head? = some [] ↔ line = [] ∨ startsBlank line = true) ∧
    ((pieces line).getLast? = some [] ↔ line = [] ∨ endsBlank line = true) ∧
    (pieces line).filter (· ≠ []) = words line ∧
    (strip line = [] ↔ ∀ token ∈ pieces line, token = []) := by
  have kept : (pieces line).filter (· ≠ []) = words line := by
    rw [words_eq_filter_pieces]
    refine List.filter_congr fun token _ => ?_
    cases token <;> simp
  refine ⟨fun tokens => isCut_iff, head?_pieces_eq_nil_iff, getLast?_pieces_eq_nil_iff, kept, ?_⟩
  rw [strip_eq_nil_iff, ← kept, List.filter_eq_nil_iff]
  simp

end KqlCompletion.Text
