import KqlCompletion.Text.Blank
import Mathlib.Data.List.DropRight
import Mathlib.Data.List.Infix
import Mathlib.Data.List.TakeWhile

/-! Words do not depend on the blanks around them: a blank ends a word and starts none. Pieces are
the words, with an empty piece at an end where the text has a blank; so how long a blank run is and
what it is made of makes no difference to them. -/
namespace KqlCompletion.Text

variable {c : CodePoint} {text front back run other : Text}

theorem words_ne_nil_of_not_blank (solid : isBlank c = false) (text : Text) :
    words (c :: text) ≠ [] := by
  rw [words]
  simp only [solid]
  split
  · simp_all
  · split
    · simp
    · split <;> simp

/-- All else about words and blanks follows from this. -/
theorem words_append_blank (blank : isBlank c = true) (front back : Text) :
    words (front ++ c :: back) = words front ++ words back := by
  induction front with
  | nil => simp [words, blank]
  | cons d front ih =>
    by_cases also : isBlank d = true
    · simp [words, also, ih]
    · rcases front with _ | ⟨e, front⟩
      · simp [words, also, blank, startsBlank]
      · by_cases next : isBlank e = true
        · simp_all [words, startsBlank]
        · obtain ⟨word, rest, split⟩ := List.exists_cons_of_ne_nil
            (words_ne_nil_of_not_blank (by simpa using next) front)
          rw [List.cons_append, words, words, ih, split]
          simp [also, next, startsBlank]

theorem words_eq_nil_iff : words text = [] ↔ ∀ c ∈ text, isBlank c = true := by
  induction text with
  | nil => simp [words]
  | cons c text ih =>
    by_cases blank : isBlank c = true
    · simp [words, blank, ih]
    · simp [words_ne_nil_of_not_blank, blank]

/-- Words are what is left of a text that is cut at every single blank. -/
theorem words_eq_filter_splitOnP (text : Text) :
    words text = (text.splitOnP isBlank).filter (!·.isEmpty) := by
  induction text with
  | nil => simp [words]
  | cons c text ih =>
    rw [List.splitOnP_cons_eq_if_modifyHead]
    by_cases blank : isBlank c = true
    · simp [words, blank, ih]
    · rcases text with _ | ⟨d, text⟩
      · simp [words, blank]
      · rw [List.splitOnP_cons_eq_if_modifyHead] at ih ⊢
        rw [words]
        by_cases next : isBlank d = true
        · simp_all [startsBlank]
        · obtain ⟨word, rest, cut⟩ := List.exists_cons_of_ne_nil
            (List.splitOnP_ne_nil isBlank text)
          simp_all [startsBlank]

/-- Nothing is left exactly of a text that satisfies `p` throughout. -/
theorem trim_eq_nil_iff {p : CodePoint → Bool} : trim p text = [] ↔ ∀ c ∈ text, p c = true := by
  rw [trim, dropEnd, List.reverse_eq_nil_iff, List.dropWhile_eq_nil_iff]
  simp only [List.mem_reverse]
  constructor
  · intro h
    rcases all : text.dropWhile p with _ | ⟨c, rest⟩
    · exact List.dropWhile_eq_nil_iff.1 all
    · have stays := List.head?_dropWhile_not p text
      simp_all
  · exact fun h c member => h c ((List.dropWhile_sublist p).mem member)

/-- A text without blanks is one word, unless it is empty. -/
theorem words_of_solid (solid : ∀ c ∈ text, isBlank c = false) (nonempty : text ≠ []) :
    words text = [text] := by
  rw [words_eq_filter_splitOnP, List.splitOnP_eq_singleton solid]
  simp [nonempty]

theorem pieces_of_solid (solid : ∀ c ∈ text, isBlank c = false) : pieces text = [text] := by
  induction text with
  | nil => rfl
  | cons c text ih =>
    rw [List.forall_mem_cons] at solid
    simp [pieces, solid.1, ih solid.2]

theorem words_blank_append (blank : ∀ c ∈ run, isBlank c = true) (text : Text) :
    words (run ++ text) = words text := by
  induction run with
  | nil => rfl
  | cons c run ih =>
    rw [List.forall_mem_cons] at blank
    simp [words, blank.1, ih blank.2]

/-- Blanks that a text starts and ends with do not count. -/
theorem words_between (before : ∀ c ∈ front, isBlank c = true)
    (behind : ∀ c ∈ back, isBlank c = true) (text : Text) :
    words (front ++ text ++ back) = words text := by
  rcases back with _ | ⟨c, back⟩
  · rw [List.append_nil, words_blank_append before]
  · rw [List.forall_mem_cons] at behind
    rw [words_append_blank behind.1, words_blank_append before, words_eq_nil_iff.2 behind.2,
      List.append_nil]

def IsBlankRun (run : Text) : Prop := run ≠ [] ∧ ∀ c ∈ run, isBlank c = true

theorem words_append_run (blank : IsBlankRun run) (front back : Text) :
    words (front ++ run ++ back) = words front ++ words back := by
  obtain ⟨c, run, rfl⟩ := List.exists_cons_of_ne_nil blank.1
  obtain ⟨first, others⟩ := List.forall_mem_cons.1 blank.2
  rw [List.append_assoc, List.cons_append, words_append_blank first, words_blank_append others]

theorem exists_strip (text : Text) : ∃ before behind, text = before ++ strip text ++ behind ∧
    (∀ c ∈ before, isBlank c = true) ∧ ∀ c ∈ behind, isBlank c = true := by
  refine ⟨text.takeWhile isBlank, ((text.dropWhile isBlank).reverse.takeWhile isBlank).reverse,
    ?_, ?_, ?_⟩
  · rw [strip, trim, dropEnd, List.append_assoc, ← List.reverse_append,
      List.takeWhile_append_dropWhile, List.reverse_reverse, List.takeWhile_append_dropWhile]
  · exact fun c member => List.mem_takeWhile_imp member
  · exact fun c member => List.mem_takeWhile_imp (List.mem_reverse.1 member)

@[simp] theorem words_strip (text : Text) : words (strip text) = words text := by
  obtain ⟨before, behind, whole, ahead, after⟩ := exists_strip text
  conv_rhs => rw [whole]
  exact (words_between ahead after _).symm

theorem strip_eq_nil_iff : strip text = [] ↔ words text = [] := by
  rw [strip, trim_eq_nil_iff, words_eq_nil_iff]

theorem startsBlank_strip (text : Text) : startsBlank (strip text) = false := by
  have lead : strip text <+: text.dropWhile isBlank := by
    rw [strip, trim, dropEnd, ← List.reverse_suffix, List.reverse_reverse]
    exact List.dropWhile_suffix _
  rcases stripped : strip text with _ | ⟨c, rest⟩
  · rfl
  · rw [stripped] at lead
    obtain ⟨behind, whole⟩ := lead
    have first := List.head?_dropWhile_not isBlank text
    rw [← whole] at first
    exact first

theorem strip_of_solid (solid : ∀ c ∈ text, isBlank c = false) : strip text = text := by
  have kept {text : Text} (solid : ∀ c ∈ text, isBlank c = false) :
      text.dropWhile isBlank = text := by
    rcases text with _ | ⟨c, text⟩
    · rfl
    · rw [List.dropWhile_cons_of_neg]
      simp [solid c (by simp)]
  rw [strip, trim, dropEnd, kept solid, kept fun c member => solid c (List.mem_reverse.1 member),
    List.reverse_reverse]

theorem head?_words (solid : startsBlank text = false) :
    (words text).head? = if text = [] then none else some (text.takeWhile (!isBlank ·)) := by
  have first := head?_pieces text
  obtain ⟨piece, rest, cut⟩ := List.exists_cons_of_ne_nil (pieces_ne_nil text)
  rw [words_eq_filter_pieces, cut]
  rcases text with _ | ⟨c, text⟩
  · simp_all [pieces]
  · simp_all [startsBlank]

theorem ne_nil_of_mem_words {word : Text} (member : word ∈ words text) : word ≠ [] := by
  rw [words_eq_filter_pieces] at member
  have kept := (List.mem_filter.1 member).2
  simpa using kept

theorem not_blank_of_mem_words {word : Text} (member : word ∈ words text) :
    ∀ c ∈ word, isBlank c = false := by
  rw [words_eq_filter_pieces] at member
  exact not_blank_of_mem_pieces (List.mem_of_mem_filter member)

theorem isPrefixOf_takeWhile {p : CodePoint → Bool} {needle : Text}
    (inside : ∀ c ∈ needle, p c = true) (text : Text) :
    needle.isPrefixOf (text.takeWhile p) = needle.isPrefixOf text := by
  induction needle generalizing text with
  | nil => simp
  | cons d needle ih =>
    rw [List.forall_mem_cons] at inside
    rcases text with _ | ⟨c, text⟩
    · rfl
    · by_cases goesOn : p c = true
      · simp [goesOn, List.isPrefixOf, ih inside.2]
      · have differ : d ≠ c := fun same => goesOn (same ▸ inside.1)
        simp [goesOn, List.isPrefixOf, differ]

/-! ### Pieces -/

def endsBlank (text : Text) : Bool := text.getLast?.any isBlank

theorem pieces_eq (text : Text) : pieces text =
    (if text = [] ∨ startsBlank text then [[]] else []) ++ words text ++
      if endsBlank text then [[]] else [] := by
  induction text with
  | nil => rfl
  | cons c text ih =>
    rcases text with _ | ⟨d, text⟩
    · by_cases blank : isBlank c = true <;> simp [pieces, words, startsBlank, endsBlank, blank]
    · have ends : endsBlank (c :: d :: text) = endsBlank (d :: text) := by
        simp [endsBlank, List.getLast?_cons_cons]
      rw [pieces, words, ends, ih]
      by_cases blank : isBlank c = true <;> by_cases also : isBlank d = true
      · simp [startsBlank, blank, also]
      · simp [startsBlank, blank, also]
      · simp [startsBlank, blank, also]
      · obtain ⟨word, rest, cut⟩ := List.exists_cons_of_ne_nil
          (words_ne_nil_of_not_blank (by simpa using also) text)
        simp [startsBlank, blank, also, cut]

theorem startsBlank_append_run (blank : IsBlankRun run) (front back : Text) :
    startsBlank (front ++ run ++ back) = (front.isEmpty || startsBlank front) := by
  obtain ⟨c, run, rfl⟩ := List.exists_cons_of_ne_nil blank.1
  have first := blank.2 c (by simp)
  cases front <;> simp [startsBlank, first]

theorem endsBlank_append (nonempty : back ≠ []) (front : Text) :
    endsBlank (front ++ back) = endsBlank back := by
  rw [endsBlank, endsBlank, List.getLast?_append_of_ne_nil front nonempty]

theorem endsBlank_of_run (blank : IsBlankRun run) : endsBlank run = true := by
  rw [endsBlank, List.getLast?_eq_some_getLast blank.1]
  exact blank.2 _ (List.getLast_mem blank.1)

theorem endsBlank_append_run (blank : IsBlankRun run) (front back : Text) :
    endsBlank (front ++ run ++ back) = (back.isEmpty || endsBlank back) := by
  rcases back with _ | ⟨c, back⟩
  · simp [endsBlank_append blank.1, endsBlank_of_run blank]
  · rw [endsBlank_append (List.cons_ne_nil c back)]
    rfl

/-- A blank run may be replaced by any other. -/
theorem pieces_run (first : IsBlankRun run) (second : IsBlankRun other) (front back : Text) :
    pieces (front ++ run ++ back) = pieces (front ++ other ++ back) := by
  simp only [pieces_eq, words_append_run first, words_append_run second,
    startsBlank_append_run first, startsBlank_append_run second, endsBlank_append_run first,
    endsBlank_append_run second, List.append_eq_nil_iff, first.1, second.1]

/-- Without a blank in between, more text goes on with the last piece. -/
theorem exists_pieces_append (solid : ∀ c ∈ back, isBlank c = false) (text : Text) :
    ∃ front last, pieces text = front ++ [last] ∧ pieces (text ++ back) = front ++ [last ++ back] := by
  have starts (text : Text) : startsBlank (text ++ back) = startsBlank text := by
    cases text with
    | cons c text => rfl
    | nil =>
      cases back with
      | nil => rfl
      | cons c back => exact solid c (by simp)
  induction text with
  | nil => exact ⟨[], [], rfl, pieces_of_solid solid⟩
  | cons c text ih =>
    obtain ⟨front, last, before, after⟩ := ih
    rw [List.cons_append, pieces, pieces, starts, before, after]
    by_cases blank : isBlank c = true
    · by_cases also : startsBlank text = true
      · exact ⟨front, last, by simp [blank, also]⟩
      · exact ⟨[] :: front, last, by simp [blank, also]⟩
    · rcases front with _ | ⟨first, front⟩
      · exact ⟨[], c :: last, by simp [blank]⟩
      · exact ⟨(c :: first) :: front, last, by simp [blank]⟩

/-! ### Lines -/

theorem lines_ne_nil (text : Text) : lines text ≠ [] := List.splitOn_ne_nil _ text

theorem lines_of_not_mem (single : .char '\n' ∉ text) : lines text = [text] :=
  List.splitOn_eq_singleton single

theorem lines_cons (c : CodePoint) (text : Text) :
    lines (c :: text) =
      if c = .char '\n' then [] :: lines text else (lines text).modifyHead (c :: ·) := by
  simp [lines, List.splitOn_cons_eq_if_modifyHead]

theorem lines_append_line (front back : Text) :
    lines (front ++ .char '\n' :: back) = lines front ++ lines back :=
  List.splitOn_append_cons_self front back

theorem lines_eq (text : Text) : lines text = (lines text).dropLast ++ [lastLine text] := by
  rw [lastLine, List.getLastD_eq_getLast?, List.getLast?_eq_some_getLast (lines_ne_nil text),
    Option.getD_some, List.dropLast_concat_getLast]

theorem lines_append (front back : Text) : lines (front ++ back) =
    (lines front).dropLast ++ (lastLine front ++ (lines back).headD []) :: (lines back).tail := by
  obtain ⟨next, later, cut⟩ := List.exists_cons_of_ne_nil (lines_ne_nil back)
  simp only [lastLine, cut, List.headD_cons, List.tail_cons]
  induction front with
  | nil => simp [lines_of_not_mem, cut]
  | cons c front ih =>
    obtain ⟨line, rest, split⟩ := List.exists_cons_of_ne_nil (lines_ne_nil front)
    rw [split] at ih
    rw [List.cons_append, lines_cons, lines_cons, ih, split]
    by_cases ends : c = .char '\n'
    · simp [ends]
    · cases rest <;> simp [ends]

/-- Lines in front of it do not change the last line. -/
theorem lastLine_append_line {line : Text} (front : Text) (single : .char '\n' ∉ line) :
    lastLine (front ++ .char '\n' :: line) = line := by
  rw [lastLine, lines_append_line, lines_of_not_mem single, List.getLastD_concat]

theorem feed_not_mem_of_solid (solid : ∀ c ∈ text, isBlank c = false) : .char '\n' ∉ text :=
  fun feed => absurd (solid _ feed) (by decide)

/-- Without a line feed, more text goes on with the last line. -/
theorem lines_append_of_not_mem (sameLine : .char '\n' ∉ back) (front : Text) :
    lines (front ++ back) = (lines front).dropLast ++ [lastLine front ++ back] := by
  rw [lines_append, lines_of_not_mem sameLine, List.headD_cons, List.tail_cons]

theorem lastLine_append_of_not_mem (sameLine : .char '\n' ∉ back) (front : Text) :
    lastLine (front ++ back) = lastLine front ++ back := by
  rw [lastLine, lines_append_of_not_mem sameLine, List.getLastD_concat]

theorem lastLine_of_not_mem (single : .char '\n' ∉ text) : lastLine text = text := by
  rw [lastLine, lines_of_not_mem single]
  rfl

theorem lastLine_eq_rtakeWhile (text : Text) :
    lastLine text = text.rtakeWhile (· != .char '\n') := by
  induction text using List.reverseRecOn with
  | nil => rfl
  | append_singleton text c ih =>
    rw [List.rtakeWhile_concat, ← ih, lastLine, lines_append, lines_cons]
    by_cases ends : c = .char '\n' <;> simp [lines_of_not_mem, ends]

/-! ### Occurrences -/

theorem occursIn_iff {needle : Text} : occursIn needle text = true ↔ needle <:+: text := by
  induction text with
  | nil => simp [occursIn]
  | cons c text ih => simp [occursIn, List.infix_cons_iff, ih]

end KqlCompletion.Text
