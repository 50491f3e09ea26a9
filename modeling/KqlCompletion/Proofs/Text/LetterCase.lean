import KqlCompletion.Text.Ascii
import KqlCompletion.Text.LetterCase
import Mathlib.Data.List.TakeWhile

/-! Lowercase, character by character. Only the capital sigma looks around itself, so the lowercase
of a text begins with that of its front unless more text moves such a sigma away from the end of a
word. The two forms of an ASCII letter do the same in every rule. A character beyond ASCII leaves one
in the lowercase, but for the Kelvin sign, which comes to a `k`. -/
namespace KqlCompletion.Text
namespace LetterCase

variable {c : CodePoint} {before text behind : Text}

/-! ### Texts that go on -/

theorem meetsCased_of_ignorable (ignorable : ∀ d ∈ text, isIgnorable d = true) :
    meetsCased text = false := by
  rw [meetsCased, List.dropWhile_eq_nil_iff.2 ignorable]

/-- Case-ignorable characters put off the decision to what comes behind them. -/
theorem meetsCased_append_of_ignorable (ignorable : ∀ d ∈ text, isIgnorable d = true) :
    meetsCased (text ++ behind) = meetsCased behind := by
  rw [meetsCased, List.dropWhile_append, List.dropWhile_eq_nil_iff.2 ignorable]
  rfl

theorem meetsCased_append_of_not_ignorable (meets : ¬ ∀ d ∈ text, isIgnorable d = true) :
    meetsCased (text ++ behind) = meetsCased text := by
  obtain ⟨d, rest, first⟩ := List.exists_cons_of_ne_nil (mt List.dropWhile_eq_nil_iff.1 meets)
  rw [meetsCased, meetsCased, List.dropWhile_append, first]
  rfl

/-- A capital sigma behind a cased character, and from there to the end nothing but case-ignorable
characters. `before` is what stands in front of the text, last character first. -/
def EndsInSigma (before text : Text) : Prop :=
  ∃ front back, text = front ++ .char capitalSigma :: back ∧
    meetsCased (front.reverse ++ before) = true ∧ ∀ d ∈ back, isIgnorable d = true

theorem EndsInSigma.mem (ends : EndsInSigma before text) : .char capitalSigma ∈ text := by
  obtain ⟨front, back, rfl, -⟩ := ends
  simp

theorem not_endsInSigma_nil : ¬ EndsInSigma before [] := fun ends => by simpa using ends.mem

theorem endsInSigma_cons : EndsInSigma before (c :: text) ↔
    (c = .char capitalSigma ∧ meetsCased before = true ∧ ∀ d ∈ text, isIgnorable d = true) ∨
      EndsInSigma (c :: before) text := by
  constructor
  · rintro ⟨front, back, whole, cased, ignorable⟩
    rcases front with _ | ⟨d, front⟩
    · obtain ⟨rfl, rfl⟩ := List.cons.inj whole
      exact .inl ⟨rfl, cased, ignorable⟩
    · obtain ⟨rfl, rfl⟩ := List.cons.inj whole
      exact .inr ⟨front, back, rfl, by simpa using cased, ignorable⟩
  · rintro (⟨rfl, cased, ignorable⟩ | ⟨front, back, rfl, cased, ignorable⟩)
    · exact ⟨[], text, rfl, cased, ignorable⟩
    · exact ⟨c :: front, back, rfl, by simpa using cased, ignorable⟩

/-- What one character adds to the lowercase of a text. -/
def lowerHead (before : Text) (c : CodePoint) (text : Text) : Text :=
  if c == capitalSigma && meetsCased before && !meetsCased text then [.char finalSigma]
  else lowerPoint c

theorem lowerAfter_cons (before : Text) (c : CodePoint) (text : Text) :
    lowerAfter before (c :: text) = lowerHead before c text ++ lowerAfter (c :: before) text := rfl

/-- More text changes the lowercase of a character only if it is a final sigma no longer. -/
theorem lowerHead_append (stays : ¬ (c = .char capitalSigma ∧ meetsCased before = true ∧
    (∀ d ∈ text, isIgnorable d = true) ∧ meetsCased behind = true)) :
    lowerHead before c (text ++ behind) = lowerHead before c text := by
  by_cases ignorable : ∀ d ∈ text, isIgnorable d = true
  · rw [lowerHead, lowerHead, meetsCased_append_of_ignorable ignorable,
      meetsCased_of_ignorable ignorable]
    by_cases sigma : c = .char capitalSigma
    · by_cases cased : meetsCased before = true
      · have ends : meetsCased behind = false :=
          Bool.eq_false_iff.2 fun more => stays ⟨sigma, cased, ignorable, more⟩
        rw [ends]
      · simp [cased]
    · simp [sigma]
  · rw [lowerHead, lowerHead, meetsCased_append_of_not_ignorable ignorable]

theorem lowerHead_append_of_final (cased : meetsCased before = true)
    (ignorable : ∀ d ∈ text, isIgnorable d = true) (more : meetsCased behind = true) :
    lowerHead before capitalSigma text = [.char finalSigma] ∧
      lowerHead before capitalSigma (text ++ behind) = lowerPoint capitalSigma := by
  constructor
  · simp [lowerHead, cased, meetsCased_of_ignorable ignorable]
  · simp [lowerHead, meetsCased_append_of_ignorable ignorable, more]

/-- The lowercase of a text goes on where that of its front ends, unless its front ends in a sigma
that does not end a word in the whole text. -/
theorem lowerAfter_isPrefix_iff (before text behind : Text) :
    lowerAfter before text <+: lowerAfter before (text ++ behind) ↔
      ¬ (EndsInSigma before text ∧ meetsCased behind = true) := by
  induction text generalizing before with
  | nil => simp [lowerAfter, not_endsInSigma_nil]
  | cons c text ih =>
    rw [List.cons_append, lowerAfter_cons, lowerAfter_cons, endsInSigma_cons]
    by_cases moves : c = .char capitalSigma ∧ meetsCased before = true ∧
        (∀ d ∈ text, isIgnorable d = true) ∧ meetsCased behind = true
    · obtain ⟨rfl, cased, ignorable, more⟩ := moves
      obtain ⟨final, inner⟩ := lowerHead_append_of_final cased ignorable more
      have differ : lowerPoint capitalSigma = [.char '\u03C3'] := by decide +kernel
      rw [final, inner, differ]
      refine iff_of_false (fun lead => ?_) (not_not_intro ⟨.inl ⟨rfl, cased, ignorable⟩, more⟩)
      have same := (List.cons_prefix_cons.1 lead).1
      exact absurd same (by decide)
    · rw [lowerHead_append moves, List.prefix_append_right_inj, ih]
      refine not_congr ⟨fun ⟨ends, more⟩ => ⟨.inr ends, more⟩, ?_⟩
      rintro ⟨⟨sigma, cased, ignorable⟩ | ends, more⟩
      · exact absurd ⟨sigma, cased, ignorable, more⟩ moves
      · exact ⟨ends, more⟩

/-! ### ASCII letters -/

theorem toLower_of_not_capital (other : ¬ (0x41 ≤ c.toNat ∧ c.toNat ≤ 0x5A)) : c.toLower = c := by
  cases c with
  | char c => exact congrArg CodePoint.char (dif_neg other)
  | half offset => rfl

theorem toLower_of_capital (capital : 0x41 ≤ c.toNat ∧ c.toNat ≤ 0x5A) :
    isCased c.toLower = isCased c ∧ (c.toLower == capitalSigma) = (c == capitalSigma) ∧
      lowerPoint c.toLower = lowerPoint c ∧ c.toLower.toNat = c.toNat + 0x20 := by
  have all : ∀ code ≤ 0x5A, 0x41 ≤ code → let c := CodePoint.ofNat code
      isCased c.toLower = isCased c ∧ (c.toLower == capitalSigma) = (c == capitalSigma) ∧
        lowerPoint c.toLower = lowerPoint c ∧ c.toLower.toNat = c.toNat + 0x20 := by
    decide +kernel
  have rules := all c.toNat capital.2 capital.1
  rwa [CodePoint.ofNat_toNat] at rules

theorem isIgnorable_of_letter (letter : 0x41 ≤ c.toNat ∧ c.toNat ≤ 0x5A ∨
    0x61 ≤ c.toNat ∧ c.toNat ≤ 0x7A) : isIgnorable c = false := by
  have apart : ∀ range ∈ ignorable,
      range.2 < 0x41 ∨ 0x5A < range.1 ∧ range.2 < 0x61 ∨ 0x7A < range.1 := by decide +kernel
  rw [isIgnorable, inRanges, List.any_eq_false]
  intro range listed
  have apart := apart range listed
  simp only [Bool.and_eq_true, decide_eq_true_iff]
  omega

/-- The two forms of an ASCII letter are both cased, neither is case-ignorable, and they have one
lowercase. -/
theorem rules_toLower (c : CodePoint) : isCased c.toLower = isCased c ∧
    isIgnorable c.toLower = isIgnorable c ∧ (c.toLower == capitalSigma) = (c == capitalSigma) ∧
    lowerPoint c.toLower = lowerPoint c := by
  by_cases capital : 0x41 ≤ c.toNat ∧ c.toNat ≤ 0x5A
  · obtain ⟨cased, sigma, image, code⟩ := toLower_of_capital capital
    have ignorable : isIgnorable c.toLower = isIgnorable c := by
      rw [isIgnorable_of_letter (.inl capital), isIgnorable_of_letter (.inr (by omega))]
    exact ⟨cased, ignorable, sigma, image⟩
  · simp [toLower_of_not_capital capital]

theorem meetsCased_map_toLower (text : Text) :
    meetsCased (text.map CodePoint.toLower) = meetsCased text := by
  have ignorable : isIgnorable ∘ CodePoint.toLower = isIgnorable :=
    funext fun c => (rules_toLower c).2.1
  rw [meetsCased, meetsCased, List.dropWhile_map, ignorable]
  cases text.dropWhile isIgnorable with
  | nil => rfl
  | cons c rest => exact (rules_toLower c).1

theorem lowerAfter_map_toLower (before text : Text) :
    lowerAfter (before.map CodePoint.toLower) (text.map CodePoint.toLower) =
      lowerAfter before text := by
  induction text generalizing before with
  | nil => rfl
  | cons c text ih =>
    obtain ⟨-, -, sigma, image⟩ := rules_toLower c
    rw [List.map_cons, lowerAfter_cons, lowerAfter_cons, ← List.map_cons, ih, lowerHead, lowerHead,
      meetsCased_map_toLower, meetsCased_map_toLower, sigma, image]

theorem lowerPoint_of_ascii (ascii : c.toNat < 0x80) : lowerPoint c = [c.toLower] := by
  cases c with
  | char c => simp [lowerPoint, lowerChar, CodePoint.toLower, show c.toNat < 0x80 from ascii]
  | half offset => rfl

theorem lowerAfter_of_ascii (ascii : ∀ c ∈ text, c.toNat < 0x80) (before : Text) :
    lowerAfter before text = text.map CodePoint.toLower := by
  induction text generalizing before with
  | nil => rfl
  | cons c text ih =>
    obtain ⟨first, others⟩ := List.forall_mem_cons.1 ascii
    have noSigma : c ≠ .char capitalSigma := by
      rintro rfl
      exact absurd first (by decide)
    rw [lowerAfter_cons, ih others, lowerHead, lowerPoint_of_ascii first]
    simp [noSigma]

/-- What stands in front adds its own lowercase in front. -/
theorem exists_lowerAfter_append (before text behind : Text) :
    ∃ lead, lowerAfter before (text ++ behind) = lead ++ lowerAfter (text.reverse ++ before) behind := by
  induction text generalizing before with
  | nil => exact ⟨[], rfl⟩
  | cons c text ih =>
    obtain ⟨lead, rest⟩ := ih (c :: before)
    refine ⟨lowerHead before c (text ++ behind) ++ lead, ?_⟩
    rw [List.cons_append, lowerAfter_cons, rest, List.append_assoc, List.reverse_cons,
      List.append_assoc, List.singleton_append]

/-! ### Characters beyond ASCII -/

/-- Runs beyond ASCII stay there, but for the one with the Kelvin sign. -/
theorem runs_beyond : ∀ run ∈ runs, run.first < 0x80 ∧ run.last < 0x80 ∨
    run.first = 0x212A ∧ run.last = 0x212A ∧ run.shift = -8383 ∨
    0x80 ≤ run.first + run.shift ∧
      (run.last + run.shift < 0xD800 ∨
        0xDFFF < run.first + run.shift ∧ run.last + run.shift < 0x110000) := by
  decide +kernel

theorem image_beyond {c : Char} {run : Run} (listed : run ∈ runs)
    (covers : run.covers c.toNat = true) (beyond : 0x80 ≤ c.toNat) :
    0x80 ≤ (run.image c).toNat ∨ run.image c = 'k' := by
  rw [CodeRun.covers, Bool.and_eq_true, Bool.and_eq_true, decide_eq_true_iff, decide_eq_true_iff]
    at covers
  obtain ⟨⟨atLeast, atMost⟩, -⟩ := covers
  rcases runs_beyond run listed with ⟨_, ascii⟩ | ⟨first, last, shift⟩ | ⟨low, high⟩
  · omega
  · have kelvin : c.toNat = 0x212A := by omega
    right
    rw [Run.image, kelvin, shift]
    decide
  · have valid : (c.toNat + run.shift).toNat.isValidChar := by
      rw [Nat.isValidChar]
      omega
    have code : (run.image c).toNat = (c.toNat + run.shift).toNat := by
      rw [Run.image, Char.ofNat, dif_pos valid]
      rfl
    left
    omega

/-- What is beyond ASCII stays so in lowercase, at least in part, or comes to a `k`. -/
theorem exists_beyond_char {c : Char} (beyond : 0x80 ≤ c.toNat) :
    ∃ d ∈ lowerChar c, 0x80 ≤ d.toNat ∨ d = 'k' := by
  rw [lowerChar, if_neg (Nat.not_lt.2 beyond)]
  split
  · exact ⟨'\u0307', by simp, .inl (by decide)⟩
  · split
    · exact ⟨c, by simp, .inl beyond⟩
    · next run found =>
      have covers : run.covers c.toNat = true := by simpa using List.find?_some found
      exact ⟨run.image c, by simp, image_beyond (List.mem_of_find?_eq_some found) covers beyond⟩

theorem exists_beyond (beyond : 0x80 ≤ c.toNat) :
    ∃ d ∈ lowerPoint c, 0x80 ≤ d.toNat ∨ d = .char 'k' := by
  cases c with
  | char c =>
    obtain ⟨d, image, stays⟩ := exists_beyond_char beyond
    exact ⟨d, List.mem_map_of_mem image, stays.imp id (congrArg CodePoint.char)⟩
  | half offset => exact ⟨.half offset, by simp [lowerPoint], .inl beyond⟩

theorem exists_beyond_of_mem {text : Text} (before : Text) (member : c ∈ text)
    (beyond : 0x80 ≤ c.toNat) : ∃ d ∈ lowerAfter before text, 0x80 ≤ d.toNat ∨ d = .char 'k' := by
  induction text generalizing before with
  | nil => simp at member
  | cons first text ih =>
    rw [lowerAfter_cons]
    rcases List.mem_cons.1 member with rfl | member
    · obtain ⟨d, image, stays⟩ : ∃ d ∈ lowerHead before c text,
          0x80 ≤ d.toNat ∨ d = .char 'k' := by
        rw [lowerHead]
        split
        · exact ⟨finalSigma, by simp, .inl (by decide)⟩
        · exact exists_beyond beyond
      exact ⟨d, List.mem_append_left _ image, stays⟩
    · obtain ⟨d, image, stays⟩ := ih (first :: before) member
      exact ⟨d, List.mem_append_right _ image, stays⟩

end LetterCase

variable {word keyword : Text}

/-- The case of ASCII letters makes no difference to the lowercase, not even around a sigma. -/
theorem lower_asciiLower (text : Text) : lower (asciiLower text) = lower text := by
  rw [lower, lower, asciiLower, ← LetterCase.lowerAfter_map_toLower [] text, List.map_nil]

theorem lower_of_isAscii (ascii : isAscii word = true) : lower word = asciiLower word := by
  simp only [isAscii, List.all_eq_true, decide_eq_true_iff] at ascii
  rw [lower, asciiLower, LetterCase.lowerAfter_of_ascii ascii]

theorem isAscii_asciiLower (word : Text) : isAscii (asciiLower word) = isAscii word := by
  have kept (c : CodePoint) : c.toLower.toNat < 0x80 ↔ c.toNat < 0x80 := by
    by_cases capital : 0x41 ≤ c.toNat ∧ c.toNat ≤ 0x5A
    · have code := (LetterCase.toLower_of_capital capital).2.2.2
      omega
    · rw [LetterCase.toLower_of_not_capital capital]
  simp [isAscii, asciiLower, List.all_map, Function.comp_def, kept]

/-- A word that comes to signs without letters is made of these signs. -/
theorem asciiLower_eq_iff (letterless : ∀ c ∈ keyword,
    ¬ (0x41 ≤ c.toNat ∧ c.toNat ≤ 0x5A ∨ 0x61 ≤ c.toNat ∧ c.toNat ≤ 0x7A)) :
    asciiLower word = keyword ↔ word = keyword := by
  have kept {word : Text} (other : ∀ c ∈ word, ¬ (0x41 ≤ c.toNat ∧ c.toNat ≤ 0x5A)) :
      asciiLower word = word := by
    rw [asciiLower, List.map_congr_left fun c member => LetterCase.toLower_of_not_capital
      (other c member), List.map_id']
  constructor
  · rintro rfl
    refine (kept fun c member capital => ?_).symm
    have image : c.toLower ∈ asciiLower word := List.mem_map_of_mem member
    have code := (LetterCase.toLower_of_capital capital).2.2.2
    exact letterless _ image (.inr (by omega))
  · rintro rfl
    exact kept fun c member capital => letterless c member (.inl capital)

/-- No word with a character beyond ASCII has an ASCII word without `k` as its lowercase. -/
theorem lower_eq_iff (ascii : isAscii keyword = true) (noK : .char 'k' ∉ keyword) :
    lower word = keyword ↔ asciiLower word = keyword := by
  constructor
  · rintro rfl
    refine (lower_of_isAscii ?_).symm
    simp only [isAscii, List.all_eq_true, decide_eq_true_iff] at ascii ⊢
    intro c member
    refine Nat.lt_of_not_le fun beyond => ?_
    obtain ⟨d, image, stays⟩ := LetterCase.exists_beyond_of_mem [] member beyond
    rcases stays with stays | rfl
    · exact absurd (ascii d image) (Nat.not_lt.2 stays)
    · exact noK image
  · rintro rfl
    rw [isAscii_asciiLower] at ascii
    exact lower_of_isAscii ascii

/-- A name in ASCII ends in its own lowercase, whatever stands in front of it. -/
theorem asciiLower_isSuffix_lower (front : Text) (ascii : isAscii word = true) :
    asciiLower word <:+ lower (front ++ word) := by
  simp only [isAscii, List.all_eq_true, decide_eq_true_iff] at ascii
  obtain ⟨lead, whole⟩ := LetterCase.exists_lowerAfter_append [] front word
  refine ⟨lead, ?_⟩
  rw [lower, whole, asciiLower, LetterCase.lowerAfter_of_ascii ascii]

theorem lower_isPrefix_iff (front behind : Text) :
    lower front <+: lower (front ++ behind) ↔
      ¬ (LetterCase.EndsInSigma [] front ∧ LetterCase.meetsCased behind = true) := by
  rw [lower, lower, LetterCase.lowerAfter_isPrefix_iff]

end KqlCompletion.Text
