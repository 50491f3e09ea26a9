import KqlCompletion.Text.CodePoint

/-! Blank characters, and text cut into pieces: at blank runs, into words, or at line ends. A piece
never holds the character it was cut at. -/
namespace KqlCompletion.Text

/-- The characters with the Unicode property White_Space, and the four separators
U+001C to U+001F. Zero-width characters are not blank. -/
def isBlank (c : CodePoint) : Bool :=
  let n := c.toNat
  (0x09 ≤ n && n ≤ 0x0D) || (0x1C ≤ n && n ≤ 0x20) || n == 0x85 || n == 0xA0 || n == 0x1680 ||
    (0x2000 ≤ n && n ≤ 0x200A) || n == 0x2028 || n == 0x2029 || n == 0x202F || n == 0x205F ||
    n == 0x3000

def dropEnd (p : α → Bool) (text : List α) : List α := (text.reverse.dropWhile p).reverse

def trim (p : α → Bool) (text : List α) : List α := dropEnd p (text.dropWhile p)

def strip (text : Text) : Text := trim isBlank text

def startsBlank : Text → Bool
  | [] => false
  | c :: _ => isBlank c

/-- What stands between blank runs. A blank at the start (at the end) leaves an empty first
(last) piece; no other piece is empty, unless the text is. -/
def pieces : Text → List Text
  | [] => [[]]
  | c :: text =>
    if isBlank c then
      if startsBlank text then pieces text else [] :: pieces text
    else
      match pieces text with
      | [] => [[c]]
      | piece :: rest => (c :: piece) :: rest

theorem pieces_ne_nil (text : Text) : pieces text ≠ [] := by
  fun_induction pieces text <;> simp_all

theorem not_blank_of_mem_pieces {text piece : Text} (h : piece ∈ pieces text) :
    ∀ c ∈ piece, isBlank c = false := by
  fun_induction pieces text generalizing piece with
  | case1 => simp_all
  | case2 c text blank starts ih => exact ih h
  | case3 c text blank starts ih =>
    rcases List.mem_cons.1 h with rfl | h
    · simp
    · exact ih h
  | case4 c text notBlank empty ih => exact absurd empty (pieces_ne_nil text)
  | case5 c text notBlank first rest heq ih =>
    rcases List.mem_cons.1 h with rfl | h
    · have := @ih first (by simp [heq])
      simp_all
    · exact ih (by simp [heq, h])

theorem head?_pieces (text : Text) :
    (pieces text).head? = some (text.takeWhile (!isBlank ·)) := by
  fun_induction pieces text with
  | case1 => rfl
  | case2 c text blank starts ih =>
    cases text <;> simp_all [startsBlank]
  | case3 c text blank starts ih => simp [blank]
  | case4 c text notBlank empty ih => exact absurd empty (pieces_ne_nil text)
  | case5 c text notBlank first rest heq ih => simp_all

def words : Text → List Text
  | [] => []
  | c :: text =>
    if isBlank c then words text
    else if text.isEmpty || startsBlank text then [c] :: words text
    else
      match words text with
      | [] => [[c]]
      | word :: rest => (c :: word) :: rest

/-- Words are the pieces that are not empty. -/
theorem words_eq_filter_pieces (text : Text) :
    words text = (pieces text).filter (!·.isEmpty) := by
  induction text with
  | nil => rfl
  | cons c text ih =>
    have first := head?_pieces text
    obtain ⟨piece, rest, h⟩ := List.exists_cons_of_ne_nil (pieces_ne_nil text)
    by_cases blank : isBlank c
    · simp only [words, pieces, blank, ite_true, ih]
      split <;> simp
    · simp only [words, pieces, blank, h]
      cases text with
      | nil => simp_all [pieces, words]
      | cons d text => by_cases also : isBlank d <;> simp_all [startsBlank]

/-- Lines end at a line feed only: a carriage return stays in its line. -/
def lines (text : Text) : List Text := text.splitOn '\n'

def lastLine (text : Text) : Text := (lines text).getLastD []

def occursIn [BEq α] (needle : List α) : List α → Bool
  | [] => needle.isEmpty
  | c :: text => needle.isPrefixOf (c :: text) || occursIn needle text

end KqlCompletion.Text
