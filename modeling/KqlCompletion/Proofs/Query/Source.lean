import KqlCompletion.Proofs.Query.Analysis

/-! Which line of a query tells the table that it reads from: the first one whose first word is the
name of a table, and among tables of one name the first. Reading goes on from line to line, so the
table of a text is that of its front, or of the rest if the front names none. -/
namespace KqlCompletion

open Schema (Table)

namespace Schema

variable {schema : Schema} {name : Text} {table : Table}

/-- The table is listed, and none in front of it has its name. -/
def IsFirst (schema : Schema) (table : Table) : Prop :=
  ∃ front back, schema.tables = front ++ table :: back ∧ ∀ other ∈ front, other.name ≠ table.name

theorem findTable_eq_some_iff :
    schema.findTable name = some table ↔ table.name = name ∧ schema.IsFirst table := by
  rw [findTable, List.find?_eq_some_iff_append, beq_iff_eq]
  refine and_congr_right fun same => ?_
  simp [IsFirst, same]

theorem findTable_eq_none_iff :
    schema.findTable name = none ↔ ∀ table ∈ schema.tables, table.name ≠ name := by
  simp [findTable]

end Schema

namespace Query

open Text (words lines strip)

variable {schema : Schema} {line word : Text} {table : Table}

/-- A line that is looked at: it is not blank, no comment, and does not go on with a pipe. -/
structure IsStatement (line : Text) : Prop where
  nonempty : strip line ≠ []
  noComment : ¬ Text.of "//" <+: strip line
  noPipe : ¬ pipe <+: strip line

def Opens (name : Text) (line : Text) : Prop :=
  IsStatement line ∧ (words (strip line)).head? = some name

theorem isStatement_iff : IsStatement line ↔ ¬ ((strip line).isEmpty ||
    (Text.of "//").isPrefixOf (strip line) || pipe.isPrefixOf (strip line)) = true := by
  rw [Bool.or_eq_true, Bool.or_eq_true, List.isEmpty_iff, List.isPrefixOf_iff_prefix,
    List.isPrefixOf_iff_prefix, not_or, not_or]
  constructor
  · rintro ⟨nonempty, noComment, noPipe⟩
    exact ⟨⟨nonempty, noComment⟩, noPipe⟩
  · rintro ⟨⟨nonempty, noComment⟩, noPipe⟩
    exact ⟨nonempty, noComment, noPipe⟩

theorem sourceWord?_eq_some_iff : sourceWord? line = some word ↔
    IsStatement line ∧ (words (strip line)).head? = some word := by
  rw [sourceWord?, isStatement_iff]
  split
  · next skipped => exact iff_of_false (Option.some_ne_none word).symm fun seen => seen.1 skipped
  · next seen => exact (and_iff_right seen).symm

theorem lineTable?_eq_some_iff : lineTable? schema line = some table ↔
    schema.IsFirst table ∧ Opens table.name line := by
  simp only [lineTable?, Option.bind_eq_some_iff, sourceWord?_eq_some_iff,
    Schema.findTable_eq_some_iff, Opens]
  constructor
  · rintro ⟨word, ⟨statement, first⟩, same, isFirst⟩
    exact ⟨isFirst, statement, by simpa [same] using first⟩
  · rintro ⟨isFirst, statement, first⟩
    exact ⟨_, ⟨statement, first⟩, by simp, isFirst⟩

theorem lineTable?_eq_none_iff : lineTable? schema line = none ↔
    ∀ table ∈ schema.tables, ¬ Opens table.name line := by
  simp only [lineTable?, Option.bind_eq_none_iff, sourceWord?_eq_some_iff,
    Schema.findTable_eq_none_iff, Opens]
  constructor
  · rintro unnamed table listed ⟨statement, first⟩
    exact unnamed _ ⟨statement, first⟩ table listed (by simp)
  · rintro unopened word ⟨statement, first⟩ table listed same
    exact unopened table listed ⟨statement, by simpa [same] using first⟩

/-! ### Reading on -/

/-- Reads line by line and takes the first word of every line that is looked at. Nothing comes of it
at all if such a line has no word. -/
def scan (schema : Schema) : List Text → Option (Option Table)
  | [] => some none
  | line :: lines =>
    let stripped := strip line
    if stripped.isEmpty || (Text.of "//").isPrefixOf stripped || pipe.isPrefixOf stripped then
      scan schema lines
    else
      match words stripped with
      | [] => none
      | word :: _ =>
        match schema.findTable word with
        | some table => some (some table)
        | none => scan schema lines

/-- What is left of a line without the blanks around it starts with a word: both mean the same
blanks. -/
theorem words_ne_nil_of_isStatement (statement : IsStatement line) : words (strip line) ≠ [] := by
  rw [Text.words_strip, ne_eq, ← Text.strip_eq_nil_iff]
  exact statement.nonempty

theorem scan_eq (schema : Schema) (lines : List Text) :
    scan schema lines = some (lines.findSome? (lineTable? schema)) := by
  induction lines with
  | nil => rfl
  | cons line lines ih =>
    rw [scan, List.findSome?_cons, lineTable?, sourceWord?]
    split
    · exact ih
    · next seen =>
      obtain ⟨word, rest, cut⟩ := List.exists_cons_of_ne_nil
        (words_ne_nil_of_isStatement (isStatement_iff.2 seen))
      rw [cut, List.head?_cons, Option.bind_some]
      dsimp only
      split
      · next table found => rw [found]
      · next missing => rw [missing, ih]

theorem sourceTable_append (front back : Text) (schema : Schema) :
    sourceTable (front ++ Text.of "\n" ++ back) schema =
      (sourceTable front schema).or (sourceTable back schema) := by
  have cut : lines (front ++ Text.of "\n" ++ back) = lines front ++ lines back := by
    rw [List.append_assoc]
    exact Text.lines_append_line front back
  rw [sourceTable, cut, List.findSome?_append]
  rfl

/-! ### Names that resolve -/

/-- A name that can be the first word of a line that is looked at. -/
structure IsNameable (name : Text) : Prop where
  nonempty : name ≠ []
  solid : ∀ c ∈ name, Text.isBlank c = false
  noComment : ¬ Text.of "//" <+: name
  noPipe : ¬ pipe <+: name

theorem IsNameable.of_opens {name : Text} (opens : Opens name line) : IsNameable name := by
  obtain ⟨statement, first⟩ := opens
  have member : name ∈ words (strip line) := List.mem_of_head? first
  have lead : name <+: strip line := by
    rw [Text.head?_words (Text.startsBlank_strip line), if_neg statement.nonempty] at first
    rw [← Option.some.inj first]
    exact List.takeWhile_prefix _
  refine ⟨?_, Text.not_blank_of_mem_words member,
    fun comment => statement.noComment (comment.trans lead),
    fun pipe => statement.noPipe (pipe.trans lead)⟩
  rintro rfl
  exact Text.ne_nil_of_mem_words member rfl

theorem IsNameable.opens {name : Text} (nameable : IsNameable name) : Opens name name := by
  have nonempty : name ≠ [] := by simpa using nameable.nonempty
  have bare := Text.strip_of_solid nameable.solid
  refine ⟨⟨?_, ?_, ?_⟩, ?_⟩
  · rwa [bare]
  · rw [bare]
    exact nameable.noComment
  · rw [bare]
    exact nameable.noPipe
  · rw [bare, Text.words_of_solid nameable.solid nonempty, List.head?_cons]

/-- A text that is a table's name alone reads from this table, if it can be read as its name at all
and no other table is found first. -/
theorem sourceTable_name_iff :
    sourceTable table.name schema = some table ↔ IsNameable table.name ∧ schema.IsFirst table := by
  constructor
  · intro found
    obtain ⟨_, line, _, _, here, _⟩ := List.findSome?_eq_some_iff.1 found
    obtain ⟨isFirst, opens⟩ := lineTable?_eq_some_iff.1 here
    exact ⟨.of_opens opens, isFirst⟩
  · rintro ⟨nameable, isFirst⟩
    have single : lines table.name = [table.name] := by
      refine Text.lines_of_not_mem fun feed => ?_
      exact absurd (nameable.solid _ feed) (by decide)
    rw [sourceTable, single, List.findSome?_singleton]
    exact lineTable?_eq_some_iff.2 ⟨isFirst, nameable.opens⟩

/-- The table of a text is the one of the first line that is looked at and whose first word is the
name of a table. No line that is looked at is without a first word, so reading never breaks off. -/
theorem first_line_to_name_a_table_decides (schema : Schema) :
    (∀ text : Text, scan schema (lines text) =
      some (sourceTable? (some text) (some schema))) ∧
    (∀ (text : Text) (table : Table), sourceTable? (some text) (some schema) = some table ↔
      schema.IsFirst table ∧ ∃ earlier line later,
        lines text = earlier ++ line :: later ∧ Opens table.name line ∧
          ∀ before ∈ earlier, ∀ other ∈ schema.tables, ¬ Opens other.name before) ∧
    (∀ text : Text, sourceTable? (some text) (some schema) = none ↔
      ∀ line ∈ lines text, ∀ table ∈ schema.tables, ¬ Opens table.name line) ∧
    (∀ text : Option Text, sourceTable? text none = none) ∧
    (∀ held : Option Schema, sourceTable? none held = none) ∧
    ∀ (front back : Text) (held : Option Schema),
      sourceTable? (some (front ++ Text.of "\n" ++ back)) held =
        (sourceTable? (some front) held).or (sourceTable? (some back) held) := by
  have held (text : Text) : sourceTable? (some text) (some schema) = sourceTable text schema := rfl
  have without (text : Option Text) : sourceTable? text none = none := by cases text <;> rfl
  refine ⟨fun text => scan_eq schema _, ?_, ?_, without, fun _ => rfl, ?_⟩
  · intro text table
    simp only [held, sourceTable, List.findSome?_eq_some_iff, lineTable?_eq_some_iff,
      lineTable?_eq_none_iff]
    constructor
    · rintro ⟨earlier, line, later, whole, ⟨isFirst, opens⟩, others⟩
      exact ⟨isFirst, earlier, line, later, whole, opens, others⟩
    · rintro ⟨isFirst, earlier, line, later, whole, opens, others⟩
      exact ⟨earlier, line, later, whole, ⟨isFirst, opens⟩, others⟩
  · intro text
    simp only [held, sourceTable, List.findSome?_eq_none_iff, lineTable?_eq_none_iff]
  · intro front back held
    cases held with
    | none => simp only [without, Option.or_none]
    | some schema => exact sourceTable_append front back schema

end Query
end KqlCompletion
