import KqlCompletion.Proofs.Suggestion.Blocks

/-! Blanks only divide a text into words: how many there are, which ones they are, how earlier lines
are indented and how lines end makes no difference to what is offered. -/
namespace KqlCompletion

open Query (Context Position firstWords)
open Text (words pieces lines lastLine IsBlankRun)

variable {text other front back run : Text}

/-- Of an earlier line only the first word counts, and a blank line has none. Of the last line all
pieces count. -/
structure Alike (text other : Text) : Prop where
  earlier : (lines text).dropLast.map (fun line => (words line).head?) =
    (lines other).dropLast.map fun line => (words line).head?
  last : pieces (lastLine text) = pieces (lastLine other)

namespace Alike

theorem words_last (alike : Alike text other) : words (lastLine text) = words (lastLine other) := by
  rw [Text.words_eq_filter_pieces, Text.words_eq_filter_pieces, alike.last]

theorem firstWords_eq (alike : Alike text other) : firstWords text = firstWords other := by
  rw [firstWords, firstWords, Text.lines_eq text, Text.lines_eq other, List.map_append,
    List.map_append, alike.earlier, List.map_singleton, List.map_singleton, alike.words_last]

theorem suggest_eq {text other : Text} (alike : Alike text other)
    (schema : Option Schema) : suggest (some text) schema = suggest (some other) schema := by
  have typed : Context.lastWords (lastLine text) =
      Context.lastWords (lastLine other) := by
    rw [Context.lastWords, Context.lastWords, alike.last]
  have current : (Context.ofText text).currentWord = (Context.ofText other).currentWord := by
    rw [Context.currentWord_eq, Context.currentWord_eq, typed]
  have previous : (Context.ofText text).previousWord = (Context.ofText other).previousWord := by
    rw [Context.previousWord_eq, Context.previousWord_eq, typed]
  have pipe : (Context.ofText text).atPipe = (Context.ofText other).atPipe := by
    rw [Context.atPipe, Context.atPipe, current, previous]
  have position : (Context.ofText text).position = (Context.ofText other).position := by
    rw [Context.position_eq, Context.position_eq, alike.words_last, pipe, previous]
  have timely : (Context.ofText text).timeContext = (Context.ofText other).timeContext := by
    rw [Context.timeContext_eq, Context.timeContext_eq, current]
  have source : Query.sourceTable? (some text) schema = Query.sourceTable? (some other) schema := by
    cases schema with
    | none => rfl
    | some schema =>
      show Query.sourceTable text schema = Query.sourceTable other schema
      rw [Query.sourceTable_eq, Query.sourceTable_eq, alike.firstWords_eq]
  rw [suggest_some, suggest_some]
  refine suggestions_congr current previous position timely ?_
  rw [Context.fullText_eq, Context.fullText_eq, source]

end Alike

/-- Texts that agree in all but one line, where a blank run has been replaced. -/
theorem alike_of_lines {earlier later : List Text} {line replaced : Text}
    (first : lines text = earlier ++ line :: later)
    (second : lines other = earlier ++ replaced :: later) (same : pieces line = pieces replaced) :
    Alike text other := by
  have sameWords : words line = words replaced := by
    rw [Text.words_eq_filter_pieces, Text.words_eq_filter_pieces, same]
  rcases later with _ | ⟨next, later⟩
  · constructor
    · simp [first, second]
    · simp [lastLine, first, second, same]
  · constructor
    · simp [first, second, List.dropLast_append_of_ne_nil, sameWords]
    · simp [lastLine, first, second, List.getLast?_cons_cons]

theorem alike_of_run (first : IsBlankRun run) (second : IsBlankRun other)
    (sameLine : .char '\n' ∉ run)
    (alsoSameLine : .char '\n' ∉ other) (front back : Text) :
    Alike (front ++ run ++ back) (front ++ other ++ back) := by
  have split {run : Text} (sameLine : .char '\n' ∉ run) : lines (front ++ run ++ back) =
      (lines front).dropLast ++
        (lastLine front ++ run ++ (lines back).headD []) :: (lines back).tail := by
    have single : lines run = [run] := Text.lines_of_not_mem sameLine
    have last : lastLine run = run := by simp [lastLine, single]
    rw [List.append_assoc, Text.lines_append, Text.lines_append run, last, single]
    simp
  exact alike_of_lines (split sameLine) (split alsoSameLine) (Text.pieces_run first second _ _)

/-- Earlier lines may lose and gain blanks at their ends, as long as no word does. -/
theorem alike_of_words
    (earlier : (lines text).dropLast.map words = (lines other).dropLast.map words)
    (last : lastLine text = lastLine other) : Alike text other := by
  have firsts := congrArg (List.map List.head?) earlier
  rw [List.map_map, List.map_map] at firsts
  exact ⟨firsts, by rw [last]⟩

theorem words_dropWhile (line : Text) : words (line.dropWhile Text.isBlank) = words line := by
  have blank : ∀ c ∈ line.takeWhile Text.isBlank, Text.isBlank c = true :=
    fun c member => List.mem_takeWhile_imp member
  rw [← Text.words_blank_append blank (line.dropWhile Text.isBlank),
    List.takeWhile_append_dropWhile]

/-! ### Line endings -/

def toCrlf (text : Text) : Text :=
  text.flatMap fun c => if c = .char '\n' then [.char '\r', .char '\n'] else [c]

/-- Takes a carriage return away that stands in front of a line feed. -/
def toLf : Text → Text
  | .char '\r' :: .char '\n' :: text => .char '\n' :: toLf text
  | c :: text => c :: toLf text
  | [] => []

theorem lines_toCrlf (text : Text) :
    lines (toCrlf text) = (lines text).dropLast.map (· ++ [.char '\r']) ++ [lastLine text] := by
  induction text with
  | nil => rfl
  | cons c text ih =>
    obtain ⟨line, later, split⟩ := List.exists_cons_of_ne_nil (Text.lines_ne_nil text)
    have cons : toCrlf (c :: text) =
        (if c = .char '\n' then [.char '\r', .char '\n'] else [c]) ++ toCrlf text := rfl
    rw [lastLine] at ih ⊢
    rw [cons]
    by_cases ends : c = .char '\n'
    · simp_all [Text.lines_cons]
    · rcases later with _ | ⟨next, later⟩ <;> simp_all [Text.lines_cons]

def withoutReturn (line : Text) : Text :=
  if line.getLast? = some (.char '\r') then line.dropLast else line

theorem withoutReturn_cons {c : Text.CodePoint} {line : Text}
    (goesOn : line = [] → c ≠ .char '\r') :
    withoutReturn (c :: line) = c :: withoutReturn line := by
  rcases line with _ | ⟨d, line⟩
  · simp [withoutReturn, goesOn rfl]
  · simp only [withoutReturn, List.getLast?_cons_cons, List.dropLast_cons_cons]
    split <;> rfl

theorem lines_toLf (text : Text) :
    lines (toLf text) = (lines text).dropLast.map withoutReturn ++ [lastLine text] := by
  fun_induction toLf text with
  | case1 text ih =>
    obtain ⟨line, later, split⟩ := List.exists_cons_of_ne_nil (Text.lines_ne_nil text)
    rw [lastLine] at ih ⊢
    simp_all [Text.lines_cons, withoutReturn]
  | case2 c text other ih =>
    obtain ⟨line, later, split⟩ := List.exists_cons_of_ne_nil (Text.lines_ne_nil text)
    rw [lastLine] at ih ⊢
    by_cases ends : c = .char '\n'
    · simp_all [Text.lines_cons, withoutReturn]
    · rcases later with _ | ⟨next, later⟩
      · simp_all [Text.lines_cons]
      · have kept : withoutReturn (c :: line) = c :: withoutReturn line := by
          apply withoutReturn_cons
          rintro rfl rfl
          -- The first line is empty and there is another, so a line feed comes next.
          rcases text with _ | ⟨d, text⟩
          · simp [Text.lines_of_not_mem] at split
          · by_cases feed : d = .char '\n'
            · exact other text rfl (by rw [feed])
            · rcases cut : lines text <;> simp_all [Text.lines_cons]
        simp_all [Text.lines_cons]
  | case3 => rfl

theorem words_append_return (line : Text) : words (line ++ [.char '\r']) = words line := by
  have blank : Text.isBlank (.char '\r') = true := by decide
  have between : words ([] ++ line ++ [.char '\r']) = words line :=
    Text.words_between (by simp) (by simp [blank]) line
  exact between

theorem words_withoutReturn (line : Text) : words (withoutReturn line) = words line := by
  rw [withoutReturn]
  split
  · next ends =>
    obtain ⟨front, rfl⟩ := List.getLast?_eq_some_iff.1 ends
    rw [List.dropLast_concat, words_append_return]
  · rfl

theorem alike_toCrlf (text : Text) : Alike (toCrlf text) text := by
  have cut := lines_toCrlf text
  apply alike_of_words
  · rw [cut, List.dropLast_concat, List.map_map]
    exact List.map_congr_left fun line _ => words_append_return line
  · simp [lastLine, cut]

theorem alike_toLf (text : Text) : Alike (toLf text) text := by
  have cut := lines_toLf text
  apply alike_of_words
  · rw [cut, List.dropLast_concat, List.map_map]
    exact List.map_congr_left fun line _ => words_withoutReturn line
  · simp [lastLine, cut]

theorem alike_of_indent
    (earlier : (lines text).dropLast.map (·.dropWhile Text.isBlank) =
      (lines other).dropLast.map (·.dropWhile Text.isBlank))
    (last : lastLine text = lastLine other) : Alike text other := by
  have bare := congrArg (List.map words) earlier
  simp only [List.map_map, Function.comp_def, words_dropWhile] at bare
  exact alike_of_words bare last

/-- Spacing makes no difference: neither within a line, nor in front of earlier lines, nor by the
characters that end a line. -/
theorem suggest_blank_insensitive (schema : Option Schema) :
    (∀ text other : Text, Alike text other →
      suggest (some text) schema = suggest (some other) schema) ∧
    (∀ front run other back : Text, IsBlankRun run → IsBlankRun other →
      .char '\n' ∉ run → .char '\n' ∉ other →
      suggest (some (front ++ run ++ back)) schema =
        suggest (some (front ++ other ++ back)) schema) ∧
    (∀ text other : Text,
      (lines text).dropLast.map (·.dropWhile Text.isBlank) =
        (lines other).dropLast.map (·.dropWhile Text.isBlank) →
      lastLine text = lastLine other →
      suggest (some text) schema = suggest (some other) schema) ∧
    ∀ text : Text,
      suggest (some (toCrlf text)) schema = suggest (some text) schema ∧
      suggest (some (toLf text)) schema = suggest (some text) schema := by
  refine ⟨fun text other alike => alike.suggest_eq schema, ?_, ?_, fun text =>
    ⟨(alike_toCrlf text).suggest_eq schema, (alike_toLf text).suggest_eq schema⟩⟩
  · intro front run other back blank alsoBlank sameLine alsoSameLine
    exact (alike_of_run blank alsoBlank sameLine alsoSameLine front back).suggest_eq schema
  · intro text other earlier last
    exact (alike_of_indent earlier last).suggest_eq schema

/-- A tab and a carriage return around an earlier line, an em space and a line separator within the
last one. -/
theorem suggest_rare_blanks :
    let schema : Option Schema := some ⟨[⟨"Logs", none, some [⟨"Level", none, none⟩]⟩]⟩
    Alike "\tLogs\r\n|\u2003where\u2028" "Logs\n| where " ∧
      suggest (some "\tLogs\r\n|\u2003where\u2028") schema =
        suggest (some "Logs\n| where ") schema := by
  intro schema
  have alike : Alike "\tLogs\r\n|\u2003where\u2028" "Logs\n| where " := by
    constructor <;> decide +kernel
  exact ⟨alike, (suggest_blank_insensitive schema).1 _ _ alike⟩

end KqlCompletion
