import KqlCompletion.Proofs.Query.Keyword
import KqlCompletion.Proofs.Suggestion.Blocks

/-! Stems and letter case. Of the word being typed only its lowercase counts, and of a finished word
too. So the case of ASCII letters makes no difference, and a longer word is offered less, as long as
its lowercase goes on where that of the shorter one ends: a sigma that ends the shorter word, but not
the longer one, has two. -/
namespace KqlCompletion

open Query (Context Position)
open Schema (Table)
open Text (asciiLower isAscii lower)
open Text.LetterCase (EndsInSigma meetsCased)

namespace Provider

variable {first second context : Context} {schema : Schema} {table : Table}

theorem stems_of_lower (same : lower first.currentWord = lower second.currentWord)
    (schema : Option Schema) : stems first schema = stems second schema := by
  rw [stems, stems, same]

theorem stems_sublist (goesOn : (lower first.currentWord) <+:
    (lower second.currentWord)) (schema : Option Schema) :
    (stems second schema).Sublist (stems first schema) := by
  have fits (name : Text) (long : (lower second.currentWord) <+: (lower name)) :
      (lower first.currentWord) <+: (lower name) := goesOn.trans long
  rw [stems_eq, stems_eq]
  refine .append (.append ?keywords ?functions) ?tables
  case keywords =>
    refine .map _ (List.monotone_filter_right _ fun keyword => ?_)
    simpa using fits keyword
  case functions =>
    refine .map _ (List.monotone_filter_right _ fun function => ?_)
    simpa using fits function
  case tables =>
    refine .map _ (List.monotone_filter_right _ fun table => ?_)
    simpa using fits table.name

theorem ofTable_mem_stems_iff (listed : table ∈ schema.tables) :
    Suggestion.ofTable table ∈ stems context (some schema) ↔
      (lower context.currentWord) <+: (lower table.name) := by
  rw [stems_eq]
  constructor
  · intro offered
    rcases List.mem_append.1 offered with catalog | tables
    · rcases List.mem_append.1 catalog with keyword | function
      · obtain ⟨_, -, other⟩ := List.mem_map.1 keyword
        have kind : Suggestion.Kind.keyword = .table := congrArg Suggestion.kind other
        cases kind
      · obtain ⟨_, -, other⟩ := List.mem_map.1 function
        have kind : Suggestion.Kind.function = .table := congrArg Suggestion.kind other
        cases kind
    · obtain ⟨other, kept, same⟩ := List.mem_map.1 tables
      have name : other.name = table.name := congrArg Suggestion.value same
      have fits := (List.mem_filter.1 kept).2
      simpa [name] using fits
  · intro fits
    refine List.mem_append_right _ (List.mem_map_of_mem (List.mem_filter.2 ⟨listed, ?_⟩))
    simpa using fits

/-! ### Longer words -/

/-- A longer word is offered part of what the shorter one was, in the same order, and a table is
offered for a front of its name, unless the shorter word ends in a sigma and the next letter moves
this sigma into the word. In that case both fail. -/
theorem longer_word_narrows_unless_sigma_moves (stem more : Text) (first second : Context) :
    let shorter := { first with currentWord := stem }
    let longer := { second with currentWord := stem ++ more }
    let moves := EndsInSigma [] stem ∧ meetsCased more = true
    ((∀ schema, (stems longer schema).Sublist (stems shorter schema)) ↔ ¬ moves) ∧
    ∀ (schema : Schema) (table : Table), table ∈ schema.tables → table.name = stem ++ more →
      (Suggestion.ofTable table ∈ stems shorter (some schema) ↔ ¬ moves) := by
  intro shorter longer moves
  have goesOn : (lower stem) <+: (lower (stem ++ more)) ↔ ¬ moves :=
    Text.lower_isPrefix_iff stem more
  have offered (schema : Schema) (table : Table) (listed : table ∈ schema.tables)
      (name : table.name = stem ++ more) :
      Suggestion.ofTable table ∈ stems shorter (some schema) ↔ ¬ moves := by
    rw [ofTable_mem_stems_iff listed, name, ← goesOn]
  refine ⟨⟨fun narrows => ?_, fun stays => stems_sublist (goesOn.2 stays)⟩, offered⟩
  -- A table named by the longer word is offered for it, so it was offered before.
  have listed : (⟨stem ++ more, none, none⟩ : Table) ∈ [⟨stem ++ more, none, none⟩] :=
    List.mem_singleton_self _
  refine (offered ⟨[⟨stem ++ more, none, none⟩]⟩ _ listed rfl).1 ((narrows _).mem ?_)
  exact (ofTable_mem_stems_iff listed).2 (List.prefix_refl _)

/-- A table whose name has a sigma inside is offered for what stands in front of it. -/
theorem table_is_offered_before_its_sigma :
    let table : Table := ⟨"ΠΡΟΣΩΠΑ", none, none⟩
    (table ∈ [table] ∧ table.name = "ΠΡΟ" ++ "ΣΩΠΑ") ∧
      Suggestion.ofTable table ∈
        stems { Context.ofText "ΠΡΟ" with currentWord := "ΠΡΟ" } (some ⟨[table]⟩) := by
  intro table
  have listed : table ∈ [table] := List.mem_singleton_self _
  have name : table.name = "ΠΡΟ" ++ "ΣΩΠΑ" := by decide
  have noSigma : .char Text.LetterCase.capitalSigma ∉ Text.of "ΠΡΟ" := by decide
  have narrows := longer_word_narrows_unless_sigma_moves "ΠΡΟ" "ΣΩΠΑ" (Context.ofText "ΠΡΟ")
    (Context.ofText "ΠΡΟΣΩΠΑ")
  exact ⟨⟨listed, name⟩, (narrows.2 ⟨[table]⟩ table listed name).2 fun moves =>
    noSigma moves.1.mem⟩

/-- With its sigma typed the table is gone, and with the letter behind it, it is back. -/
theorem table_is_not_offered_at_its_sigma :
    let table : Table := ⟨"ΠΡΟΣΩΠΑ", none, none⟩
    let offered (word : Text) := stems (Context.ofText word) (some ⟨[table]⟩)
    (Text.of "ΠΡΟΣ" <+: "ΠΡΟΣΩ" ∧ Text.of "ΠΡΟΣΩ" <+: table.name ∧
      table.name.all (!Text.isBlank ·) = true) ∧
    Suggestion.ofTable table ∉ offered "ΠΡΟΣ" ∧ Suggestion.ofTable table ∈ offered "ΠΡΟΣΩ" ∧
    ¬ (offered "ΠΡΟΣΩ").Sublist (offered "ΠΡΟΣ") := by
  intro table offered
  have listed : table ∈ [table] := List.mem_singleton_self _
  have gone : Suggestion.ofTable table ∉ offered "ΠΡΟΣ" := by
    refine mt (ofTable_mem_stems_iff listed).1 ?_
    decide +kernel
  have back : Suggestion.ofTable table ∈ offered "ΠΡΟΣΩ" := by
    refine (ofTable_mem_stems_iff listed).2 ?_
    decide +kernel
  exact ⟨by decide, gone, back, fun narrows => gone (narrows.mem back)⟩

end Provider

/-! ### ASCII letters -/

/-- The case of ASCII letters in the last two words makes no difference, neither to the position nor
to what is offered for a stem. A position behind a keyword is that of an ASCII word which is this
keyword but for the case of its letters. -/
theorem ascii_case_does_not_count :
    (∀ line other current recased previous rewritten : Text,
      Query.isBlankLine line = Query.isBlankLine other →
      asciiLower current = asciiLower recased → asciiLower previous = asciiLower rewritten →
      Query.classify line current previous = Query.classify other recased rewritten) ∧
    (∀ (first second : Context) (schema : Option Schema),
      asciiLower first.currentWord = asciiLower second.currentWord →
      Provider.stems first schema = Provider.stems second schema) ∧
    ∀ line current previous : Text,
      let inside := Query.isBlankLine line = false ∧ Query.isAtPipe current previous = false
      let position := Query.classify line current previous
      (position = .afterColumnKeyword ↔
        inside ∧ asciiLower previous ∈ (["where", "extend", "project"] : List Text)) ∧
      (position = .afterGroupingKeyword ↔
        inside ∧ asciiLower previous ∈ (["by", "on"] : List Text)) ∧
      (position = .afterSummarize ↔ inside ∧ asciiLower previous = "summarize") ∧
      (isAscii previous = false → position = .startOfQuery ∨ position = .generalToken) := by
  refine ⟨?_, fun first second schema same => ?_, fun line current previous => ?_⟩
  · intro line other current recased previous rewritten blank sameCurrent samePrevious
    rw [Query.classify_eq, Query.classify_eq, blank, ← Query.isAtPipe_asciiLower current,
      ← Query.isAtPipe_asciiLower recased, ← Query.afterWord_asciiLower previous,
      ← Query.afterWord_asciiLower rewritten, sameCurrent, samePrevious]
  · refine Provider.stems_of_lower ?_ schema
    rw [← Text.lower_asciiLower, same, Text.lower_asciiLower]
  · obtain ⟨column, grouping, summarize⟩ := Query.classify_by_ascii line current previous
    exact ⟨column, grouping, summarize, fun foreign =>
      Query.classify_of_not_isAscii foreign line current⟩

/-- A recased letter between two sigmas, a keyword in mixed case, and one that is written with a long
s, which is no ASCII letter. -/
theorem recased_between_sigmas :
    (Query.isBlankLine "a" = Query.isBlankLine "a" ∧ asciiLower "ΣaΣ" = asciiLower "ΣAΣ" ∧
      asciiLower "wHeRe" = asciiLower "Where" ∧ isAscii "ſummarize" = false) ∧
      Query.classify "a" "ΣaΣ" "wHeRe" = Query.classify "a" "ΣAΣ" "Where" ∧
      Provider.stems (Context.ofText "ΣaΣ") none = Provider.stems (Context.ofText "ΣAΣ") none ∧
      (Query.classify "a" "" "ſummarize" = .startOfQuery ∨
        Query.classify "a" "" "ſummarize" = .generalToken) := by
  have sigmas : asciiLower "ΣaΣ" = asciiLower "ΣAΣ" := by decide
  have keyword : asciiLower "wHeRe" = asciiLower "Where" := by decide
  have foreign : isAscii "ſummarize" = false := by decide
  have typed : asciiLower (Context.ofText "ΣaΣ").currentWord =
      asciiLower (Context.ofText "ΣAΣ").currentWord := by decide +kernel
  obtain ⟨alike, stems, behind⟩ := ascii_case_does_not_count
  exact ⟨⟨rfl, sigmas, keyword, foreign⟩, alike _ _ _ _ _ _ rfl sigmas keyword,
    stems _ _ none typed, (behind "a" "" "ſummarize").2.2.2 foreign⟩

end KqlCompletion
