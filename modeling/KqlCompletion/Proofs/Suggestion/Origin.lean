import KqlCompletion.Suggestion.Provider

/-! Where suggestions come from. Each is made of a word in a catalog, of a table of the schema held
or of a column of such a table. -/
namespace KqlCompletion

open Query (Context)
open Schema (Table Column)

/-- What a suggestion is made of. -/
inductive Suggestion.Origin (held : Option Schema) : Suggestion → Prop
  | table {schema : Schema} {table : Table} (there : schema ∈ held)
    (listed : table ∈ schema.tables) : Origin held (.ofTable table)
  | column {schema : Schema} {table : Table} {column : Column} (detailed : Bool)
    (there : schema ∈ held) (listed : table ∈ schema.tables) (among : column ∈ table.columns) :
    Origin held (.ofColumn detailed column)
  | operator {word : Text} (listed : word ∈ Catalog.operators) : Origin held (.ofOperator word)
  | keyword {word : Text} (listed : word ∈ Catalog.keywords) : Origin held (.ofKeyword word)
  | function {word : Text} (listed : word ∈ Catalog.functions) :
    Origin held (.ofFunction "KQL function" word)
  | aggregation {word : Text} (listed : word ∈ Catalog.aggregations) :
    Origin held (.ofFunction "Aggregation function" word)
  | timeRange {word : Text} (listed : word ∈ Catalog.timeRanges) : Origin held (.ofTimeRange word)

variable {held : Option Schema} {context : Context} {suggestion : Suggestion}

theorem Query.mem_of_sourceTable? {text : Text} {table : Table}
    (found : sourceTable? (some text) held = some table) :
    ∃ schema ∈ held, table ∈ schema.tables := by
  rw [sourceTable?, Option.bind_some] at found
  obtain ⟨schema, there, found⟩ := Option.bind_eq_some_iff.1 found
  obtain ⟨line, -, named⟩ := List.exists_of_findSome?_eq_some found
  obtain ⟨word, -, listed⟩ := Option.bind_eq_some_iff.1 named
  exact ⟨schema, there, List.mem_of_find?_eq_some listed⟩

theorem Suggestion.Origin.of_tables {table : Table}
    (listed : table ∈ held.elim [] Schema.tables) : Origin held (.ofTable table) := by
  cases held with
  | none => cases listed
  | some schema => exact .table rfl listed

theorem Provider.origin_of_mem_run {provider : Provider}
    (offered : suggestion ∈ provider.run context held) : suggestion.Origin held := by
  cases provider with
  | table =>
    rw [run, tables] at offered
    split at offered
    · cases offered
    · obtain ⟨table, listed, rfl⟩ := List.mem_map.1 offered
      exact .of_tables listed
  | operator =>
    rw [run, operators] at offered
    split at offered
    · obtain ⟨word, listed, rfl⟩ := List.mem_map.1 offered
      exact .operator listed
    · cases offered
  | column =>
    rw [run, columns] at offered
    split at offered
    · cases offered
    · next table found =>
      obtain ⟨schema, there, listed⟩ := Query.mem_of_sourceTable? found
      obtain ⟨column, among, rfl⟩ := List.mem_map.1 offered
      exact .column _ there listed among
  | aggregation =>
    obtain ⟨word, listed, rfl⟩ := List.mem_map.1 offered
    exact .aggregation listed
  | stem =>
    rw [run, stems, List.mem_append, List.mem_append] at offered
    obtain (keyword | function) | table := offered
    · obtain ⟨word, listed, rfl⟩ := List.mem_map.1 keyword
      exact .keyword (List.mem_filter.1 listed).1
    · obtain ⟨word, listed, rfl⟩ := List.mem_map.1 function
      exact .function (List.mem_filter.1 listed).1
    · obtain ⟨table, listed, rfl⟩ := List.mem_map.1 table
      exact .of_tables (List.mem_filter.1 listed).1
  | timeRange =>
    rw [run, timeRanges] at offered
    split at offered
    · obtain ⟨word, listed, rfl⟩ := List.mem_map.1 offered
      exact .timeRange listed
    · cases offered

theorem origin_of_mem_suggest {text : Option Text} (offered : suggestion ∈ suggest text held) :
    suggestion.Origin held := by
  rw [suggest, Context.suggestions] at offered
  obtain provided | range := List.mem_append.1 offered
  · obtain ⟨provider, -, run⟩ := List.mem_flatMap.1 provided
    exact Provider.origin_of_mem_run run
  · have run : suggestion ∈ Provider.timeRange.run (.of? text) held := range
    exact Provider.origin_of_mem_run run

end KqlCompletion
