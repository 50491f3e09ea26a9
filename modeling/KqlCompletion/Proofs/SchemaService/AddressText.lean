import KqlCompletion.Proofs.Schema.Format
import KqlCompletion.Proofs.SchemaService.Address
import KqlCompletion.Settings

/-! The text of the address that a schema is asked for at. It tells the workspace, since the segment
that a workspace is written as stands between texts that do not depend on it and reads back as the
workspace; and it does not tell how many slashes the configured address ended with. -/
namespace KqlCompletion

open Json (Members)
open Validation (given_eq_ok_iff map3_eq_ok_iff string_str)

namespace SchemaService

variable {apiUrl : String}

/-- An address is its base and the slashes behind it, of which the base has none at its end. -/
theorem exists_withoutTrailingSlashes (apiUrl : String) :
    ∃ slashes, apiUrl = withoutTrailingSlashes apiUrl ++ String.ofList slashes ∧
      (∀ c ∈ slashes, c = '/') ∧
      (withoutTrailingSlashes apiUrl).toList.getLast? ≠ some '/' := by
  refine ⟨apiUrl.toList.rtakeWhile (· == '/'), ?_, fun c member => ?_, ?_⟩
  · rw [withoutTrailingSlashes_eq, ← String.ofList_append, List.rdropWhile_append_rtakeWhile,
      String.ofList_toList]
  · simpa using List.mem_rtakeWhile_imp member
  · rw [withoutTrailingSlashes_eq, String.toList_ofList]
    intro ends
    have nonempty : apiUrl.toList.rdropWhile (· == '/') ≠ [] := by
      intro empty
      rw [empty] at ends
      cases ends
    have last := List.rdropWhile_last_not _ _ nonempty
    rw [List.getLast?_eq_some_getLast nonempty] at ends
    rw [Option.some.inj ends] at last
    exact last rfl

theorem withoutTrailingSlashes_append (apiUrl : String) (n : Nat) :
    withoutTrailingSlashes (apiUrl ++ String.ofList (List.replicate n '/')) =
      withoutTrailingSlashes apiUrl := by
  induction n with
  | zero => simp
  | succ n ih =>
    rw [← ih, withoutTrailingSlashes_eq, withoutTrailingSlashes_eq, String.toList_append,
      String.toList_append, String.toList_ofList, String.toList_ofList, List.replicate_succ',
      ← List.append_assoc, List.rdropWhile_concat_pos _ _ _ rfl]

theorem withoutTrailingSlashes_idem (apiUrl : String) :
    withoutTrailingSlashes (withoutTrailingSlashes apiUrl) = withoutTrailingSlashes apiUrl := by
  rw [withoutTrailingSlashes_eq, withoutTrailingSlashes_eq, String.toList_ofList,
    List.rdropWhile_idempotent]

theorem schemaAddress_congr {other : String}
    (same : withoutTrailingSlashes apiUrl = withoutTrailingSlashes other) (workspace : String) :
    schemaAddress apiUrl workspace = schemaAddress other workspace := by
  rw [schemaAddress_eq, schemaAddress_eq, same]

/-- A segment stands between the same texts for every workspace. -/
theorem schemaAddress_inj {workspace other : String} :
    schemaAddress apiUrl workspace = schemaAddress apiUrl other ↔ workspace = other := by
  refine ⟨fun same => ?_, congrArg _⟩
  rw [schemaAddress_eq, schemaAddress_eq, behind, behind, ← String.toList_inj] at same
  rw [← segment_inj, ← String.toList_inj]
  simpa using same

end SchemaService

/-- Settings that were given an address hold it without the slashes at its end. -/
theorem SchemaApiSettings.url_of_ofFields {fields : Members} {settings : SchemaApiSettings}
    {apiUrl : String} (written : fields.get? "schema_api_url" = some (.str apiUrl))
    (read : ofFields fields = .ok settings) :
    settings.url = SchemaService.withoutTrailingSlashes apiUrl := by
  rw [ofFields, map3_eq_ok_iff] at read
  obtain ⟨url, timeout, _, addressed, -, -, rfl⟩ := read
  rw [given_eq_ok_iff, written] at addressed
  cases addressed with
  | some same =>
    cases (string_str apiUrl).symm.trans same
    rfl

namespace SchemaService

open Text.Percent (Escaped)

/-- The address is its base and the segment of the workspace between fixed texts. The segment is made
of unreserved characters and escapes, and what these escape are the UTF-8 bytes of the workspace; so
no two workspaces are asked for at one address. Slashes at the end of the configured address make no
difference, whether they are there or have been dropped. -/
theorem workspace_is_told_by_address (apiUrl : String) :
    (∃ base slashes, apiUrl = base ++ String.ofList slashes ∧ (∀ c ∈ slashes, c = '/') ∧
      base.toList.getLast? ≠ some '/' ∧
      ∀ workspace, ∃ segment : String,
        schemaAddress apiUrl workspace = base ++ "/workspaces/" ++ segment ++ "/schema" ∧
        Escaped segment.toList ∧
        String.fromUTF8? (Text.Percent.bytes segment.toList).toByteArray = some workspace ∧
        String.ofList (Text.Percent.decode segment.toList) = workspace) ∧
    (∀ workspace other : String,
      schemaAddress apiUrl workspace = schemaAddress apiUrl other ↔ workspace = other) ∧
    (∀ (workspace : String) (n : Nat),
      schemaAddress (apiUrl ++ String.ofList (List.replicate n '/')) workspace =
        schemaAddress apiUrl workspace) ∧
    (∀ workspace : String,
      schemaAddress (withoutTrailingSlashes apiUrl) workspace =
        schemaAddress apiUrl workspace) ∧
    ∀ (fields : Members) (settings : SchemaApiSettings) (workspace : String),
      fields.get? "schema_api_url" = some (.str apiUrl) →
      SchemaApiSettings.ofFields fields = .ok settings →
      schemaAddress settings.url workspace = schemaAddress apiUrl workspace := by
  have dropped (workspace : String) :
      schemaAddress (withoutTrailingSlashes apiUrl) workspace =
        schemaAddress apiUrl workspace :=
    schemaAddress_congr (withoutTrailingSlashes_idem apiUrl) workspace
  refine ⟨?_, fun _ _ => schemaAddress_inj, fun workspace n => ?_, dropped, ?_⟩
  · obtain ⟨slashes, whole, only, last⟩ := exists_withoutTrailingSlashes apiUrl
    refine ⟨withoutTrailingSlashes apiUrl, slashes, whole, only, last, fun workspace => ?_⟩
    refine ⟨segment workspace, rfl, ?_, ?_, decode_segment workspace⟩
    · rw [segment, String.toList_ofList]
      exact .encode workspace.toList
    · rw [segment, String.toList_ofList, Text.Percent.bytes_encode (by decide)]
      exact Text.Utf8.fromUTF8?_encode workspace
  · exact schemaAddress_congr (withoutTrailingSlashes_append apiUrl n) workspace
  · intro fields settings workspace written read
    rw [SchemaApiSettings.url_of_ofFields written read]
    exact dropped workspace

/-- An address with two slashes at its end, read from the settings, and a workspace that looks as if
it were encoded already. -/
theorem encoded_workspace_is_encoded_again :
    let apiUrl := "https://x/api//"
    let fields : Members := [("schema_api_url", .str apiUrl)]
    let settings : SchemaApiSettings := { url := "https://x/api" }
    (fields.get? "schema_api_url" = some (.str apiUrl) ∧
      SchemaApiSettings.ofFields fields = .ok settings) ∧
    schemaAddress settings.url "a%2Fé" = schemaAddress apiUrl "a%2Fé" ∧
    schemaAddress settings.url "a%2Fé" = "https://x/api/workspaces/a%252F%C3%A9/schema" := by
  intro apiUrl fields settings
  have written : fields.get? "schema_api_url" = some (.str apiUrl) := rfl
  have read : SchemaApiSettings.ofFields fields = .ok settings := by
    rw [SchemaApiSettings.ofFields, map3_eq_ok_iff]
    have address : Validation.given fields "schema_api_url" Validation.string = .ok (some apiUrl) :=
      given_eq_ok_iff.2 (.some (string_str apiUrl))
    exact ⟨some apiUrl, none, (), address, rfl, rfl, by decide +kernel⟩
  obtain ⟨-, -, -, -, same⟩ := workspace_is_told_by_address apiUrl
  exact ⟨⟨written, read⟩, same fields settings "a%2Fé" written read, by decide +kernel⟩

end SchemaService
end KqlCompletion
