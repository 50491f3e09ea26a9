import KqlCompletion.Proofs.Url.Path
import KqlCompletion.SchemaService.Load

/-! Where a schema is asked for. The workspace is encoded, so it makes one segment behind the address
of the schema service, whatever characters it has. The two that are nothing but dots stay as they
are, and are resolved as any dots of a path. -/
namespace KqlCompletion.SchemaService

open Text (isAscii)
open Text.Percent (isUnreserved)
open Url (joinSegments resolveDots)

theorem withoutTrailingSlashes_eq (address : String) : withoutTrailingSlashes address =
    String.ofList (address.toList.rdropWhile (· == '/')) := rfl

def segment (workspace : String) : String :=
  String.ofList (Text.Percent.encode isUnreserved workspace.toList)

/-- The path behind the address of the schema service: `.` is dropped, and `..` takes the segment in
front of it away; nothing else does anything but name its own place. -/
def place (workspace : String) : String :=
  if workspace = "." then "/workspaces/schema"
  else if workspace = ".." then "/schema"
  else "/workspaces/" ++ segment workspace ++ "/schema"

section segment

variable {workspace : String} {c : Char}

theorem decode_segment (workspace : String) :
    String.ofList (Text.Percent.decode (segment workspace).toList) = workspace := by
  rw [segment, String.toList_ofList, Text.Percent.decode_encode (by decide), String.ofList_toList]

theorem unreserved_of_mem_segment (member : c ∈ (segment workspace).toList) :
    isUnreserved c = true ∨ c = '%' := by
  rw [segment, String.toList_ofList] at member
  exact Text.Percent.unreserved_of_mem_encode member

theorem segment_inj {other : String} : segment workspace = segment other ↔ workspace = other := by
  constructor
  · intro same
    rw [← decode_segment workspace, same, decode_segment]
  · exact congrArg segment

theorem pathSafe_of_mem_segment (member : c ∈ (segment workspace).toList) :
    Url.pathSafe c = true := by
  rcases unreserved_of_mem_segment member with kept | rfl
  · exact Url.pathSafe_of_isUnreserved kept
  · decide

theorem slash_not_mem_segment (workspace : String) : '/' ∉ (segment workspace).toList := by
  intro member
  rcases unreserved_of_mem_segment member with kept | percent
  · cases kept
  · cases percent

end segment

def behind (workspace : String) : String := "workspaces/" ++ segment workspace ++ "/schema"

theorem slash_behind (workspace : String) :
    "/" ++ behind workspace = "/workspaces/" ++ segment workspace ++ "/schema" := by
  have slash : "/workspaces/" = "/" ++ "workspaces/" := by decide +kernel
  rw [slash, behind]
  simp only [String.append_assoc]

theorem schemaAddress_eq (apiUrl workspace : String) :
    schemaAddress apiUrl workspace =
      withoutTrailingSlashes apiUrl ++ ("/" ++ behind workspace) := by
  show withoutTrailingSlashes apiUrl ++ "/workspaces/" ++ segment workspace ++ "/schema" = _
  rw [slash_behind]
  simp only [String.append_assoc]

theorem splitOn_behind (workspace : String) :
    (behind workspace).toList.splitOn '/' =
      ["workspaces".toList, (segment workspace).toList, "schema".toList] := by
  have written : (behind workspace).toList =
      "workspaces".toList ++ '/' :: ((segment workspace).toList ++ '/' :: "schema".toList) := by
    simp [behind]
  have first : '/' ∉ "workspaces".toList := by simp
  have last : '/' ∉ "schema".toList := by simp
  rw [written, List.splitOn_append_cons_self_of_not_mem first,
    List.splitOn_append_cons_self_of_not_mem (slash_not_mem_segment workspace),
    List.splitOn_eq_singleton last]

/-- The segments behind the address of the schema service once all dots are resolved. -/
def segments (workspace : String) : List String :=
  if workspace = "." then ["workspaces", "schema"]
  else if workspace = ".." then ["schema"]
  else ["workspaces", segment workspace, "schema"]

theorem segment_single : segment "." = "." := by decide +kernel

theorem segment_double : segment ".." = ".." := by decide +kernel

theorem resolveDots_behind (workspace : String) (kept : List (List Char)) :
    resolveDots kept ((behind workspace).toList.splitOn '/') =
      kept.reverse ++ (segments workspace).map String.toList := by
  rw [splitOn_behind, segments]
  -- of all segments only these two are dots, since a segment tells its workspace
  split
  · next single =>
    rw [single, segment_single]
    simp [resolveDots]
  split
  · next double =>
    rw [double, segment_double]
    simp [resolveDots]
  · next single double =>
    rw [← segment_inj, segment_single, ← String.toList_inj] at single
    rw [← segment_inj, segment_double, ← String.toList_inj] at double
    refine Url.resolveDots_of_plain ?_ ?_ kept
    · simpa using Ne.symm single
    · simpa using Ne.symm double

theorem pathSafe_of_mem_behind {workspace : String} {c : Char}
    (member : c ∈ (behind workspace).toList) : Url.pathSafe c = true := by
  have all : ("workspaces/".toList ++ "/schema".toList).all Url.pathSafe = true := by
    decide +kernel
  have plain := List.all_eq_true.1 all
  rw [behind, String.toList_append, String.toList_append, List.append_assoc] at member
  rcases List.mem_append.1 member with front | member
  · exact plain c (List.mem_append_left _ front)
  · rcases List.mem_append.1 member with own | back
    · exact pathSafe_of_mem_segment own
    · exact plain c (List.mem_append_right _ back)

theorem encoded_segments (workspace : String) :
    Url.encoded Url.pathSafe ('/' :: joinSegments ((segments workspace).map String.toList)) =
      place workspace := by
  rw [segments, place]
  split
  · decide +kernel
  split
  · decide +kernel
  · have written : '/' :: joinSegments (["workspaces", segment workspace, "schema"].map
        String.toList) = ("/" ++ behind workspace).toList := by
      simp [joinSegments, behind, List.intercalate]
    rw [written, Url.encoded_of_safe, String.ofList_toList, slash_behind]
    · rw [String.toList_append]
      intro c member
      rcases List.mem_append.1 member with front | own
      · obtain rfl : c = '/' := by simpa using front
        decide
      · exact pathSafe_of_mem_behind own

theorem segments_ne_nil (workspace : String) :
    (segments workspace).map String.toList ≠ [] := by
  rw [segments]
  split
  · exact List.cons_ne_nil _ _
  · split <;> exact List.cons_ne_nil _ _

/-- The address that a schema is asked for at has the path of the address of the schema service, and
the place of the workspace behind it. -/
theorem parse_schemaAddress {apiUrl : String} {base : Url}
    (parsed : Url.parse (withoutTrailingSlashes apiUrl) = .ok base) (plain : base.IsPlain)
    (workspace : String) :
    Url.parse (schemaAddress apiUrl workspace) =
      if (schemaAddress apiUrl workspace).length ≤ Url.lengthLimit then
        .ok { base with path := base.path ++ place workspace }
      else .error .tooLong := by
  rw [schemaAddress_eq, ← encoded_segments]
  exact Url.parse_append parsed plain (fun c => pathSafe_of_mem_behind) (segments_ne_nil workspace)
    (resolveDots_behind workspace)

/-- Without user information in the address, the token is what authorizes. -/
theorem authorization_of_plain {url : Url} (none : url.userinfo = "") (token : Text) :
    authorization url token = "Bearer " ++ token.shown := by
  rw [authorization, none]
  rfl

/-- A request is sent if there is an address, and token and host can be headers. -/
theorem request_load (apiUrl workspace : String) (token : Text) (answer : Answer) :
    (load apiUrl workspace token answer).1 =
      (Url.parse (schemaAddress apiUrl workspace)).toOption.bind fun asked =>
        if isAscii token = true ∧ isAscii asked.hostText = true ∧ asked.shownHost.isOk = true then
          some ⟨asked.text, authorization asked token⟩
        else none := by
  rw [load, request]
  cases Url.parse (schemaAddress apiUrl workspace) with
  | error fault => rfl
  | ok asked =>
    dsimp only [Except.toOption, Option.bind]
    cases header : isAscii token && isAscii asked.hostText with
    | false =>
      rw [if_neg Bool.false_ne_true, if_neg]
      rintro ⟨plainToken, plainHost, -⟩
      rw [plainToken, plainHost] at header
      cases header
    | true =>
      obtain ⟨plainToken, plainHost⟩ := Bool.and_eq_true_iff.1 header
      rw [if_pos rfl]
      cases shown : asked.shownHost with
      | error fault => simp [shown, Except.isOk, Except.toBool]
      | ok name => simp [shown, plainToken, plainHost, Except.isOk, Except.toBool]

/-- For an address of a scheme, a host and a path, every workspace is asked for at the path of that
address without the slashes at its end, and the place of the workspace behind it, with scheme, host
and the number behind it as given. The place holds the workspace as one segment, unless the
workspace is nothing but one dot or two. -/
theorem asks_behind_base {apiUrl : String} {given : Url} (parsed : Url.parse apiUrl = .ok given)
    (web : given.scheme = "http" ∨ given.scheme = "https") (named : given.host ≠ "")
    (userinfo : given.userinfo = "") (query : given.query = none)
    (fragment : given.fragment = none) :
    ∃ base slashes, Url.parse (withoutTrailingSlashes apiUrl) = .ok base ∧
      given = { base with path := base.path ++ slashes } ∧ (∀ c ∈ slashes.toList, c = '/') ∧
      ∀ workspace,
        String.ofList (Text.Percent.decode (segment workspace).toList) = workspace ∧
        (∀ c ∈ (segment workspace).toList, isUnreserved c = true ∨ c = '%') ∧
        ∀ token answer, (load apiUrl workspace token answer).1 =
          if (schemaAddress apiUrl workspace).length ≤ Url.lengthLimit ∧ isAscii token = true ∧
              isAscii base.hostText = true ∧ base.shownHost.isOk = true then
            some ⟨{ base with path := base.path ++ place workspace }.text, "Bearer " ++ token.shown⟩
          else none := by
  have scheme : given.scheme ≠ "" := by
    intro empty
    rw [empty] at web
    exact absurd web (by decide)
  obtain ⟨base, slashes, stripped, same, only⟩ :=
    Url.parse_without_slashes parsed ⟨scheme, named, query, fragment⟩
  subst same
  have plain : base.IsPlain := ⟨scheme, named, query, fragment⟩
  refine ⟨base, slashes, stripped, rfl, only, fun workspace => ?_⟩
  refine ⟨decode_segment workspace, fun c => unreserved_of_mem_segment, fun token answer => ?_⟩
  have authorized : authorization { base with path := base.path ++ place workspace } token =
      "Bearer " ++ token.shown := authorization_of_plain userinfo token
  rw [request_load, parse_schemaAddress stripped plain]
  by_cases short : (schemaAddress apiUrl workspace).length ≤ Url.lengthLimit
  · rw [if_pos short]
    simp only [short, true_and, ← authorized]
    rfl
  · rw [if_neg short, if_neg fun all => short all.1]
    rfl

/-- A slash in a workspace is no slash of the path. -/
theorem slash_stays_in_place :
    (load "https://schema.test/api/" "a/b" "t" (.response 200 [] [])).1 =
      some ⟨"https://schema.test/api/workspaces/a%2Fb/schema", "Bearer t"⟩ := by
  have parsed : Url.parse "https://schema.test/api/" =
      .ok ⟨"https", "", "schema.test", none, "/api/", none, none⟩ := by decide +kernel
  obtain ⟨base, slashes, stripped, -, -, asked⟩ :=
    asks_behind_base parsed (.inr rfl) (by decide) rfl rfl rfl
  have known : Url.parse (withoutTrailingSlashes "https://schema.test/api/") =
      .ok ⟨"https", "", "schema.test", none, "/api", none, none⟩ := by decide +kernel
  obtain rfl := Except.ok.inj (stripped.symm.trans known)
  rw [(asked "a/b").2.2]
  decide +kernel

/-- Two dots lead to a place that is no workspace's. -/
theorem two_dots_lead_out_of_place :
    Url.parse "https://schema.test/api" =
        .ok ⟨"https", "", "schema.test", none, "/api", none, none⟩ ∧
      (load "https://schema.test/api" ".." "t" (.response 200 [] [])).1 =
        some ⟨"https://schema.test/api/schema", "Bearer t"⟩ ∧
      ∀ name : String, "https://schema.test/api/schema" ≠
        "https://schema.test/api/workspaces/" ++ name ++ "/schema" := by
  refine ⟨by decide +kernel, by decide +kernel, ?_⟩
  intro name same
  rw [← String.toList_inj] at same
  simp at same

end KqlCompletion.SchemaService
