import KqlCompletion.Proofs.Http.Observation
import Mathlib.Data.Finset.Card

/-! The paths under which requests are counted. A request whose path some route has is counted under
the pattern of a route, whatever its method. One whose path no route has is counted under its own
path, also where it is only sent on to a route: these paths are as many as clients like. -/
namespace KqlCompletion

def Tally.labels {Label : Type} (tally : Tally Label) : List Label := tally.map (·.1)

theorem Tally.mem_labels_bump {Label : Type} [DecidableEq Label] {label other : Label}
    {tally : Tally Label} :
    other ∈ labels (bump label tally) ↔ other = label ∨ other ∈ labels tally := by
  induction tally with
  | nil => simp [bump, labels]
  | cons entry tally ih =>
    rw [bump]
    split
    · next same => simp [labels, same]
    · rw [labels, List.map_cons, List.mem_cons, ← labels, ih, labels, labels, List.map_cons,
        List.mem_cons, or_left_comm]

namespace Http

open SchemaService (Answer)

def Traffic.paths (traffic : Traffic) : List String :=
  traffic.requests.labels.map (·.2.1) ++ traffic.durations.labels.map (·.2)

theorem Traffic.mem_paths_observe {method path other : String} {status : Nat} {traffic : Traffic} :
    other ∈ (traffic.observe method path status).paths ↔ other = path ∨ other ∈ traffic.paths := by
  simp only [paths, observe, List.mem_append, List.mem_map, Tally.mem_labels_bump]
  constructor
  · rintro (⟨_, rfl | member, rfl⟩ | ⟨_, rfl | member, rfl⟩)
    · exact .inl rfl
    · exact .inr (.inl ⟨_, member, rfl⟩)
    · exact .inl rfl
    · exact .inr (.inr ⟨_, member, rfl⟩)
  · rintro (rfl | ⟨label, member, rfl⟩ | ⟨label, member, rfl⟩)
    · exact .inl ⟨_, .inl rfl, rfl⟩
    · exact .inl ⟨label, .inr member, rfl⟩
    · exact .inr ⟨label, .inr member, rfl⟩

def patterns : List String := routes.map Route.pattern

/-- Some route has the path of the request, for whatever method. -/
def Request.isKnown (request : Request) : Bool := Http.isKnown request.location.1

theorem isKnown_eq_false_iff {path : String} : isKnown path = false ↔
    (routes.filterMap fun route => (route.parameters? path).map (route, ·)) = [] := by
  simp [isKnown]

theorem find_of_unknown (method : String) {path : String} (unknown : isKnown path = false) :
    find method path = .unknown ∨ ∃ other, find method path = .redirect other := by
  rw [isKnown_eq_false_iff] at unknown
  rw [find, unknown]
  dsimp only [List.find?_nil]
  split
  · exact .inr ⟨_, rfl⟩
  · exact .inl rfl

theorem label_of_unknown {request : Request} (unknown : request.isKnown = false) :
    request.label = request.ownPath := by
  rw [Request.label]
  rcases find_of_unknown request.method unknown with found | ⟨other, found⟩ <;>
    rw [found, Finding.label]

theorem label_mem_patterns {request : Request} (known : request.isKnown = true) :
    request.label ∈ patterns := by
  have some := mt isKnown_eq_false_iff.2 (ne_of_eq_of_ne known (by decide))
  have listed : ∀ candidate ∈ routes.filterMap fun route =>
      (route.parameters? request.location.1).map (route, ·), candidate.1.pattern ∈ patterns := by
    intro candidate member
    obtain ⟨route, isListed, matched⟩ := List.mem_filterMap.1 member
    obtain ⟨_, _, rfl⟩ := Option.map_eq_some_iff.1 matched
    exact List.mem_map_of_mem isListed
  rw [Request.label, find]
  generalize (routes.filterMap fun route =>
    (route.parameters? request.location.1).map (route, ·)) = candidates at some listed
  dsimp only
  split
  · next first => exact listed _ (List.mem_of_find?_eq_some first)
  · rcases candidates with _ | ⟨candidate, candidates⟩
    · exact absurd rfl some
    · exact listed candidate List.mem_cons_self

/-- A request, a name for it if it has none, and what the schema service answers if it is asked. -/
structure Exchange where
  fresh : String
  request : Request
  answer : Answer

namespace App

variable {app : App} {exchange : Exchange} {exchanges : List Exchange} {path : String}

def serve (app : App) (exchange : Exchange) : App :=
  (app.handle exchange.fresh exchange.request exchange.answer).1

def serveAll (app : App) (exchanges : List Exchange) : App := exchanges.foldl serve app

@[simp] theorem serveAll_cons :
    app.serveAll (exchange :: exchanges) = (app.serve exchange).serveAll exchanges := rfl

/-- One request is counted under its label, or not at all. -/
theorem traffic_serve (app : App) (exchange : Exchange) :
    (app.serve exchange).traffic = app.traffic ∨ ∃ status, (app.serve exchange).traffic =
      app.traffic.observe exchange.request.method exchange.request.label status := by
  obtain ⟨fresh, request, answer⟩ := exchange
  rw [serve]
  by_cases preflight : Cors.isPreflight request = true
  · rw [handle, if_pos preflight]
    exact .inl rfl
  · rw [handle_of_not_isPreflight (by simpa using preflight)]
    dsimp only
    by_cases broken : (app.observe fresh request answer).2.1.status = 500
    · exact .inl (traffic_observe_of_status_eq broken)
    · rw [(observed_of_status_ne broken).counted]
      split
      · exact .inr ⟨_, rfl⟩
      · exact .inl rfl

theorem settings_serve : (app.serve exchange).settings = app.settings := by
  have spec := app.handle_spec exchange.fresh exchange.request exchange.answer
  split at spec
  · rw [serve, spec]
  · rw [serve, spec.1, settings_observe]

theorem label_of_mem_paths_serve (member : path ∈ (app.serve exchange).traffic.paths) :
    path ∈ app.traffic.paths ∨ path = exchange.request.label := by
  rcases app.traffic_serve exchange with same | ⟨status, counted⟩
  · rw [same] at member
    exact .inl member
  · rw [counted, Traffic.mem_paths_observe] at member
    exact member.symm

theorem paths_subset_serve : app.traffic.paths ⊆ (app.serve exchange).traffic.paths := by
  rcases app.traffic_serve exchange with same | ⟨status, counted⟩
  · rw [same]
    exact List.Subset.refl _
  · rw [counted]
    exact fun path member => Traffic.mem_paths_observe.2 (.inr member)

/-- Nothing can go wrong with a request that no route is for, so it is always counted. -/
theorem ownPath_mem_paths_serve (enabled : app.settings.metricsEnabled = true)
    (real : Cors.isPreflight exchange.request = false)
    (unknown : exchange.request.isKnown = false) :
    exchange.request.ownPath ∈ (app.serve exchange).traffic.paths := by
  obtain ⟨fresh, request, answer⟩ := exchange
  have unbroken : (app.observe fresh request answer).2.1.status ≠ 500 := by
    rw [Ne, status_observe_eq_iff]
    dsimp only [respond]
    rcases find_of_unknown request.method unknown with found | ⟨other, found⟩ <;>
      simp [found, App.answer]
  rw [serve, handle_of_not_isPreflight real]
  dsimp only
  rw [(observed_of_status_ne unbroken).counted, if_pos enabled, label_of_unknown unknown]
  exact Traffic.mem_paths_observe.2 (.inl rfl)

theorem label_of_mem_paths_serveAll (member : path ∈ (app.serveAll exchanges).traffic.paths) :
    path ∈ app.traffic.paths ∨ ∃ exchange ∈ exchanges, path = exchange.request.label := by
  induction exchanges generalizing app with
  | nil => exact .inl member
  | cons exchange exchanges ih =>
    rw [serveAll_cons] at member
    rcases ih member with earlier | ⟨other, isLater, same⟩
    · rcases label_of_mem_paths_serve earlier with before | now
      · exact .inl before
      · exact .inr ⟨exchange, List.mem_cons_self, now⟩
    · exact .inr ⟨other, List.mem_cons_of_mem exchange isLater, same⟩

theorem paths_subset_serveAll : app.traffic.paths ⊆ (app.serveAll exchanges).traffic.paths := by
  induction exchanges generalizing app with
  | nil => exact List.Subset.refl _
  | cons exchange exchanges ih => exact List.Subset.trans paths_subset_serve ih

theorem ownPath_mem_paths_serveAll (enabled : app.settings.metricsEnabled = true)
    (served : exchange ∈ exchanges) (real : Cors.isPreflight exchange.request = false)
    (unknown : exchange.request.isKnown = false) :
    exchange.request.ownPath ∈ (app.serveAll exchanges).traffic.paths := by
  induction exchanges generalizing app with
  | nil => cases served
  | cons other exchanges ih =>
    rcases List.mem_cons.1 served with rfl | later
    · rw [serveAll_cons]
      exact paths_subset_serveAll (ownPath_mem_paths_serve enabled real unknown)
    · rw [serveAll_cons]
      exact ih (by rw [settings_serve, enabled]) later

end App

/-! ### Addresses with a slash too many -/

def slashedPath (workspace : String) : String :=
  "/api/v1/workspaces/" ++ workspace ++ "/suggestions/"

theorem toList_slashedPath (workspace : String) : (slashedPath workspace).toList =
    "/api/v1/workspaces/".toList ++ (workspace.toList ++ "/suggestions/".toList) := by
  have joined (front back : String) : (front ++ workspace ++ back).toList =
      front.toList ++ (workspace.toList ++ back.toList) := by
    simp
  exact joined _ _

theorem slashedPath_injective : Function.Injective slashedPath := by
  intro workspace other same
  have texts := congrArg String.toList same
  rw [toList_slashedPath, toList_slashedPath] at texts
  exact String.toList_inj.1 (List.append_cancel_right (List.append_cancel_left texts))

theorem splitOn_segments {segments : List (List Char)}
    (single : ∀ segment ∈ segments, '/' ∉ segment) :
    (segments.flatMap ('/' :: ·)).splitOn '/' = [] :: segments := by
  induction segments with
  | nil => rfl
  | cons segment segments ih =>
    rw [List.forall_mem_cons] at single
    have later := ih single.2
    rcases segments with _ | ⟨next, segments⟩
    · simp [List.splitOn_cons_eq_if_modifyHead, List.splitOn_eq_singleton single.1]
    · simp_all [List.splitOn_cons_eq_if_modifyHead,
        List.splitOn_append_cons_self_of_not_mem single.1]

theorem splitOn_slashedPath {workspace : String} (single : '/' ∉ workspace.toList) :
    (slashedPath workspace).toList.splitOn '/' = [] :: ["api".toList, "v1".toList,
      "workspaces".toList, workspace.toList, "suggestions".toList, []] := by
  have front : "/api/v1/workspaces/".toList =
      ["api".toList, "v1".toList, "workspaces".toList].flatMap ('/' :: ·) ++ ['/'] := by
    decide +kernel
  have back : "/suggestions/".toList = ["suggestions".toList, []].flatMap ('/' :: ·) := by
    decide +kernel
  have plain : ∀ segment ∈ ["api".toList, "v1".toList, "workspaces".toList, workspace.toList,
      "suggestions".toList, []], '/' ∉ segment := by
    simp [single]
  rw [← splitOn_segments plain, toList_slashedPath, front, back]
  simp

theorem isKnown_slashedPath {workspace : String} (single : '/' ∉ workspace.toList) :
    isKnown (slashedPath workspace) = false := by
  simp [isKnown, routes, Route.parameters?, splitOn_slashedPath single, matchSegments, workspaces,
    workspaceId]

def slashedRequest (url : Url) (workspace : String) : Request :=
  ⟨"POST", { url with path := slashedPath workspace }, [], []⟩

/-- The workspace needs no encoding in an address. -/
def IsPlainName (workspace : String) : Prop :=
  ∀ c ∈ workspace.toList, Text.Percent.isUnreserved c = true

def standsForItself (c : Char) : Bool := Text.Percent.isUnreserved c || c == '/'

theorem standsForItself_of_mem_slashedPath {workspace : String} (plain : IsPlainName workspace) :
    ∀ c ∈ (slashedPath workspace).toList, standsForItself c = true := by
  have front : "/api/v1/workspaces/".toList.all standsForItself = true := by decide +kernel
  have back : "/suggestions/".toList.all standsForItself = true := by decide +kernel
  rw [List.all_eq_true] at front back
  intro c member
  rw [toList_slashedPath, List.mem_append, List.mem_append] at member
  rcases member with first | inner | last
  · exact front c first
  · rw [standsForItself, plain c inner, Bool.true_or]
  · exact back c last

theorem location_slashedRequest (url : Url) {workspace : String} (plain : IsPlainName workspace) :
    (slashedRequest url workspace).location.1 = slashedPath workspace := by
  have kept := Text.Percent.encode_of_kept (standsForItself_of_mem_slashedPath plain)
  have decoded : Text.Percent.decode (slashedPath workspace).toList =
      (slashedPath workspace).toList := by
    conv_lhs => rw [← kept]
    exact Text.Percent.decode_encode (by decide) _
  have nonempty : slashedPath workspace ≠ "" := by
    intro empty
    have texts := congrArg String.toList empty
    rw [toList_slashedPath] at texts
    exact absurd (List.append_eq_nil_iff.1 texts).1 (by decide +kernel)
  simp [Request.location, slashedRequest, decoded, nonempty]

theorem ownPath_slashedRequest (url : Url) {workspace : String} (plain : IsPlainName workspace) :
    (slashedRequest url workspace).ownPath = slashedPath workspace := by
  have inPath (c : Char) (itself : standsForItself c = true) :
      (c != '?' && c != '#' && c != '\\') = true ∧
        (c != '\t' && c != '\n' && c != '\r') = true := by
    simp only [Bool.and_eq_true, bne_iff_ne]
    refine ⟨⟨⟨?_, ?_⟩, ?_⟩, ⟨?_, ?_⟩, ?_⟩ <;> rintro rfl <;> exact absurd itself (by decide)
  have characters := standsForItself_of_mem_slashedPath plain
  have escaped : escapedPath (slashedPath workspace).toList = (slashedPath workspace).toList :=
    Text.Percent.encode_of_kept fun c member => (inPath c (characters c member)).1
  rw [Request.ownPath, location_slashedRequest url plain, escaped,
    List.filter_eq_self.2 fun c member => (inPath c (characters c member)).2, String.ofList_toList]

namespace App

variable {app : App}

/-- As many workspaces, as many paths. -/
theorem length_le_card_paths (enabled : app.settings.metricsEnabled = true) (fresh : String)
    (url : Url) (answer : Answer) {workspaces : List String} (distinct : workspaces.Nodup)
    (plain : ∀ workspace ∈ workspaces, IsPlainName workspace) :
    workspaces.length ≤ (app.serveAll (workspaces.map fun workspace =>
      ⟨fresh, slashedRequest url workspace, answer⟩)).traffic.paths.toFinset.card := by
  rw [← List.toFinset_card_of_nodup distinct,
    ← Finset.card_image_of_injective workspaces.toFinset slashedPath_injective]
  apply Finset.card_le_card
  intro path member
  obtain ⟨workspace, listed, rfl⟩ := Finset.mem_image.1 member
  rw [List.mem_toFinset] at listed ⊢
  have unreserved := plain workspace listed
  have single : '/' ∉ workspace.toList := fun slash =>
    absurd (unreserved '/' slash) (by decide)
  have unknown : (slashedRequest url workspace).isKnown = false := by
    rw [Request.isKnown, location_slashedRequest url unreserved, isKnown_slashedPath single]
  have real : Cors.isPreflight (slashedRequest url workspace) = false := rfl
  have served : (⟨fresh, slashedRequest url workspace, answer⟩ : Exchange) ∈
      workspaces.map fun workspace => ⟨fresh, slashedRequest url workspace, answer⟩ :=
    List.mem_map_of_mem listed
  have counted := ownPath_mem_paths_serveAll enabled served real unknown
  dsimp only at counted
  rwa [ownPath_slashedRequest url unreserved] at counted

/-- Requests are counted under the patterns of routes and under the paths that no route has, and
under each of these, so there is no bound to them. -/
theorem paths_follow_requests (app : App) :
    (∀ exchanges : List Exchange, ∀ path ∈ (app.serveAll exchanges).traffic.paths,
      path ∈ app.traffic.paths ∨ path ∈ patterns ∨
        ∃ exchange ∈ exchanges, exchange.request.isKnown = false ∧
          path = exchange.request.ownPath) ∧
    (app.settings.metricsEnabled = true → ∀ exchanges : List Exchange, ∀ exchange ∈ exchanges,
      Cors.isPreflight exchange.request = false → exchange.request.isKnown = false →
      exchange.request.ownPath ∈ (app.serveAll exchanges).traffic.paths) ∧
    (app.settings.metricsEnabled = true → ∀ (fresh : String) (url : Url) (answer : Answer)
      (workspaces : List String), workspaces.Nodup →
      (∀ workspace ∈ workspaces, IsPlainName workspace) →
      workspaces.length ≤ (app.serveAll (workspaces.map fun workspace =>
        ⟨fresh, slashedRequest url workspace, answer⟩)).traffic.paths.toFinset.card) := by
  refine ⟨?_, ?_, ?_⟩
  · intro exchanges path member
    rcases label_of_mem_paths_serveAll member with before | ⟨exchange, served, same⟩
    · exact .inl before
    · rw [same]
      cases known : exchange.request.isKnown with
      | true => exact .inr (.inl (label_mem_patterns known))
      | false => exact .inr (.inr ⟨exchange, served, known, label_of_unknown known⟩)
  · intro enabled exchanges exchange served real unknown
    exact ownPath_mem_paths_serveAll enabled served real unknown
  · intro enabled fresh url answer workspaces distinct plain
    exact length_le_card_paths enabled fresh url answer distinct plain

theorem two_workspaces_two_paths :
    let app : App := { settings := {}, service := { store := { capacity := 100 } } }
    let ask (workspace : String) : Exchange :=
      ⟨"fresh", slashedRequest ⟨"http", "", "h", none, "", none, none⟩ workspace,
        .failure "ReadTimeout" ""⟩
    app.settings.metricsEnabled = true ∧ ["w1", "w2"].Nodup ∧
      2 ≤ (app.serveAll (["w1", "w2"].map ask)).traffic.paths.toFinset.card := by
  intro app ask
  have distinct : ["w1", "w2"].Nodup := by decide
  have plain : ["w1", "w2"].all (·.toList.all Text.Percent.isUnreserved) = true := by decide
  refine ⟨rfl, distinct, ?_⟩
  apply (paths_follow_requests app).2.2 rfl _ _ _ ["w1", "w2"] distinct
  simpa only [IsPlainName, List.all_eq_true] using plain

/-- A workspace gets into the path under which a request is counted. -/
theorem slash_at_end_keeps_workspace :
    let app : App := { settings := {}, service := { store := { capacity := 100 } } }
    let request := slashedRequest ⟨"http", "", "h", none, "", none, none⟩ "w1"
    let after := app.serve ⟨"fresh", request, .failure "ReadTimeout" ""⟩
    start? {} = some (app, [.startup "http://localhost:7071/api" 100]) ∧
      after.traffic.paths = ["/api/v1/workspaces/w1/suggestions/",
        "/api/v1/workspaces/w1/suggestions/"] ∧
      "/api/v1/workspaces/w1/suggestions/" ∉ patterns := by
  decide +kernel

end App
end Http
end KqlCompletion
