import KqlCompletion.Service.Engine

/-! The checks of a load, each said by itself, and the law that the first one to fail decides how
the load ends. `load` asks them one after the other and stops early; here every check can be asked
of every attempt. -/
namespace KqlCompletion.SchemaService

open Text (isAscii)

/-- What a load is given, and the answer that waits for its request. -/
structure Attempt where
  apiUrl : String
  workspace : String
  token : String
  answer : Answer
  deriving DecidableEq, Repr

namespace Answer

def status? : Answer → Option Nat
  | .response status _ _ => some status
  | .failure _ _ => none

def headers : Answer → List (String × String)
  | .response _ headers _ => headers
  | .failure _ _ => []

end Answer

inductive Check where
  | address
  | headerText
  | hostName
  | transport
  | answerText
  | coding
  | redirect
  | status
  | json
  | schema
  deriving DecidableEq, Repr

def Check.all : List Check :=
  [.address, .headerText, .hostName, .transport, .answerText, .coding, .redirect, .status, .json,
    .schema]

namespace Attempt

def request (attempt : Attempt) : Option Request :=
  (load attempt.apiUrl attempt.workspace attempt.token attempt.answer).1

def outcome (attempt : Attempt) : Outcome :=
  (load attempt.apiUrl attempt.workspace attempt.token attempt.answer).2

def asked? (attempt : Attempt) : Option Url :=
  (Url.parse (schemaAddress attempt.apiUrl attempt.workspace)).toOption

def place? (attempt : Attempt) : Option String :=
  attempt.answer.status?.bind fun status => redirectPlace? status attempt.answer.headers

def content? (attempt : Attempt) : Option (List UInt8) :=
  match attempt.answer with
  | .response _ headers body => (decodeBody headers body).toOption
  | .failure _ _ => none

def value? (attempt : Attempt) : Option Json.Value :=
  attempt.content?.bind fun content => (Json.ofBytes content).toOption

def schema? (attempt : Attempt) : Option Schema :=
  attempt.value?.bind fun value => (Schema.ofJson value).toOption

def passes (attempt : Attempt) : Check → Bool
  | .address => attempt.asked?.isSome
  | .headerText => isAscii attempt.token && attempt.asked?.all fun asked => isAscii asked.hostText
  | .hostName => attempt.asked?.all fun asked => asked.shownHost.isOk
  | .transport => attempt.answer.status?.isSome
  | .answerText =>
    attempt.answer.headers.all fun header => isAscii header.1 && isAscii header.2
  | .coding => attempt.content?.isSome
  | .redirect =>
    attempt.asked?.all fun asked => attempt.place?.all fun place => (asked.follow place).isOk
  | .status => attempt.answer.status?.any Status.isSuccess
  | .json => attempt.value?.isSome
  | .schema => attempt.schema?.isSome

def firstFailing? (attempt : Attempt) : Option Check :=
  Check.all.find? fun check => !attempt.passes check

/-- The error that a failed check is reported as. -/
def Reports (attempt : Attempt) : Check → LoadError → Prop
  | .address, .address fault =>
    Url.parse (schemaAddress attempt.apiUrl attempt.workspace) = .error fault
  | .headerText, .headerText => True
  | .transport, .transport kind message =>
    attempt.answer = .failure kind message ∧ isForeign kind = false
  | .answerText, .headerText => True
  | .coding, .coding fault => ∃ status headers body,
    attempt.answer = .response status headers body ∧ decodeBody headers body = .error fault
  | .redirect, .redirect fault => ∃ asked place, attempt.asked? = some asked ∧
    attempt.place? = some place ∧ asked.follow place = .error (.malformed fault)
  | .redirect, .address fault => ∃ asked place, attempt.asked? = some asked ∧
    attempt.place? = some place ∧ asked.follow place = .error (.noAddress fault)
  | .status, .status status url place => ∃ asked headers body, attempt.asked? = some asked ∧
    attempt.answer = .response status headers body ∧ url = asked.text ∧ place = attempt.place?
  | .json, .encoding error => ∃ content, attempt.content? = some content ∧
    Json.ofBytes content = .error (.encoding error)
  | .json, .notJson complaint place => ∃ content, attempt.content? = some content ∧
    Json.ofBytes content = .error (.malformed complaint place)
  | .schema, .notASchema issues => ∃ value found, attempt.value? = some value ∧
    Schema.ofJson value = .error found ∧ issues = found.length
  | _, _ => False

/-- What breaks the load off when a check fails beyond all reports. -/
def Escapes (attempt : Attempt) : Check → Interruption → Prop
  | .hostName, .hostName fault => ∃ asked, attempt.asked? = some asked ∧
    asked.shownHost = .error fault
  | .transport, .transport kind message =>
    attempt.answer = .failure kind message ∧ isForeign kind = true
  | .redirect, .brackets fault => ∃ asked place, attempt.asked? = some asked ∧
    attempt.place? = some place ∧ asked.follow place = .error (.brackets fault)
  | .redirect, .hostName fault => ∃ asked place, attempt.asked? = some asked ∧
    attempt.place? = some place ∧ asked.follow place = .error (.hostName fault)
  | .json, .json limit => ∃ content, attempt.content? = some content ∧
    Json.ofBytes content = .error (.limit limit)
  | _, _ => False

/-- How a load ends, by its first check to fail. -/
inductive Ends (attempt : Attempt) : Option Check → Outcome → Prop where
  | loaded : attempt.schema? = some schema → Ends attempt none (.loaded schema)
  | failed : attempt.Reports check error → Ends attempt (some check) (.failed error)
  | brokenOff : attempt.Escapes check cause → Ends attempt (some check) (.brokenOff cause)

def PassesFirst (attempt : Attempt) (n : Nat) : Prop :=
  ∀ check ∈ Check.all.take n, attempt.passes check = true

theorem passesFirst_zero (attempt : Attempt) : attempt.PassesFirst 0 := by simp [PassesFirst]

theorem PassesFirst.next {attempt : Attempt} {n : Nat} {check : Check}
    (passed : attempt.PassesFirst n) (following : Check.all[n]? = some check)
    (passes : attempt.passes check = true) : attempt.PassesFirst (n + 1) := by
  intro other member
  rw [List.take_add_one, following, List.mem_append] at member
  rcases member with earlier | same
  · exact passed other earlier
  · obtain rfl : other = check := by simpa using same
    exact passes

theorem PassesFirst.firstFailing {attempt : Attempt} {n : Nat} {check : Check}
    (passed : attempt.PassesFirst n) (following : Check.all[n]? = some check)
    (fails : attempt.passes check = false) : attempt.firstFailing? = some check := by
  obtain ⟨bound, same⟩ := List.getElem?_eq_some_iff.1 following
  have before : (Check.all.take n).find? (fun check => !attempt.passes check) = none :=
    List.find?_eq_none.2 fun earlier member => by simp [passed earlier member]
  rw [firstFailing?, ← List.take_append_drop n Check.all, List.find?_append, before,
    List.drop_eq_getElem_cons bound, same]
  simp [fails]

theorem firstFailing?_eq_none_iff {attempt : Attempt} :
    attempt.firstFailing? = none ↔ ∀ check, attempt.passes check = true := by
  have all (check : Check) : check ∈ Check.all := by cases check <;> decide
  simp [firstFailing?, List.find?_eq_none, all]

/-- The body of an answer decides once all else is in order. -/
theorem ends_of_body {attempt : Attempt} {content : List UInt8} (passed : attempt.PassesFirst 8)
    (found : attempt.content? = some content) (judged : attempt.outcome = judgeBody content) :
    attempt.Ends attempt.firstFailing? attempt.outcome := by
  rw [judged, judgeBody]
  cases read : Json.ofBytes content with
  | error failure =>
    have fails : attempt.passes .json = false := by
      simp [passes, value?, found, read, Except.toOption]
    rw [passed.firstFailing rfl fails]
    cases failure with
    | encoding error => exact .failed ⟨content, found, read⟩
    | malformed complaint place => exact .failed ⟨content, found, read⟩
    | limit limit => exact .brokenOff ⟨content, found, read⟩
  | ok value =>
    have isValue : attempt.value? = some value := by simp [value?, found, read, Except.toOption]
    have passed := passed.next rfl (show attempt.passes .json = true by simp [passes, isValue])
    cases valid : Schema.ofJson value with
    | error issues =>
      have fails : attempt.passes .schema = false := by
        simp [passes, schema?, isValue, valid, Except.toOption]
      rw [passed.firstFailing rfl fails]
      simp only [valid]
      exact .failed ⟨value, issues, isValue, valid, rfl⟩
    | ok schema =>
      have isSchema : attempt.schema? = some schema := by
        simp [schema?, isValue, valid, Except.toOption]
      have passed := passed.next rfl (show attempt.passes .schema = true by simp [passes, isSchema])
      have none : attempt.firstFailing? = none :=
        firstFailing?_eq_none_iff.2 fun check => passed check (by cases check <;> decide)
      rw [none]
      simp only [valid]
      exact .loaded isSchema

/-- The status of an answer decides about its body, unless the place that it names is none. -/
theorem ends_of_status {attempt : Attempt} {asked : Url} {status : Nat}
    {headers : List (String × String)} {body content : List UInt8}
    (passed : attempt.PassesFirst 6) (parsed : attempt.asked? = some asked)
    (answered : attempt.answer = .response status headers body)
    (found : attempt.content? = some content)
    (judged : attempt.outcome = judgeStatus asked status headers content) :
    attempt.Ends attempt.firstFailing? attempt.outcome := by
  have named : redirectPlace? status headers = attempt.place? := by
    simp [place?, answered, Answer.status?, Answer.headers]
  have coded : attempt.answer.status? = some status := by simp [answered, Answer.status?]
  rw [judgeStatus, named] at judged
  have reached (redirect : attempt.passes .redirect = true)
      (judged : attempt.outcome = if Status.isSuccess status then judgeBody content
        else .failed (.status status asked.text attempt.place?)) :
      attempt.Ends attempt.firstFailing? attempt.outcome := by
    have passed := passed.next rfl redirect
    cases success : Status.isSuccess status with
    | true =>
      rw [if_pos success] at judged
      have status : attempt.passes .status = true := by simp [passes, coded, success]
      exact ends_of_body (passed.next rfl status) found judged
    | false =>
      rw [if_neg (by simp [success])] at judged
      have fails : attempt.passes .status = false := by simp [passes, coded, success]
      rw [passed.firstFailing rfl fails, judged]
      exact .failed ⟨asked, headers, body, parsed, answered, rfl, rfl⟩
  cases place : attempt.place? with
  | none => exact reached (by simp [passes, parsed, place]) (by simpa [place] using judged)
  | some written =>
    cases followed : asked.follow written with
    | ok target =>
      exact reached (by simp [passes, parsed, place, followed, Except.isOk, Except.toBool])
        (by simpa [place, followed] using judged)
    | error fault =>
      have fails : attempt.passes .redirect = false := by
        simp [passes, parsed, place, followed, Except.isOk, Except.toBool]
      have judged : attempt.outcome = unreachable fault := by simpa [place, followed] using judged
      rw [passed.firstFailing rfl fails, judged]
      cases fault with
      | malformed fault => exact .failed ⟨asked, written, parsed, place, followed⟩
      | noAddress fault => exact .failed ⟨asked, written, parsed, place, followed⟩
      | brackets fault => exact .brokenOff ⟨asked, written, parsed, place, followed⟩
      | hostName fault => exact .brokenOff ⟨asked, written, parsed, place, followed⟩

/-- Once a request can be sent, its answer decides. -/
theorem ends_of_answer {attempt : Attempt} {asked : Url} (passed : attempt.PassesFirst 3)
    (parsed : attempt.asked? = some asked) (judged : attempt.outcome = judge asked attempt.answer) :
    attempt.Ends attempt.firstFailing? attempt.outcome := by
  cases answered : attempt.answer with
  | failure kind message =>
    have fails : attempt.passes .transport = false := by simp [passes, answered, Answer.status?]
    rw [passed.firstFailing rfl fails, judged, answered, judge]
    cases foreign : isForeign kind with
    | true => exact .brokenOff ⟨answered, foreign⟩
    | false => exact .failed ⟨answered, foreign⟩
  | response status headers body =>
    have transport : attempt.passes .transport = true := by simp [passes, answered, Answer.status?]
    have passed := passed.next rfl transport
    rw [answered, judge] at judged
    cases texts : headers.all fun header => isAscii header.1 && isAscii header.2 with
    | false =>
      have fails : attempt.passes .answerText = false := by
        simpa [passes, answered, Answer.headers] using texts
      rw [passed.firstFailing rfl fails, judged, texts]
      exact .failed trivial
    | true =>
      have answerText : attempt.passes .answerText = true := by
        simpa [passes, answered, Answer.headers] using texts
      have passed := passed.next rfl answerText
      rw [texts, if_pos rfl] at judged
      cases undone : decodeBody headers body with
      | error fault =>
        have fails : attempt.passes .coding = false := by
          simp [passes, content?, answered, undone, Except.toOption]
        rw [passed.firstFailing rfl fails, judged, undone]
        exact .failed ⟨status, headers, body, answered, undone⟩
      | ok content =>
        have found : attempt.content? = some content := by
          simp [content?, answered, undone, Except.toOption]
        simp only [undone] at judged
        have coding : attempt.passes .coding = true := by simp [passes, found]
        exact ends_of_status (passed.next rfl coding) parsed answered found judged

/-- Every load ends as its first check to fail has it. -/
theorem ends (attempt : Attempt) : attempt.Ends attempt.firstFailing? attempt.outcome := by
  have passed := attempt.passesFirst_zero
  cases parsed : Url.parse (schemaAddress attempt.apiUrl attempt.workspace) with
  | error fault =>
    have fails : attempt.passes .address = false := by
      simp [passes, asked?, parsed, Except.toOption]
    rw [passed.firstFailing rfl fails, outcome, load, SchemaService.request, parsed]
    exact .failed parsed
  | ok asked =>
    have found : attempt.asked? = some asked := by simp [asked?, parsed, Except.toOption]
    have address : attempt.passes .address = true := by simp [passes, found]
    have passed := passed.next rfl address
    cases texts : isAscii attempt.token && isAscii asked.hostText with
    | false =>
      have fails : attempt.passes .headerText = false := by simpa [passes, found] using texts
      have ended : attempt.outcome = .failed .headerText := by
        simp [outcome, load, SchemaService.request, parsed, texts]
      rw [passed.firstFailing rfl fails, ended]
      exact .failed trivial
    | true =>
      have headerText : attempt.passes .headerText = true := by simpa [passes, found] using texts
      have passed := passed.next rfl headerText
      cases shown : asked.shownHost with
      | error fault =>
        have fails : attempt.passes .hostName = false := by
          simp [passes, found, shown, Except.isOk, Except.toBool]
        have ended : attempt.outcome = .brokenOff (.hostName fault) := by
          simp [outcome, load, SchemaService.request, parsed, texts, shown]
        rw [passed.firstFailing rfl fails, ended]
        exact .brokenOff ⟨asked, found, shown⟩
      | ok host =>
        have hostName : attempt.passes .hostName = true := by
          simp [passes, found, shown, Except.isOk, Except.toBool]
        have judged : attempt.outcome = judge asked attempt.answer := by
          simp [outcome, load, SchemaService.request, parsed, texts, shown]
        exact ends_of_answer (passed.next rfl hostName) found judged

theorem loaded_iff {attempt : Attempt} {schema : Schema} :
    attempt.outcome = .loaded schema ↔
      (∀ check, attempt.passes check = true) ∧ attempt.schema? = some schema := by
  have ended := attempt.ends
  rw [← firstFailing?_eq_none_iff]
  constructor
  · intro loaded
    rw [loaded] at ended
    cases first : attempt.firstFailing? with
    | none => rw [first] at ended; cases ended with | loaded found => exact ⟨rfl, found⟩
    | some check => rw [first] at ended; cases ended
  · rintro ⟨first, found⟩
    rw [first] at ended
    cases outcome : attempt.outcome with
    | loaded other =>
      rw [outcome] at ended
      cases ended with | loaded same => rw [Option.some.inj (same.symm.trans found)]
    | failed error => rw [outcome] at ended; cases ended
    | brokenOff cause => rw [outcome] at ended; cases ended

/-- A request is sent exactly if there is an address, texts that fit into headers, and a host name
to ask; there is never a second one. -/
theorem isSome_request (attempt : Attempt) : attempt.request.isSome =
    (attempt.passes .address && attempt.passes .headerText && attempt.passes .hostName) := by
  cases parsed : Url.parse (schemaAddress attempt.apiUrl attempt.workspace) with
  | error fault =>
    simp [request, load, SchemaService.request, parsed, passes, asked?, Except.toOption]
  | ok asked =>
    have found : attempt.asked? = some asked := by simp [asked?, parsed, Except.toOption]
    cases texts : isAscii attempt.token && isAscii asked.hostText <;>
      cases shown : asked.shownHost <;>
      simp [request, load, SchemaService.request, parsed, texts, shown, passes, found, Except.isOk,
        Except.toBool]

theorem content?_of_uncoded {attempt : Attempt} {status : Nat} {headers : List (String × String)}
    {body : List UInt8} (answered : attempt.answer = .response status headers body)
    (uncoded : header? headers "content-encoding" = none) : attempt.content? = some body := by
  have none : codings headers = [] := by rw [codings, uncoded]; rfl
  simp [content?, answered, decodeBody, none, pure, Except.pure, Except.toOption]

/-- How the message about a failed check begins. -/
def headings (attempt : Attempt) : Check → List String
  | .address => ["InvalidURL: "]
  | .headerText | .answerText => ["invalid token: "]
  | .hostName => []
  | .transport =>
    match attempt.answer with
    | .failure kind _ => [kind ++ ": "]
    | .response _ _ _ => []
  | .coding => ["DecodingError: "]
  | .redirect => ["RemoteProtocolError: ", "InvalidURL: "]
  | .status => ["HTTPStatusError: "]
  | .json => ["invalid JSON: "]
  | .schema => ["malformed schema body: "]

theorem heading_of_reports {attempt : Attempt} {check : Check} {error : LoadError}
    (reported : attempt.Reports check error) :
    ∃ heading ∈ attempt.headings check, ∃ rest, error.message = heading ++ rest := by
  cases check <;> cases error <;> try exact False.elim reported
  case transport.transport kind message =>
    exact ⟨kind ++ ": ", by simp [headings, reported.1], message, rfl⟩
  case redirect.redirect fault => exact ⟨_, .head _, _, rfl⟩
  case redirect.address fault => exact ⟨_, .tail _ (.head _), _, rfl⟩
  case schema.notASchema issues =>
    exact ⟨_, .head _, toString issues ++ " error(s)", String.append_assoc ..⟩
  case headerText.headerText => exact ⟨_, .head _, "header values must be ASCII", by decide⟩
  case answerText.headerText => exact ⟨_, .head _, "header values must be ASCII", by decide⟩
  all_goals exact ⟨_, .head _, _, rfl⟩

/-- A load that passes every check installs its schema, and no other load touches what is held. A
failed load notes the first check that did not pass. Without codings the content is the body. -/
theorem completed_by_first_failing_check (attempt : Attempt) (engine : Engine) :
    let after := engine.complete attempt.workspace attempt.outcome
    ((∃ schema, attempt.outcome = .loaded schema) ↔
      ∀ check, attempt.passes check = true) ∧
    (∀ schema, attempt.outcome = .loaded schema →
      attempt.schema? = some schema ∧ after = ⟨some ⟨attempt.workspace, schema⟩, none⟩) ∧
    ((¬ ∃ schema, attempt.outcome = .loaded schema) → after.holding = engine.holding) ∧
    (∀ error, attempt.outcome = .failed error → after.lastError = some error ∧
      ∃ check, attempt.firstFailing? = some check ∧ attempt.Reports check error ∧
        ∃ heading ∈ attempt.headings check, ∃ rest, error.message = heading ++ rest) ∧
    (∀ status headers body, attempt.answer = .response status headers body →
      header? headers "content-encoding" = none → attempt.content? = some body) ∧
    attempt.request.isSome =
      (attempt.passes .address && attempt.passes .headerText && attempt.passes .hostName) := by
  intro after
  refine ⟨?_, ?_, ?_, ?_, fun _ _ _ => content?_of_uncoded, attempt.isSome_request⟩
  · constructor
    · rintro ⟨schema, loaded⟩
      exact (loaded_iff.1 loaded).1
    · intro passed
      obtain ⟨schema, found⟩ := Option.isSome_iff_exists.1 (passed .schema)
      exact ⟨schema, loaded_iff.2 ⟨passed, found⟩⟩
  · intro schema loaded
    exact ⟨(loaded_iff.1 loaded).2, by simp [after, loaded, Engine.complete]⟩
  · intro unloaded
    cases outcome : attempt.outcome with
    | loaded schema => exact absurd ⟨schema, outcome⟩ unloaded
    | failed error => simp [after, outcome, Engine.complete]
    | brokenOff cause => simp [after, outcome, Engine.complete]
  · intro error failed
    have ended := attempt.ends
    refine ⟨by simp [after, failed, Engine.complete], ?_⟩
    rw [failed] at ended
    cases first : attempt.firstFailing? with
    | none => rw [first] at ended; cases ended
    | some check =>
      rw [first] at ended
      cases ended with
      | failed reported => exact ⟨check, rfl, reported, heading_of_reports reported⟩

/-- The status alone is refused here, yet the error is the one of a refused address: it is the
place named by the redirect that is none. -/
theorem redirect_noted_before_status :
    let attempt : Attempt :=
      ⟨"https://schema.test/api", "w", "tok", .response 301 [("location", "http:foo")] []⟩
    (∀ check ∈ [Check.address, .headerText, .transport], attempt.passes check = true) ∧
    attempt.passes .status = false ∧
    ((Engine.complete "w" attempt.outcome {}).lastError.map LoadError.message =
      some "InvalidURL: For absolute URLs, path must be empty or begin with '/'") := by
  decide +kernel

end Attempt
end KqlCompletion.SchemaService
