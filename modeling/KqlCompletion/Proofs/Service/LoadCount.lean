import KqlCompletion.Proofs.Json.Limit
import KqlCompletion.Proofs.SchemaService.Checks
import KqlCompletion.Service.Basic

/-! Which loads come to an end at all, and what is counted of them. A load that is broken off is
neither a success nor a failure, and no count knows of it. -/
namespace KqlCompletion

namespace SchemaService

/-- What a load tells its caller; nothing if it is broken off. -/
def Outcome.returned? : Outcome → Option Bool
  | .loaded _ => some true
  | .failed _ => some false
  | .brokenOff _ => none

namespace Attempt

variable {attempt : Attempt} {check : Check} {error : LoadError} {cause : Interruption}

theorem escapes_excludes_reports (escaped : attempt.Escapes check cause)
    (reported : attempt.Reports check error) : False := by
  cases check <;> cases cause <;> try exact escaped
  case hostName.hostName => cases error <;> exact reported
  case transport.transport =>
    cases error <;> try exact reported
    simp_all [Reports, Escapes]
  case json.json =>
    obtain ⟨content, found, read⟩ := escaped
    cases error <;> try exact reported
    all_goals
      obtain ⟨other, same, differs⟩ := reported
      simp_all
  all_goals
    obtain ⟨asked, place, parsed, named, followed⟩ := escaped
    cases error <;> try exact reported
    all_goals
      obtain ⟨_, _, same, again, differs⟩ := reported
      simp_all

/-- A load is broken off exactly if its first check to fail escapes all reports. -/
theorem returned?_eq_none_iff : attempt.outcome.returned? = none ↔
    ∃ check cause, attempt.firstFailing? = some check ∧ attempt.Escapes check cause := by
  have ended := attempt.ends
  constructor
  · intro unreturned
    cases outcome : attempt.outcome with
    | loaded schema => rw [outcome] at unreturned; cases unreturned
    | failed error => rw [outcome] at unreturned; cases unreturned
    | brokenOff cause =>
      rw [outcome] at ended
      cases first : attempt.firstFailing? with
      | none => rw [first] at ended; cases ended
      | some check =>
        rw [first] at ended
        cases ended with
        | brokenOff escaped => exact ⟨check, cause, rfl, escaped⟩
  · rintro ⟨check, cause, first, escaped⟩
    rw [first] at ended
    cases outcome : attempt.outcome with
    | loaded schema => rw [outcome] at ended; cases ended
    | failed error =>
      rw [outcome] at ended
      cases ended with
      | failed reported => exact (escapes_excludes_reports escaped reported).elim
    | brokenOff cause => rfl

theorem returned?_of_limit {content : List UInt8} {limit : Json.Limit}
    (passed : attempt.PassesFirst 8) (found : attempt.content? = some content)
    (read : Json.ofBytes content = .error (.limit limit)) : attempt.outcome.returned? = none := by
  have fails : attempt.passes .json = false := by
    simp [passes, value?, found, read, Except.toOption]
  exact returned?_eq_none_iff.2
    ⟨.json, .json limit, passed.firstFailing rfl fails, content, found, read⟩

end Attempt
end SchemaService

namespace Service

open SchemaService (Attempt)

/-- One load is counted once, under what it told its caller. -/
theorem loads_completeLoad (ticket : Ticket) (outcome : SchemaService.Outcome) (service : Service) :
    (service.completeLoad ticket outcome).1.metrics.loads =
      match outcome.returned? with
      | some true => service.metrics.loads.bump .success
      | some false => service.metrics.loads.bump .failure
      | none => service.metrics.loads := by
  cases outcome <;> rfl

/-- Every load returns and is counted once, unless its first check to fail escapes all reports;
then no count changes. A schema that is JSON beyond the limits of reading always escapes. -/
theorem load_counted_unless_escaping (service : Service) (engine : EngineId) (attempt : Attempt) :
    let before := service.metrics.loads
    let after := (service.completeLoad ⟨engine, attempt.workspace⟩ attempt.outcome).1.metrics.loads
    (attempt.outcome.returned? = none ↔
      ∃ check cause, attempt.firstFailing? = some check ∧ attempt.Escapes check cause) ∧
    (∀ returned, attempt.outcome.returned? = some returned →
      Tally.total after = Tally.total before + 1 ∧
      Tally.count .success after = Tally.count .success before + (if returned then 1 else 0) ∧
      Tally.count .failure after = Tally.count .failure before + (if returned then 0 else 1)) ∧
    (attempt.outcome.returned? = none → after = before) ∧
    (∀ content, attempt.PassesFirst 8 → attempt.content? = some content →
      (∃ depth, Json.nestingLimit < depth ∧ content = Json.nested depth) ∨
        (Json.IsInteger content ∧ Json.digitLimit < content.length) →
      attempt.outcome.returned? = none) := by
  intro before after
  have counted : after = _ := service.loads_completeLoad ⟨engine, attempt.workspace⟩ attempt.outcome
  refine ⟨Attempt.returned?_eq_none_iff, ?_, ?_, ?_⟩
  · intro returned same
    rw [same] at counted
    cases returned <;> simp [counted, before, Tally.count_bump]
  · intro unreturned
    rw [unreturned] at counted
    exact counted
  · rintro content passed found (⟨depth, deep, rfl⟩ | ⟨integer, long⟩)
    · exact Attempt.returned?_of_limit passed found (Json.ofBytes_nested deep)
    · exact Attempt.returned?_of_limit passed found (Json.ofBytes_digits integer long)

/-- One digit more than can be read: all else is in order, and the load tells nothing. -/
theorem long_integer_tells_nothing :
    let attempt : Attempt :=
      ⟨"http://localhost:7071/api", "w", "t", .response 200 [] (List.replicate 4301 0x31)⟩
    attempt.outcome.returned? = none := by
  intro attempt
  have passed : ∀ check ∈ SchemaService.Check.all.take 8, attempt.passes check = true := by
    decide +kernel
  have integer : Json.IsInteger (List.replicate 4301 0x31) :=
    ⟨fun digit member => by simp [List.eq_of_mem_replicate member], by decide⟩
  have long : Json.digitLimit < (List.replicate 4301 (0x31 : UInt8)).length := by
    rw [List.length_replicate]; decide
  exact Attempt.returned?_of_limit passed
    (Attempt.content?_of_uncoded rfl rfl) (Json.ofBytes_digits integer long)

end Service
end KqlCompletion
