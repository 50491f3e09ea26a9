import KqlCompletion.Proofs.Service.Recency
import KqlCompletion.Service.Session
import Mathlib.Algebra.BigOperators.Group.Finset.Basic
import Mathlib.Algebra.GroupWithZero.Nat
import Mathlib.Data.Fintype.Defs

/-! What the metrics tell of completions. However many engines there are and whatever else is done
with them, each completion is counted once under the position of its text and once with the number
of its suggestions, and nothing else is counted as a completion. -/
namespace KqlCompletion

open Query (Context Position)

instance : Fintype Position where
  elems := {.startOfQuery, .afterColumnKeyword, .afterGroupingKeyword, .afterSummarize,
    .generalToken}
  complete := by intro position; cases position <;> decide

structure Completion where
  text : Option Text
  suggestions : List Suggestion
  deriving DecidableEq, Repr

def Completion.position (completion : Completion) : Position :=
  (Context.of? completion.text).position

def Completion.size (completion : Completion) : Nat := completion.suggestions.length

namespace Metrics

variable {metrics other : Metrics} {past : List Completion}

theorem returnedSum_completed (position : Position) (size : Nat) (metrics : Metrics) :
    (metrics.completed position size).returnedSum = metrics.returnedSum + size := by
  dsimp only [returnedSum, completed]
  induction metrics.returned with
  | nil => simp [Tally.bump]
  | cons entry tally ih =>
    rw [Tally.bump]
    split
    · next same =>
      simp only [List.foldr_cons, same, Nat.mul_add]
      omega
    · rw [List.foldr_cons, List.foldr_cons, ih]
      omega

theorem returnedWithin_completed (position : Position) (size : Nat) (metrics : Metrics)
    (bound : Nat) : (metrics.completed position size).returnedWithin bound =
      metrics.returnedWithin bound + if size ≤ bound then 1 else 0 := by
  have counted := Tally.total_filter_bump (fun label : Nat => label ≤ bound) size metrics.returned
  simpa [returnedWithin, completed] using counted

def ofCompletions (metrics : Metrics) : Tally Position × Tally Nat :=
  (metrics.completions, metrics.returned)

structure Tells (metrics : Metrics) (past : List Completion) : Prop where
  positions : ∀ position,
    metrics.completions.count position = past.countP (·.position = position)
  asked : metrics.completions.total = past.length
  answered : metrics.returned.total = past.length
  sum : metrics.returnedSum = (past.map Completion.size).sum
  within : ∀ bound, metrics.returnedWithin bound = past.countP (·.size ≤ bound)

namespace Tells

theorem empty : Tells {} [] := by
  constructor <;> intros <;> rfl

theorem congr (tells : Tells metrics past) (same : other.ofCompletions = metrics.ofCompletions) :
    Tells other past := by
  obtain ⟨completions, returned⟩ := Prod.mk.inj same
  obtain ⟨positions, asked, answered, sum, within⟩ := tells
  refine ⟨?_, ?_, ?_, ?_, ?_⟩
  · rwa [completions]
  · rwa [completions]
  · rwa [returned]
  · rwa [returnedSum, returned]
  · simpa only [returnedWithin, returned] using within

theorem completed (tells : Tells metrics past) (completion : Completion) :
    Tells (metrics.completed completion.position completion.size) (past ++ [completion]) := by
  refine ⟨fun position => ?_, ?_, ?_, ?_, fun bound => ?_⟩
  · rw [Metrics.completed, Tally.count_bump, tells.positions, List.countP_append]
    simp [eq_comm]
  · rw [Metrics.completed, Tally.total_bump, tells.asked, List.length_append]
    rfl
  · rw [Metrics.completed, Tally.total_bump, tells.answered, List.length_append]
    rfl
  · rw [returnedSum_completed, tells.sum, List.map_append, List.sum_append]
    simp
  · rw [returnedWithin_completed, tells.within, List.countP_append]
    simp

/-- Each completion has one position. -/
theorem sum_positions (tells : Tells metrics past) :
    ∑ position, metrics.completions.count position = past.length := by
  have counts (position : Position) : metrics.completions.count position =
      Multiset.count position (↑(past.map Completion.position) : Multiset Position) := by
    rw [tells.positions, Multiset.coe_count, List.count_eq_countP, List.countP_map]
    rfl
  simp only [counts]
  rw [Multiset.sum_count_eq_card fun position _ => Finset.mem_univ position, Multiset.coe_card,
    List.length_map]

end Tells
end Metrics

namespace Service

open Metrics (Tells)

/-- What is done in a process. Engines are made by the store or on their own, and they are put to
their tasks whether the store holds them, has dropped them or never knew them. A second store would
do nothing but make engines and clear them. -/
inductive Deed where
  | call (call : Call)
  | make
  | task (engine : EngineId) (task : Session.Task)
  deriving DecidableEq, Repr

def Deed.text? : Deed → Option (Option Text)
  | .task _ (.suggest text) => some text
  | .task _ _ | .call _ | .make => none

def completion? (task : Session.Task) (reply : Session.Reply) : Option Completion :=
  match task, reply with
  | .suggest text, .suggestions suggestions => some ⟨text, suggestions⟩
  | _, _ => none

def perform (service : Service) : Deed → Service × Option Completion
  | .call call => (service.call call, none)
  | .make =>
    let engines := service.store.engines ++ [{}]
    ({ service with store := { service.store with engines } }, none)
  | .task engine task =>
    let (next, _, reply) := task.run engine service
    (next, completion? task reply)

def performAll (service : Service) : List Deed → Service × List Completion
  | [] => (service, [])
  | deed :: deeds =>
    let (next, completion) := service.perform deed
    let (last, completions) := next.performAll deeds
    (last, completion.toList ++ completions)

/-! ### What is not counted -/

theorem ofCompletions_completeLoad (ticket : Ticket) (outcome : SchemaService.Outcome)
    (service : Service) : (service.completeLoad ticket outcome).1.metrics.ofCompletions =
      service.metrics.ofCompletions := by
  cases outcome <;> rfl

theorem ofCompletions_call (service : Service) (call : Call) :
    (service.call call).metrics.ofCompletions = service.metrics.ofCompletions := by
  cases call with
  | get workspace =>
    dsimp only [Service.call, acquire]
    split <;> rfl
  | discard workspace =>
    dsimp only [Service.call, discard]
    split <;> rfl
  | complete ticket outcome => exact ofCompletions_completeLoad ticket outcome service

theorem ofCompletions_completeLoads (engine : EngineId) (apiUrl : String) (token : Text)
    (started : List Session.Start) (finish : List String) (ended : List (String × Bool))
    (service : Service) :
    (Session.completeLoads engine apiUrl token started finish ended service).1.metrics.ofCompletions =
      service.metrics.ofCompletions := by
  induction finish generalizing ended service with
  | nil => rfl
  | cons workspace finish ih =>
    rw [Session.completeLoads]
    split
    · exact ih _ _
    · exact ih _ _
    · next start _ _ =>
      generalize SchemaService.load apiUrl workspace token start.answer = answered
      obtain ⟨request, outcome⟩ := answered
      have first := ofCompletions_completeLoad ⟨engine, workspace⟩ outcome service
      cases outcome with
      | brokenOff cause => exact first
      | loaded schema => exact (ih _ _).trans first
      | failed error => exact (ih _ _).trans first

theorem perform_suggest (service : Service) (engine : EngineId) (text : Option Text) :
    service.perform (.task engine (.suggest text)) =
      ((service.complete engine text).1, some ⟨text, (service.complete engine text).2⟩) := by
  rw [perform, Session.Task.run]
  rfl

/-- Only a completion is counted as one, under the position of its text and with its size. -/
theorem ofCompletions_perform (service : Service) (deed : Deed) :
    (service.perform deed).1.metrics.ofCompletions =
      ((service.perform deed).2.elim service.metrics fun completion =>
        service.metrics.completed completion.position completion.size).ofCompletions := by
  cases deed with
  | call call => exact ofCompletions_call service call
  | make => rfl
  | task engine task =>
    cases task with
    | suggest text =>
      rw [perform_suggest, Option.elim_some, complete]
      rfl
    | load workspace apiUrl token answer =>
      rw [perform, Session.Task.run]
      generalize SchemaService.load apiUrl workspace token answer = answered
      exact ofCompletions_completeLoad ⟨engine, workspace⟩ answered.2 service
    | loads apiUrl token started finish =>
      exact ofCompletions_completeLoads engine apiUrl token started finish [] service
    | get | context text | table text | schema | templates | clear => rfl

theorem text?_perform (service : Service) (deed : Deed) :
    (service.perform deed).2.map Completion.text = deed.text? := by
  cases deed with
  | call call => rfl
  | make => rfl
  | task engine task =>
    cases task with
    | suggest text =>
      rw [perform_suggest]
      rfl
    | load | loads | get | context | table | schema | templates | clear =>
      dsimp only [perform, completion?]
      rfl

theorem tells_perform {service : Service} {past : List Completion}
    (tells : Tells service.metrics past) (deed : Deed) :
    Tells (service.perform deed).1.metrics (past ++ (service.perform deed).2.toList) := by
  have counted := ofCompletions_perform service deed
  cases done : (service.perform deed).2 with
  | none =>
    rw [done] at counted
    simpa using tells.congr counted
  | some completion =>
    rw [done] at counted
    exact (tells.completed completion).congr counted

theorem tells_performAll {service : Service} {past : List Completion}
    (tells : Tells service.metrics past) (deeds : List Deed) :
    Tells (service.performAll deeds).1.metrics (past ++ (service.performAll deeds).2) := by
  induction deeds generalizing service past with
  | nil => simpa [performAll] using tells
  | cons deed deeds ih =>
    have later := ih (tells_perform tells deed)
    rw [List.append_assoc] at later
    exact later

theorem texts_performAll (service : Service) (deeds : List Deed) :
    (service.performAll deeds).2.map Completion.text = deeds.filterMap Deed.text? := by
  induction deeds generalizing service with
  | nil => rfl
  | cons deed deeds ih =>
    have first := text?_perform service deed
    rw [performAll, List.map_append, ih, List.filterMap_cons, ← first]
    cases (service.perform deed).2 <;> rfl

/-- Every text that is to be completed is, and the metrics tell neither more nor less: how many
completions there were, in all and for each position, how many suggestions all of them had, and how
many had at most so many. -/
theorem completions_are_counted_once (store : Store) (deeds : List Deed) :
    let last := ({ store } : Service).performAll deeds
    let metrics := last.1.metrics
    let completions := last.2
    completions.map Completion.text = deeds.filterMap Deed.text? ∧
    ∑ position, metrics.completions.count position = completions.length ∧
    metrics.completions.total = completions.length ∧
    metrics.returned.total = completions.length ∧
    (∀ position, metrics.completions.count position =
      completions.countP fun completion => (Context.of? completion.text).position = position) ∧
    metrics.returnedSum =
      (completions.map fun completion => completion.suggestions.length).sum ∧
    ∀ bound, metrics.returnedWithin bound =
      completions.countP fun completion => completion.suggestions.length ≤ bound := by
  intro last metrics completions
  have fresh : Tells ({ store } : Service).metrics [] := .empty
  have tells : Tells metrics completions := tells_performAll fresh deeds
  exact ⟨texts_performAll _ deeds, tells.sum_positions, tells.asked, tells.answered,
    tells.positions, tells.sum, tells.within⟩

end Service
end KqlCompletion
