import KqlCompletion.Proofs.Service.LoadCount
import Mathlib.Data.List.Perm.Basic

/-! Loads that overlap on one engine, while its schema may be dropped at any time. In whatever order
they start and end, the engine holds what the last one to succeed has brought since the schema was
last dropped, and the error of the last one to return, if it failed. A load that is broken off ends
without returning and leaves no trace. -/
namespace KqlCompletion.Engine

open SchemaService (Answer Attempt LoadError)

def workspace (engine : Engine) : Option String := engine.holding.map (·.workspace)

structure Loading where
  apiUrl : String
  workspace : String
  token : String
  deriving DecidableEq, Repr

def Loading.ending (loading : Loading) (answer : Answer) : Attempt :=
  ⟨loading.apiUrl, loading.workspace, loading.token, answer⟩

structure Busy where
  engine : Engine := {}
  loadings : List Loading := []
  deriving DecidableEq, Repr

/-- A load starts, the one at some place among those under way is answered, or the schema is
dropped. -/
inductive Turn where
  | start (loading : Loading)
  | answer (place : Nat) (answer : Answer)
  | clear
  deriving DecidableEq, Repr

def Turn.started? : Turn → Option Loading
  | .start loading => some loading
  | .answer _ _ | .clear => none

inductive Happening where
  | ended (attempt : Attempt)
  | cleared
  deriving DecidableEq, Repr

namespace Happening

def ended? : Happening → Option Loading
  | .ended attempt => some ⟨attempt.apiUrl, attempt.workspace, attempt.token⟩
  | .cleared => none

def effect : Happening → Engine → Engine
  | .ended attempt => Engine.complete attempt.workspace attempt.outcome
  | .cleared => Engine.clear

def replaces : Happening → Bool
  | .ended attempt => attempt.outcome.returned? == some true
  | .cleared => true

def returns : Happening → Bool
  | .ended attempt => attempt.outcome.returned?.isSome
  | .cleared => false

/-- The schema in the body of the answer, with the workspace of the same load. -/
def brought? : Happening → Option Holding
  | .ended attempt => attempt.schema?.map (⟨attempt.workspace, ·⟩)
  | .cleared => none

def error? : Happening → Option LoadError
  | .ended attempt =>
    match attempt.outcome with
    | .failed error => some error
    | .loaded _ | .brokenOff _ => none
  | .cleared => none

def latest? (kind : Happening → Bool) (past : List Happening) : Option Happening :=
  past.reverse.find? kind

theorem latest?_concat (kind : Happening → Bool) (past : List Happening) (happening : Happening) :
    latest? kind (past ++ [happening]) =
      if kind happening then some happening else latest? kind past := by
  rw [latest?, List.reverse_append, List.reverse_singleton, List.singleton_append,
    List.find?_cons]
  cases kind happening <;> rfl

theorem kind_of_latest? {kind : Happening → Bool} {past : List Happening} {happening : Happening}
    (found : latest? kind past = some happening) : kind happening = true :=
  List.find?_some found

theorem schema?_of_replaces {attempt : Attempt} (replaces : (ended attempt).replaces = true) :
    ∃ schema, attempt.schema? = some schema := by
  rw [Happening.replaces, beq_iff_eq] at replaces
  cases outcome : attempt.outcome with
  | loaded schema => exact ⟨schema, (Attempt.loaded_iff.1 outcome).2⟩
  | failed error => rw [outcome] at replaces; cases replaces
  | brokenOff cause => rw [outcome] at replaces; cases replaces

theorem holding_effect (happening : Happening) (engine : Engine) :
    (happening.effect engine).holding =
      if happening.replaces then happening.brought? else engine.holding := by
  cases happening with
  | ended attempt =>
    rw [effect, replaces, brought?]
    cases outcome : attempt.outcome with
    | loaded schema =>
      rw [(Attempt.loaded_iff.1 outcome).2]
      rfl
    | failed error => rfl
    | brokenOff cause => rfl
  | cleared => rfl

theorem lastError_effect (happening : Happening) (engine : Engine) :
    (happening.effect engine).lastError =
      if happening.returns then happening.error? else engine.lastError := by
  cases happening with
  | ended attempt =>
    rw [effect, returns, error?]
    cases attempt.outcome <;> rfl
  | cleared => rfl

theorem error?_eq_none_iff {attempt : Attempt} (returns : (ended attempt).returns = true) :
    (ended attempt).error? = none ↔ attempt.outcome.returned? = some true := by
  rw [Happening.returns] at returns
  rw [error?]
  cases outcome : attempt.outcome with
  | loaded schema => simp [SchemaService.Outcome.returned?]
  | failed error => simp [SchemaService.Outcome.returned?]
  | brokenOff cause => rw [outcome] at returns; cases returns

end Happening

namespace Busy

open Happening

def step (busy : Busy) : Turn → Busy
  | .start loading => { busy with loadings := busy.loadings ++ [loading] }
  | .answer place answer =>
    match busy.loadings[place]? with
    | none => busy
    | some loading =>
      ⟨(ended (loading.ending answer)).effect busy.engine, busy.loadings.eraseIdx place⟩
  | .clear => { busy with engine := cleared.effect busy.engine }

def happening? (busy : Busy) : Turn → Option Happening
  | .start _ => none
  | .answer place answer => busy.loadings[place]?.map fun loading => .ended (loading.ending answer)
  | .clear => some .cleared

def run (busy : Busy) : List Turn → Busy
  | [] => busy
  | turn :: turns => (busy.step turn).run turns

def history (busy : Busy) : List Turn → List Happening
  | [] => []
  | turn :: turns => (busy.happening? turn).toList ++ (busy.step turn).history turns

/-- All that the engine shows follows from what has happened to it, and every load started is still
under way or has ended once. -/
structure Accounts (started : List Loading) (past : List Happening) (busy : Busy) : Prop where
  holding : busy.engine.holding = (latest? replaces past).bind brought?
  lastError : busy.engine.lastError = (latest? returns past).bind error?
  loadings : started.Perm (busy.loadings ++ past.filterMap ended?)

namespace Accounts

variable {started : List Loading} {past : List Happening} {busy : Busy}

theorem empty : Accounts [] [] {} := ⟨rfl, rfl, .nil⟩

theorem happen (accounts : Accounts started past busy) (happening : Happening)
    {loadings : List Loading}
    (same : started.Perm (loadings ++ (past ++ [happening]).filterMap ended?)) :
    Accounts started (past ++ [happening]) ⟨happening.effect busy.engine, loadings⟩ := by
  refine ⟨?_, ?_, same⟩
  · dsimp only
    rw [holding_effect, latest?_concat, accounts.holding]
    cases happening.replaces <;> rfl
  · dsimp only
    rw [lastError_effect, latest?_concat, accounts.lastError]
    cases happening.returns <;> rfl

protected theorem step (accounts : Accounts started past busy) (turn : Turn) :
    Accounts (started ++ turn.started?.toList) (past ++ (busy.happening? turn).toList)
      (busy.step turn) := by
  cases turn with
  | start loading =>
    rw [happening?, Option.toList_none, List.append_nil]
    refine ⟨accounts.holding, accounts.lastError, ?_⟩
    refine (accounts.loadings.append_right [loading]).trans ?_
    show ((busy.loadings ++ past.filterMap ended?) ++ [loading]).Perm
      ((busy.loadings ++ [loading]) ++ past.filterMap ended?)
    rw [List.append_assoc, List.append_assoc]
    exact List.perm_append_comm.append_left _
  | answer place answer =>
    rw [Turn.started?, Option.toList_none, List.append_nil, happening?, step]
    cases found : busy.loadings[place]? with
    | none =>
      rw [Option.map_none, Option.toList_none, List.append_nil]
      exact accounts
    | some loading =>
      dsimp only [Option.map_some, Option.toList_some]
      obtain ⟨bound, same⟩ := List.getElem?_eq_some_iff.1 found
      have taken : busy.loadings.Perm (busy.loadings.eraseIdx place ++ [loading]) := by
        have whole := List.getElem_cons_eraseIdx_perm bound
        rw [same] at whole
        exact whole.symm.trans (List.perm_append_singleton _ _).symm
      refine accounts.happen (ended (loading.ending answer)) (accounts.loadings.trans ?_)
      have ended : [ended (loading.ending answer)].filterMap ended? = [loading] := rfl
      rw [List.filterMap_append, ended]
      refine (taken.append_right _).trans ?_
      rw [List.append_assoc]
      exact List.perm_append_comm.append_left _
  | clear =>
    rw [Turn.started?, Option.toList_none, List.append_nil, happening?, step, Option.toList_some]
    refine accounts.happen cleared ?_
    have nothing : [cleared].filterMap ended? = [] := rfl
    rw [List.filterMap_append, nothing, List.append_nil]
    exact accounts.loadings

theorem run (accounts : Accounts started past busy) (turns : List Turn) :
    Accounts (started ++ turns.filterMap Turn.started?) (past ++ busy.history turns)
      (busy.run turns) := by
  induction turns generalizing started past busy with
  | nil => simpa [history, Busy.run] using accounts
  | cons turn turns ih =>
    have next := ih (accounts.step turn)
    rw [List.append_assoc, List.append_assoc] at next
    have started : (turn :: turns).filterMap Turn.started? =
        turn.started?.toList ++ turns.filterMap Turn.started? := by
      cases turn <;> rfl
    rw [started]
    exact next

end Accounts

/-- However loads start and end on an engine and whenever its schema is dropped, what is held is the
schema and the workspace of one load, the last one to succeed since the schema was last dropped, and
nothing if there is none. There is no error exactly if no load has returned or the last one to
return has succeeded. -/
theorem last_load_to_succeed_is_held (turns : List Turn) :
    let busy := ({} : Busy).run turns
    let past := ({} : Busy).history turns
    (∀ attempt, latest? replaces past = some (.ended attempt) → ∃ schema,
      attempt.schema? = some schema ∧ busy.engine.schema = some schema ∧
        busy.engine.workspace = some attempt.workspace) ∧
    ((∀ attempt, latest? replaces past ≠ some (.ended attempt)) →
      busy.engine.schema = none ∧ busy.engine.workspace = none) ∧
    (busy.engine.schema = none ↔ busy.engine.workspace = none) ∧
    (busy.engine.lastError = none ↔ latest? returns past = none ∨
      ∃ attempt, latest? returns past = some (.ended attempt) ∧
        attempt.outcome.returned? = some true) ∧
    (∀ attempt error, latest? returns past = some (.ended attempt) →
      attempt.outcome = .failed error → busy.engine.lastError = some error) ∧
    (turns.filterMap Turn.started?).Perm (busy.loadings ++ past.filterMap ended?) := by
  intro busy past
  have accounts : Accounts (turns.filterMap Turn.started?) past busy := Accounts.empty.run turns
  refine ⟨?_, ?_, ?_, ?_, ?_, accounts.loadings⟩
  · intro attempt last
    obtain ⟨schema, found⟩ := schema?_of_replaces (kind_of_latest? last)
    have held : busy.engine.holding = some ⟨attempt.workspace, schema⟩ := by
      rw [accounts.holding, last, Option.bind_some, brought?, found]
      rfl
    exact ⟨schema, found, by rw [Engine.schema, held]; rfl, by rw [workspace, held]; rfl⟩
  · intro none
    have held : busy.engine.holding = .none := by
      rw [accounts.holding]
      cases last : latest? replaces past with
      | none => rfl
      | some happening =>
        cases happening with
        | ended attempt => exact absurd last (none attempt)
        | cleared => rfl
    exact ⟨by rw [Engine.schema, held]; rfl, by rw [workspace, held]; rfl⟩
  · rw [Engine.schema, workspace, Option.map_eq_none_iff, Option.map_eq_none_iff]
  · rw [accounts.lastError]
    cases last : latest? returns past with
    | none => simp
    | some happening =>
      cases happening with
      | ended attempt =>
        rw [Option.bind_some, error?_eq_none_iff (kind_of_latest? last)]
        simp
      | cleared => exact absurd (kind_of_latest? last) (by decide)
  · intro attempt error last failed
    rw [accounts.lastError, last, Option.bind_some, error?, failed]

end Busy
end KqlCompletion.Engine
