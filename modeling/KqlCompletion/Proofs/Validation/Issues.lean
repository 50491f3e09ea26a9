import KqlCompletion.Validation.Checked
import Mathlib.Algebra.Ring.Nat

/-! The issues of a check. A check that puts others together reports what these report, in their
order and each at its own place, and nothing more; none refuses a value without an issue. -/
namespace KqlCompletion.Validation

open Json (Value Members)

variable {α β γ δ : Type}

/-- The issue as it is seen from one step further out. -/
def Issue.below (step : Step) (issue : Issue) : Issue := { issue with path := step :: issue.path }

namespace Checked

def issues : Checked α → List Issue
  | .ok _ => []
  | .error issues => issues

/-- Nothing is refused without an issue. -/
def IsExplained (checked : Checked α) : Prop := checked ≠ .error []

theorem IsExplained.exists_ok {checked : Checked α} (explained : checked.IsExplained)
    (nothing : checked.issues = []) : ∃ a, checked = .ok a := by
  cases checked with
  | ok a => exact ⟨a, rfl⟩
  | error issues => exact absurd (congrArg Except.error nothing) explained

section parts

variable {a : Checked α} {b : Checked β} {c : Checked γ}

@[simp] theorem issues_under (step : Step) (a : Checked α) :
    (under step a).issues = a.issues.map (·.below step) := by
  cases a <;> rfl

@[simp] theorem issues_map (f : α → β) (a : Checked α) :
    issues (Except.map f a) = a.issues := by
  cases a <;> rfl

@[simp] theorem issues_both (a : Checked α) (b : Checked β) :
    (both a b).issues = a.issues ++ b.issues := by
  cases a <;> cases b <;> simp [both, issues]

@[simp] theorem issues_map2 (f : α → β → γ) (a : Checked α) (b : Checked β) :
    (map2 f a b).issues = a.issues ++ b.issues := by
  rw [map2, issues_map, issues_both]

@[simp] theorem issues_map3 (f : α → β → γ → δ) (a : Checked α) (b : Checked β) (c : Checked γ) :
    (map3 f a b c).issues = a.issues ++ b.issues ++ c.issues := by
  rw [map3, issues_map2, issues_both]

theorem IsExplained.under (explained : a.IsExplained) (step : Step) :
    (under step a).IsExplained := by
  cases a with
  | ok a => exact nofun
  | error issues =>
    intro nothing
    refine explained (congrArg Except.error ?_)
    simpa [Checked.under] using nothing

theorem IsExplained.map (explained : a.IsExplained) (f : α → β) :
    IsExplained (Except.map f a) := by
  cases a with
  | ok a => exact nofun
  | error issues => exact fun nothing => explained (congrArg Except.error (Except.error.inj nothing))

theorem IsExplained.both (first : a.IsExplained) (second : b.IsExplained) :
    (both a b).IsExplained := by
  cases a with
  | ok a =>
    cases b with
    | ok b => exact nofun
    | error more => exact fun nothing => second (congrArg Except.error (Except.error.inj nothing))
  | error issues =>
    have some : issues ≠ [] := fun nothing => first (congrArg Except.error nothing)
    cases b with
    | ok b => exact fun nothing => some (Except.error.inj nothing)
    | error more =>
      exact fun nothing => some (List.append_eq_nil_iff.1 (Except.error.inj nothing)).1

theorem IsExplained.map3 (first : a.IsExplained) (second : b.IsExplained) (third : c.IsExplained)
    (f : α → β → γ → δ) : (map3 f a b c).IsExplained :=
  ((first.both second).both third).map _

end parts

section each

variable {check : Value → Checked α}

theorem issues_each (check : Value → Checked α) (index : Nat) (items : List Value) :
    (each check index items).issues =
      (items.zipIdx index).flatMap fun item =>
        (check item.1).issues.map (·.below (.index item.2)) := by
  induction items generalizing index with
  | nil => rfl
  | cons item items ih =>
    rw [each, issues_map2, issues_under, ih, List.zipIdx_cons, List.flatMap_cons]

theorem isExplained_each (explained : ∀ v, (check v).IsExplained) (index : Nat)
    (items : List Value) : (each check index items).IsExplained := by
  induction items generalizing index with
  | nil => exact nofun
  | cons item items ih => exact (((explained item).under _).both (ih _)).map _

end each

end Checked

open Checked (IsExplained)

section checks

variable {check : Value → Checked α}

theorem isExplained_text (v : Value) : (text v).IsExplained := by
  cases v <;> exact nofun

theorem isExplained_nullable (explained : ∀ v, (check v).IsExplained) (v : Value) :
    (nullable check v).IsExplained := by
  cases v with
  | null => exact nofun
  | _ => exact (explained _).map _

theorem isExplained_list (explained : ∀ v, (check v).IsExplained) (v : Value) :
    (list check v).IsExplained := by
  cases v with
  | arr items => exact Checked.isExplained_each explained 0 items
  | _ => exact nofun

theorem isExplained_required (explained : ∀ v, (check v).IsExplained) (fields : Members)
    (name : String) : (required fields name check).IsExplained := by
  rw [required]
  split
  · exact (explained _).under _
  · exact nofun

theorem isExplained_given (explained : ∀ v, (check v).IsExplained) (fields : Members)
    (name : String) : (given fields name check).IsExplained := by
  rw [given]
  split
  · exact ((explained _).under _).map _
  · exact nofun

theorem isExplained_members {read : Members → Checked α}
    (explained : ∀ fields, (read fields).IsExplained) (rule : Rule) (v : Value) :
    IsExplained (members rule v >>= read) := by
  cases v with
  | obj fields => exact explained fields
  | _ => exact nofun

theorem issues_list (check : Value → Checked α) (items : List Value) :
    (list check (.arr items)).issues =
      items.zipIdx.flatMap fun item => (check item.1).issues.map (·.below (.index item.2)) :=
  Checked.issues_each check 0 items

theorem length_issues_list (check : Value → Checked α) (items : List Value) :
    (list check (.arr items)).issues.length =
      (items.map fun item => (check item).issues.length).sum := by
  have each : items.zipIdx.map (fun item => (check item.1).issues.length) =
      items.map fun item => (check item).issues.length := by
    rw [← List.zipIdx_map_fst 0 items, List.map_map]
    simp [Function.comp_def]
  simp [issues_list, List.length_flatMap, each]

theorem length_issues_required (fields : Members) (name : String) (check : Value → Checked α) :
    (required fields name check).issues.length =
      (fields.get? name).elim 1 fun v => (check v).issues.length := by
  rw [required]
  split
  · next there => simp [there]
  · next absent => simp [absent, Checked.issues]

theorem length_issues_given (fields : Members) (name : String) (check : Value → Checked α) :
    (given fields name check).issues.length =
      (fields.get? name).elim 0 fun v => (check v).issues.length := by
  rw [given]
  split
  · next there => simp [there]
  · next absent => simp [absent, Checked.issues]

end checks
end KqlCompletion.Validation
