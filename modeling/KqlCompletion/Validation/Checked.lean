import KqlCompletion.Validation.Issue

/-! Validation that goes on after an issue: a composite is checked part by part, and the issues of
all parts are reported in the order of the parts. -/
namespace KqlCompletion.Validation

open Json (Value Members)

abbrev Checked (α : Type) := Except (List Issue) α

namespace Checked

def fail (rule : Rule) (input : Value) : Checked α := .error [⟨[], rule, input⟩]

def under (step : Step) : Checked α → Checked α
  | .ok a => .ok a
  | .error issues => .error (issues.map fun issue => { issue with path := step :: issue.path })

@[simp] theorem under_eq_ok_iff {step : Step} {checked : Checked α} {a : α} :
    under step checked = .ok a ↔ checked = .ok a := by
  cases checked <;> simp [under]

def both : Checked α → Checked β → Checked (α × β)
  | .ok a, .ok b => .ok (a, b)
  | .ok _, .error more => .error more
  | .error issues, .ok _ => .error issues
  | .error issues, .error more => .error (issues ++ more)

@[simp] theorem both_eq_ok_iff {a : Checked α} {b : Checked β} {p : α × β} :
    both a b = .ok p ↔ a = .ok p.1 ∧ b = .ok p.2 := by
  cases a <;> cases b <;> simp [both, Prod.ext_iff]

/-- One part is enough. There are issues only if both have some. -/
def either : Checked α → Checked β → Checked Unit
  | .error issues, .error more => .error (issues ++ more)
  | _, _ => .ok ()

@[simp] theorem either_eq_ok_iff {a : Checked α} {b : Checked β} :
    either a b = .ok () ↔ (∃ x, a = .ok x) ∨ ∃ y, b = .ok y := by
  cases a <;> cases b <;> simp [either]

def map2 (f : α → β → γ) (a : Checked α) (b : Checked β) : Checked γ :=
  (both a b).map fun p => f p.1 p.2

@[simp] theorem map2_eq_ok_iff {f : α → β → γ} {a : Checked α} {b : Checked β} {c : γ} :
    map2 f a b = .ok c ↔ ∃ x y, a = .ok x ∧ b = .ok y ∧ f x y = c := by
  cases a <;> cases b <;> simp [map2, both, Except.map]

def map3 (f : α → β → γ → δ) (a : Checked α) (b : Checked β) (c : Checked γ) : Checked δ :=
  map2 (fun p => f p.1 p.2) (both a b) c

def map4 (f : α → β → γ → δ → ε) (a : Checked α) (b : Checked β) (c : Checked γ)
    (d : Checked δ) : Checked ε :=
  map3 (fun p => f p.1 p.2) (both a b) c d

def each (check : Value → Checked α) (index : Nat) : List Value → Checked (List α)
  | [] => .ok []
  | item :: items =>
    map2 (· :: ·) (under (.index index) (check item)) (each check (index + 1) items)

/-- A list passes exactly when all its items pass. -/
theorem each_eq_ok_iff {check : Value → Checked α} {index : Nat} {items : List Value}
    {results : List α} :
    each check index items = .ok results ↔ items.map check = results.map Except.ok := by
  induction items generalizing index results with
  | nil => cases results <;> simp [each]
  | cons item items ih => cases results <;> simp [each, ih]

end Checked

open Checked (fail)

def text : Value → Checked Text
  | .str s => .ok s
  | v => fail .string v

def string (v : Value) : Checked String := (text v).map Text.shown

def characters (s : Text) : Checked (List Char) :=
  match s.characters? with
  | some read => .ok read
  | none => fail .characters (.str s)

def oneOf (known : List String) : Value → Checked String
  | .str s => do
    let name := String.ofList (← characters s)
    if known.contains name then .ok name else fail (.oneOf known) (.str s)
  | v => fail (.oneOf known) v

def nullable (check : Value → Checked α) : Value → Checked (Option α)
  | .null => .ok none
  | v => (check v).map some

def list (check : Value → Checked α) : Value → Checked (List α)
  | .arr items => Checked.each check 0 items
  | v => fail .list v

/-- The members of an object. `rule` is broken by any other value. -/
def members (rule : Rule) : Value → Checked Members
  | .obj members => .ok members
  | v => fail rule v

/-- A member that has to be there. Its absence is an issue of the whole object. -/
def required (fields : Members) (name : Text) (check : Value → Checked α) : Checked α :=
  match fields.get? name with
  | some v => Checked.under (.field name) (check v)
  | none => .error [⟨[.field name], .missing, .obj fields⟩]

def given (fields : Members) (name : Text) (check : Value → Checked α) : Checked (Option α) :=
  match fields.get? name with
  | some v => (Checked.under (.field name) (check v)).map some
  | none => .ok none

/-- Refuses every member that is not named, in their order. -/
def closed (fields : Members) (names : List Text) : Checked Unit :=
  match fields.filter fun member => !names.contains member.1 with
  | [] => .ok ()
  | extra => .error (extra.map fun member => ⟨[.field member.1], .noExtra, member.2⟩)

end KqlCompletion.Validation
