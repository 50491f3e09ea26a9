/-! Counts by label. A label has an entry only once it has been counted. -/
namespace KqlCompletion

abbrev Tally (Label : Type) := List (Label × Nat)

namespace Tally

variable {Label : Type} [DecidableEq Label]

def bump (label : Label) : Tally Label → Tally Label
  | [] => [(label, 1)]
  | entry :: tally =>
    if entry.1 = label then (label, entry.2 + 1) :: tally else entry :: bump label tally

def count (label : Label) (tally : Tally Label) : Nat :=
  ((tally.find? fun entry => entry.1 = label).map (·.2)).getD 0

theorem count_cons (label : Label) (entry : Label × Nat) (tally : Tally Label) :
    count label (entry :: tally) = if entry.1 = label then entry.2 else count label tally := by
  by_cases same : entry.1 = label <;> simp [count, same]

theorem count_bump (label other : Label) (tally : Tally Label) :
    count other (bump label tally) = count other tally + if other = label then 1 else 0 := by
  induction tally with
  | nil => by_cases same : label = other <;> simp [bump, count, same, eq_comm]
  | cons entry tally ih =>
    rw [bump]
    split <;> simp only [count_cons, ih] <;> grind

omit [DecidableEq Label] in
def total (tally : Tally Label) : Nat := tally.foldr (fun entry sum => entry.2 + sum) 0

@[simp] theorem total_bump (label : Label) (tally : Tally Label) :
    total (bump label tally) = total tally + 1 := by
  fun_induction bump label tally <;> simp_all [total] <;> omega

omit [DecidableEq Label] in
theorem total_filter_cons (p : Label → Bool) (entry : Label × Nat) (tally : Tally Label) :
    total ((entry :: tally).filter fun entry => p entry.1) =
      (if p entry.1 then entry.2 else 0) + total (tally.filter fun entry => p entry.1) := by
  by_cases counts : p entry.1 = true <;> simp [total, counts]

/-- Of some labels one more has been counted, if the label counted is one of them. -/
theorem total_filter_bump (p : Label → Bool) (label : Label) (tally : Tally Label) :
    total ((bump label tally).filter fun entry => p entry.1) =
      total (tally.filter fun entry => p entry.1) + if p label then 1 else 0 := by
  induction tally with
  | nil =>
    rw [bump, total_filter_cons]
    exact Nat.add_comm _ _
  | cons entry tally ih =>
    rw [bump]
    split
    · next same =>
      simp only [total_filter_cons, same]
      split <;> omega
    · rw [total_filter_cons, total_filter_cons, ih]
      exact (Nat.add_assoc _ _ _).symm

end Tally
end KqlCompletion
