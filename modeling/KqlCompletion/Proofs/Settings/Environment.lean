import KqlCompletion.Proofs.Schema.Format
import KqlCompletion.Proofs.Text.LetterCase
import KqlCompletion.Settings
import Mathlib.Data.List.Basic

/-! Variables that do not concern a setting. A variable is found under its own name in any letter
case, so settings of other names are read as if it were not there. The settings of a composite may be
looked up with a front of any kind, and their names end as the fields are named: a shorter name is
none of them. A composite is JSON, and it is a member of its own name at most. -/
namespace KqlCompletion

open Json (Value Members)

namespace Environment

variable {env : Environment} {lookup : Lookup} {name other : String}

/-- The environment without a variable, however its name is spelled. -/
def without (env : Environment) (name : String) : Environment :=
  env.filter fun entry => !matchesName {} name entry.1

/-- Nothing found under the name is found under the other one. -/
def Apart (lookup : Lookup) (name other : String) : Prop :=
  ∀ written, matchesName lookup name written = true → matchesName {} other written = false

theorem find?_without (apart : Apart lookup name other) (env : Environment) :
    (env.without other).find? lookup name = env.find? lookup name := by
  rw [find?, find?, without, ← List.filter_reverse, List.find?_filter]
  congr 2
  funext entry
  cases found : matchesName lookup name entry.1 with
  | true =>
    simp only [apart entry.1 found, Bool.not_false, Bool.true_and, true_and, Bool.decide_eq_true]
  | false => simp

theorem get?_without_self (env : Environment) (name : String) :
    (env.without name).get? name = none := by
  rw [get?, find?, without, Option.map_eq_none_iff, List.find?_eq_none]
  intro entry member
  obtain ⟨-, other⟩ := List.mem_filter.1 (List.mem_reverse.1 member)
  simpa using other

theorem fields_without {names : List String} (apart : ∀ name ∈ names, Apart lookup name other)
    (env : Environment) : (env.without other).fields lookup names = env.fields lookup names := by
  rw [fields, fields]
  refine List.filterMap_congr fun name listed => ?_
  rw [find?_without (apart name listed)]

/-- However a name is looked up, what is found under it has its lowercase behind a front. -/
theorem lower_of_matchesName {written : String}
    (matched : matchesName lookup name written = true) :
    Text.lower written = Text.lower (lookup.front ++ name) := by
  rw [matchesName] at matched
  split at matched
  · rw [eq_of_beq matched, Text.of_append]
  · exact eq_of_beq matched

theorem apart_of_lower (differ : Text.lower name ≠ Text.lower other) : Apart {} name other := by
  intro written matched
  have first := lower_of_matchesName matched
  rw [Bool.eq_false_iff]
  intro also
  have second := lower_of_matchesName also
  exact differ (first.symm.trans second)

theorem apart_of_length (ascii : Text.isAscii name = true) (alsoAscii : Text.isAscii other = true)
    (longer : other.length < name.length) : Apart lookup name other := by
  intro written matched
  rw [Bool.eq_false_iff]
  intro also
  have same : Text.lower (lookup.front ++ name) = Text.lower other :=
    (lower_of_matchesName matched).symm.trans (lower_of_matchesName also)
  have suffix := (Text.asciiLower_isSuffix_lower lookup.front ascii).length_le
  rw [same, Text.lower_of_isAscii alsoAscii] at suffix
  simp only [Text.asciiLower, Text.of, List.length_map, String.length_toList] at suffix
  omega

section json

variable {members : Members} {text : String} {failure : Json.Failure} {v : Value}

theorem get?_fields {names : List String} (unlisted : name ∉ names) :
    (env.fields lookup names).get? name = none := by
  rw [Members.get?, Option.map_eq_none_iff, List.find?_eq_none]
  intro member listed same
  obtain ⟨found, among, made⟩ := List.mem_filterMap.1 listed
  obtain ⟨value, -, rfl⟩ := Option.map_eq_some_iff.1 made
  obtain rfl : found = name := by simpa using same
  exact unlisted among

theorem json?_without (apart : Apart {} name other) :
    (env.without other).json? name = env.json? name := by
  rw [json?, json?, get?, get?, find?_without apart]

theorem json?_without_self (env : Environment) (name : String) :
    (env.without name).json? name = .ok [] := by
  rw [json?, get?_without_self]

/-- The JSON of a composite is a member of its name at most. -/
theorem get?_of_json? {field : Text} (read : env.json? name = .ok members)
    (differ : Text.of name ≠ field) : members.get? field = none := by
  rw [json?] at read
  split at read
  · cases read
    rfl
  · split at read
    · cases read
      rfl
    · cases read
      simp [differ]
    · cases read
    · cases read

theorem json?_of_null (given : env.get? name = some text) (decoded : Json.ofText text = .ok .null) :
    env.json? name = .ok [] := by
  rw [json?, given]
  simp only [decoded]

theorem json?_of_ok (given : env.get? name = some text) (decoded : Json.ofText text = .ok v)
    (value : v ≠ .null) : env.json? name = .ok [(name, v)] := by
  rw [json?, given]
  simp only [decoded]

theorem json?_of_depth (given : env.get? name = some text)
    (deep : Json.ofText text = .error (.limit .depth)) : env.json? name = .error .tooDeep := by
  rw [json?, given]
  simp only [deep]

theorem json?_of_error (given : env.get? name = some text)
    (fails : Json.ofText text = .error failure) (shallow : failure ≠ .limit .depth) :
    env.json? name = .error (.unreadable name) := by
  rw [json?, given]
  simp only [fails]

end json

end Environment

theorem SchemaApiSettings.ofJson_without (env : Environment) :
    ofJson (env.without "cors_origins") = ofJson env := by
  have fields (lookup : Lookup) : (env.without "cors_origins").fields lookup fieldNames =
      env.fields lookup fieldNames := by
    have longer : ∀ name ∈ fieldNames,
        Text.isAscii name = true ∧ "cors_origins".length < name.length := by decide
    refine Environment.fields_without ?_ env
    intro name listed
    obtain ⟨ascii, longer⟩ := longer name listed
    exact Environment.apart_of_length ascii (by decide) longer
  funext v
  simp only [ofJson, fields]

end KqlCompletion
