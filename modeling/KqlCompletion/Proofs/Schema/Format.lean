import KqlCompletion.Schema.Format
import Mathlib.Data.List.Forall2

/-! Schemas and the JSON that they are read from. A value is read as a schema by what its known
members say, and the schema written as it was given is that value again, without its other members.
Written in full or as it was given, a schema reads back with the contents that it had. -/
namespace KqlCompletion

open Json (Value Members)

section members

variable {name field : Text} {value : Value}

namespace Json.Members

@[simp] theorem get?_nil (field : Text) : get? [] field = none := rfl

@[simp] theorem get?_cons (name : Text) (value : Value) (members : Members) (field : Text) :
    get? ((name, value) :: members) field = if name = field then some value
      else get? members field := by
  by_cases same : name = field <;> simp [get?, same]

@[simp] theorem get?_append (front back : Members) (field : Text) :
    get? (front ++ back) field = (get? front field).or (get? back field) := by
  simp [get?, List.find?_append, Option.map_or]

end Json.Members

@[simp] theorem Schema.get?_member? (name : Text) (value : Option Value) (field : Text) :
    Members.get? (Schema.member? name value) field = if name = field then value else none := by
  cases value <;> simp [Schema.member?]

end members

namespace Json

/-- Values that differ at most in the order in which objects have their members. -/
inductive Same : Value → Value → Prop where
  | refl (v : Value) : Same v v
  | arr {items others : List Value} : List.Forall₂ Same items others →
    Same (.arr items) (.arr others)
  | obj {members others : Members} :
    (∀ name, Option.Rel Same (members.get? name) (others.get? name)) →
    Same (.obj members) (.obj others)

/-- Drops the members that are not known, and treats each of the others as known. -/
def Members.keeping (known : List (Text × (Value → Value))) (members : Members) : Members :=
  members.filterMap fun member =>
    (known.lookup member.1).map fun inner => (member.1, inner member.2)

def keeping (known : List (Text × (Value → Value))) : Value → Value
  | .obj members => .obj (Members.keeping known members)
  | v => v

def eachItem (inner : Value → Value) : Value → Value
  | .arr items => .arr (items.map inner)
  | v => v

@[simp] theorem lookup_cons {α : Type} (name : Text) (a : α) (known : List (Text × α))
    (field : Text) : List.lookup field ((name, a) :: known) =
      if name = field then some a else List.lookup field known := by
  by_cases same : name = field
  · simp [same]
  · simp [List.lookup_cons, beq_eq_false_iff_ne.2 (Ne.symm same), same]

theorem Members.get?_keeping (known : List (Text × (Value → Value))) (members : Members)
    (name : Text) : (Members.keeping known members).get? name =
      (known.lookup name).bind fun inner => (members.get? name).map inner := by
  rw [Members.keeping]
  induction members with
  | nil => simp
  | cons member members ih =>
    obtain ⟨first, value⟩ := member
    by_cases same : first = name
    · subst same
      cases kept : known.lookup first with
      | none =>
        rw [kept] at ih
        simpa [List.filterMap_cons, kept] using ih
      | some inner => simp [kept]
    · cases kept : known.lookup first with
      | none => simp [kept, same, ih]
      | some inner => simp [kept, same, ih]

def Members.without (name : Text) (members : Members) : Members :=
  members.filter (·.1 != name)

theorem Members.get?_without (name : Text) (members : Members) (field : Text) :
    (members.without name).get? field = if field = name then none else members.get? field := by
  rw [without, get?, get?, List.find?_filter]
  split
  · next same =>
    rw [Option.map_eq_none_iff, List.find?_eq_none]
    simp [same]
  · next other =>
    congr 2
    funext member
    by_cases found : member.1 = field <;> simp [found, other]

def Members.renamed (name other : Text) (members : Members) : Members :=
  members.map fun member => (if member.1 = name then other else member.1, member.2)

theorem Members.get?_renamed {name other : Text} {members : Members} (apart : name ≠ other)
    (absent : members.get? other = none) (field : Text) :
    (members.renamed name other).get? field =
      if field = name then none
      else if field = other then members.get? name
      else members.get? field := by
  rw [renamed]
  induction members with
  | nil => simp
  | cons member members ih =>
    obtain ⟨first, value⟩ := member
    rw [get?_cons] at absent
    rw [List.map_cons, get?_cons, get?_cons, get?_cons, ih (by grind)]
    grind

attribute [simp] Same.refl

@[simp] theorem Same.rel_refl (v : Option Value) : Option.Rel Same v v := by
  cases v with
  | none => exact .none
  | some v => exact .some (.refl v)

theorem same_keeping {known : List (Text × (Value → Value))} {members others : Members}
    (same : ∀ name, Option.Rel Same (members.get? name)
      ((known.lookup name).bind fun inner => (others.get? name).map inner)) :
    Same (.obj members) (keeping known (.obj others)) := by
  refine .obj fun name => ?_
  rw [Members.get?_keeping]
  exact same name

theorem same_eachItem {α : Type} {read : Value → Validation.Checked α} {write : α → Value}
    {known : Value → Value} (same : ∀ {v a}, read v = .ok a → Same (write a) (known v))
    {items : List Value} {results : List α}
    (all : List.Forall₂ (fun item a => read item = .ok a) items results) :
    Same (.arr (results.map write)) (eachItem known (.arr items)) := by
  refine .arr ?_
  induction all with
  | nil => exact .nil
  | cons first _ ih => exact .cons (same first) ih

end Json

namespace Validation

variable {α β : Type} {v : Value} {fields : Members} {name : Text}

theorem text_eq_ok_iff {s : Text} : text v = .ok s ↔ v = .str s := by
  cases v <;> simp [text, Checked.fail]

theorem string_str (written : String) : string (.str written) = .ok written := by
  rw [string, text, Except.map, Text.shown_of]

theorem nullable_text_eq_ok_iff {s : Option Text} :
    nullable text v = .ok s ↔ v = Schema.nullOr s := by
  cases s <;> cases v <;> simp [nullable, text, Checked.fail, Schema.nullOr, Except.map]

theorem list_eq_ok_iff {check : Value → Checked α} {results : List α} :
    list check v = .ok results ↔ ∃ items, v = .arr items ∧
      List.Forall₂ (fun item result => check item = .ok result) items results := by
  cases v with
  | arr items =>
    simp only [list, Checked.each_eq_ok_iff, Value.arr.injEq, exists_eq_left']
    rw [← List.forall₂_eq_eq_eq, List.forall₂_map_left_iff, List.forall₂_map_right_iff]
  | _ => simp [list, Checked.fail]

theorem required_eq_ok_iff {check : Value → Checked α} {a : α} :
    required fields name check = .ok a ↔ ∃ v, fields.get? name = some v ∧ check v = .ok a := by
  cases found : fields.get? name <;> simp [required, found]

theorem given_eq_ok_iff {check : Value → Checked α} {a : Option α} :
    given fields name check = .ok a ↔
      Option.Rel (fun v b => check v = .ok b) (fields.get? name) a := by
  rw [given]
  cases found : fields.get? name with
  | none => cases a <;> simp
  | some v =>
    cases checked : check v with
    | error issues => cases a <;> simp [checked, Checked.under, Except.map]
    | ok b => cases a <;> simp [checked, Checked.under, Except.map]

/-- A value that is what another one is written as. -/
theorem rel_eq_map_iff {f : β → α} {x : Option α} {y : Option β} :
    Option.Rel (fun a b => a = f b) x y ↔ x = y.map f := by
  cases x <;> cases y <;> simp

theorem forall₂_of_written {check : Value → Checked α} {write : α → Value} {f : α → α}
    (back : ∀ a, check (write a) = .ok (f a)) (results : List α) :
    List.Forall₂ (fun item a => check item = .ok a) (results.map write) (results.map f) := by
  simp [List.forall₂_map_left_iff, List.forall₂_map_right_iff, List.forall₂_same, back]

theorem map3_eq_ok_iff {γ δ : Type} {f : α → β → γ → δ} {a : Checked α} {b : Checked β}
    {c : Checked γ} {d : δ} : Checked.map3 f a b c = .ok d ↔
      ∃ x y z, a = .ok x ∧ b = .ok y ∧ c = .ok z ∧ f x y z = d := by
  simp [Checked.map3, and_assoc]

end Validation

/-- Items that agree in what `f` tells of them agree in all that follows from it. -/
theorem map_eq_of_map_eq {α β γ : Type} {f : α → β} {g : α → γ}
    (follows : ∀ a b, f a = f b → g a = g b) {items others : List α}
    (same : items.map f = others.map f) : items.map g = others.map g := by
  induction items generalizing others with
  | nil =>
    obtain rfl : others = [] := by simpa using same.symm
    rfl
  | cons item items ih =>
    cases others with
    | nil => cases same
    | cons other others =>
      obtain ⟨first, rest⟩ := List.cons_eq_cons.1 same
      exact List.cons_eq_cons.2 ⟨follows item other first, ih rest⟩

namespace Schema

open Validation

variable {v : Value}

namespace Column

variable {column : Column}

/-- What a value has to say to be read as a column. -/
theorem ofJson_eq_ok_iff : ofJson v = .ok column ↔ ∃ fields : Members, v = .obj fields ∧
    fields.get? "name" = some (.str column.name) ∧
    fields.get? "type" = column.givenType.map .str ∧
    fields.get? "description" = column.givenDescription.map nullOr := by
  obtain ⟨name, type, description⟩ := column
  cases v with
  | obj fields =>
    simp [ofJson, members, bind, Except.bind, map3_eq_ok_iff, required_eq_ok_iff, text_eq_ok_iff,
      given_eq_ok_iff, nullable_text_eq_ok_iff, rel_eq_map_iff]
  | _ => simp [ofJson, members, Checked.fail, bind, Except.bind]

def known : Value → Value :=
  Json.keeping [("name", id), ("type", id), ("description", id)]

/-- The column with its defaults as if they had been given. -/
def filled (column : Column) : Column :=
  ⟨column.name, some column.type, some column.description⟩

/-- What a column says, given or not. -/
def contents (column : Column) : Text × Text × Option Text :=
  (column.name, column.type, column.description)

theorem contents_filled (column : Column) : column.filled.contents = column.contents := rfl

theorem toJson_congr {other : Column} (same : column.contents = other.contents) :
    column.toJson = other.toJson := by
  obtain ⟨name, rest⟩ := Prod.mk.inj same
  obtain ⟨type, description⟩ := Prod.mk.inj rest
  rw [toJson, toJson, name, type, description]

theorem same_known (read : ofJson v = .ok column) : Json.Same column.givenJson (known v) := by
  obtain ⟨fields, rfl, name, type, description⟩ := ofJson_eq_ok_iff.1 read
  apply Json.same_keeping
  intro field
  rcases eq_or_ne (Text.of "name") field with rfl | noName
  · simp [name]
  rcases eq_or_ne (Text.of "type") field with rfl | noType
  · simp [type]
  rcases eq_or_ne (Text.of "description") field with rfl | noDescription
  · simp [description]
  simp [noName, noType, noDescription]

theorem ofJson_givenJson (column : Column) : ofJson column.givenJson = .ok column :=
  ofJson_eq_ok_iff.2 ⟨_, rfl, by simp, by simp, by simp⟩

theorem ofJson_toJson (column : Column) : ofJson column.toJson = .ok column.filled :=
  ofJson_eq_ok_iff.2 ⟨_, rfl, by simp [filled], by simp [filled], by simp [filled]⟩

end Column

namespace Table

variable {table : Table}

theorem ofJson_eq_ok_iff : ofJson v = .ok table ↔ ∃ fields : Members, v = .obj fields ∧
    fields.get? "name" = some (.str table.name) ∧
    fields.get? "description" = table.givenDescription.map nullOr ∧
    Option.Rel (fun v columns => ∃ items, v = .arr items ∧
        List.Forall₂ (fun item column => Column.ofJson item = .ok column) items columns)
      (fields.get? "columns") table.givenColumns := by
  obtain ⟨name, description, columns⟩ := table
  cases v with
  | obj fields =>
    simp [ofJson, members, bind, Except.bind, map3_eq_ok_iff, required_eq_ok_iff, text_eq_ok_iff,
      given_eq_ok_iff, nullable_text_eq_ok_iff, rel_eq_map_iff, list_eq_ok_iff]
  | _ => simp [ofJson, members, Checked.fail, bind, Except.bind]

def known : Value → Value :=
  Json.keeping [("name", id), ("description", id), ("columns", Json.eachItem Column.known)]

def filled (table : Table) : Table :=
  ⟨table.name, some table.description, some (table.columns.map Column.filled)⟩

def contents (table : Table) :
    Text × Option Text × List (Text × Text × Option Text) :=
  (table.name, table.description, table.columns.map Column.contents)

theorem contents_filled (table : Table) : table.filled.contents = table.contents := by
  simp [contents, filled, columns, description, Function.comp_def, Column.contents_filled]

theorem toJson_congr {other : Table} (same : table.contents = other.contents) :
    table.toJson = other.toJson := by
  obtain ⟨name, rest⟩ := Prod.mk.inj same
  obtain ⟨description, columns⟩ := Prod.mk.inj rest
  have columns := map_eq_of_map_eq (fun _ _ => Column.toJson_congr) columns
  rw [toJson, toJson, name, description, columns]

theorem same_known (read : ofJson v = .ok table) : Json.Same table.givenJson (known v) := by
  obtain ⟨fields, rfl, name, description, columns⟩ := ofJson_eq_ok_iff.1 read
  apply Json.same_keeping
  intro field
  rcases eq_or_ne (Text.of "name") field with rfl | noName
  · simp [name]
  rcases eq_or_ne (Text.of "description") field with rfl | noDescription
  · simp [description]
  rcases eq_or_ne (Text.of "columns") field with rfl | noColumns
  · obtain ⟨title, told, listed⟩ := table
    dsimp only at columns
    generalize fields.get? "columns" = found at columns ⊢
    cases columns with
    | none => simp
    | some columns =>
      obtain ⟨items, rfl, all⟩ := columns
      simpa using Json.same_eachItem Column.same_known all
  simp [noName, noDescription, noColumns]

theorem ofJson_givenJson (table : Table) : ofJson table.givenJson = .ok table := by
  refine ofJson_eq_ok_iff.2 ⟨_, rfl, by simp, by simp, ?_⟩
  cases given : table.givenColumns with
  | none => simp
  | some columns =>
    have back := forall₂_of_written (f := id) Column.ofJson_givenJson columns
    simpa using back

theorem ofJson_toJson (table : Table) : ofJson table.toJson = .ok table.filled := by
  refine ofJson_eq_ok_iff.2 ⟨_, rfl, by simp [filled], by simp [filled], ?_⟩
  simpa [filled] using forall₂_of_written Column.ofJson_toJson table.columns

end Table
variable {schema : Schema}

theorem ofJson_eq_ok_iff : ofJson v = .ok schema ↔ ∃ (fields : Members) (items : List Value),
    v = .obj fields ∧ fields.get? "tables" = some (.arr items) ∧
      List.Forall₂ (fun item table => Table.ofJson item = .ok table) items schema.tables := by
  obtain ⟨tables⟩ := schema
  have lifted (checked : Checked (List Table)) :
      checked.map Schema.mk = .ok ⟨tables⟩ ↔ checked = .ok tables := by
    cases checked <;> simp [Except.map]
  cases v with
  | obj fields =>
    simp [ofJson, members, bind, Except.bind, lifted, required_eq_ok_iff, list_eq_ok_iff]
  | _ => simp [ofJson, members, Checked.fail, bind, Except.bind]

def known : Value → Value :=
  Json.keeping [("tables", Json.eachItem Table.known)]

def filled (schema : Schema) : Schema := ⟨schema.tables.map Table.filled⟩

def contents (schema : Schema) :
    List (Text × Option Text × List (Text × Text × Option Text)) :=
  schema.tables.map Table.contents

theorem contents_filled (schema : Schema) : schema.filled.contents = schema.contents := by
  simp [contents, filled, Function.comp_def, Table.contents_filled]

/-- Written with its defaults, a schema shows its contents and nothing else. -/
theorem toJson_congr {other : Schema} (same : schema.contents = other.contents) :
    schema.toJson = other.toJson := by
  rw [toJson, toJson, map_eq_of_map_eq (fun _ _ => Table.toJson_congr) same]

/-- A schema written as it was given is the value that it was read from, but for the members that
are not known, at every level. -/
theorem same_known (read : ofJson v = .ok schema) : Json.Same schema.givenJson (known v) := by
  obtain ⟨fields, items, rfl, tables, all⟩ := ofJson_eq_ok_iff.1 read
  apply Json.same_keeping
  intro field
  rcases eq_or_ne (Text.of "tables") field with rfl | noTables
  · simpa [tables] using Json.same_eachItem Table.same_known all
  simp [noTables]

theorem ofJson_givenJson (schema : Schema) : ofJson schema.givenJson = .ok schema := by
  refine ofJson_eq_ok_iff.2 ⟨_, schema.tables.map Table.givenJson, rfl, by simp, ?_⟩
  simpa using forall₂_of_written (f := id) Table.ofJson_givenJson schema.tables

theorem ofJson_toJson (schema : Schema) : ofJson schema.toJson = .ok schema.filled := by
  refine ofJson_eq_ok_iff.2 ⟨_, schema.tables.map Table.toJson, rfl, by simp, ?_⟩
  exact forall₂_of_written Table.ofJson_toJson schema.tables

end Schema
end KqlCompletion
