import KqlCompletion.Proofs.Schema.Format
import KqlCompletion.Proofs.Validation.Issues
import Mathlib.Data.Set.Card

/-! What is wrong with a value that is to be read as a schema, said apart from any way of reading it:
a schema is made of values of a few forms, and at each place there can be a value of the wrong kind,
or no value where there has to be one. The issues that are reported are these offences, each once and
in the order of the places. -/
namespace KqlCompletion.Schema

open Json (Value Members)
open Validation

inductive Form where
  | text
  | textOrNull
  | columns
  | column
  | tables
  | table
  | schema
  deriving DecidableEq

namespace Form

structure Field where
  name : Text
  required : Bool
  form : Form
  deriving DecidableEq

/-- The fields of an object, in the order of their declaration. -/
def fields : Form → List Field
  | .column => [⟨"name", true, .text⟩, ⟨"type", false, .text⟩, ⟨"description", false, .textOrNull⟩]
  | .table =>
    [⟨"name", true, .text⟩, ⟨"description", false, .textOrNull⟩, ⟨"columns", false, .columns⟩]
  | .schema => [⟨"tables", true, .tables⟩]
  | _ => []

def item? : Form → Option Form
  | .columns => some .column
  | .tables => some .table
  | _ => none

inductive Admits : Form → Value → Prop where
  | text (s : Text) : Admits .text (.str s)
  | someText (s : Text) : Admits .textOrNull (.str s)
  | null : Admits .textOrNull .null
  | columns (items : List Value) : Admits .columns (.arr items)
  | column (members : Members) : Admits .column (.obj members)
  | tables (items : List Value) : Admits .tables (.arr items)
  | table (members : Members) : Admits .table (.obj members)
  | schema (members : Members) : Admits .schema (.obj members)

def rule : Form → Rule
  | .text | .textOrNull => .string
  | .columns | .tables => .list
  | .column => .model "ColumnSchema"
  | .table => .model "TableSchema"
  | .schema => .model "WorkspaceSchema"

/-- Something is wrong with a value: it is of another kind, so nothing in it counts, or it lacks a
field that has to be there, or something is wrong with one of its fields or items. -/
inductive Offends : Form → Value → Issue → Prop where
  | kind {form : Form} {v : Value} (wrong : ¬ form.Admits v) : Offends form v ⟨[], form.rule, v⟩
  | missing {form : Form} {members : Members} {field : Field} (declared : field ∈ form.fields)
      (required : field.required = true) (absent : members.get? field.name = none) :
      Offends form (.obj members) ⟨[.field field.name], .missing, .obj members⟩
  | field {form : Form} {members : Members} {field : Field} {v : Value} {issue : Issue}
      (declared : field ∈ form.fields) (there : members.get? field.name = some v)
      (wrong : Offends field.form v issue) :
      Offends form (.obj members) (issue.below (.field field.name))
  | item {form item : Form} {items : List Value} {i : Nat} {v : Value} {issue : Issue}
      (kind : form.item? = some item) (there : items[i]? = some v) (wrong : Offends item v issue) :
      Offends form (.arr items) (issue.below (.index i))

/-- A place comes in front of another one: fields as they are declared, items as they are listed,
and each of them with all that is below it. -/
inductive Before : Form → List Step → List Step → Prop where
  | fields {form : Form} {first second : Field} (declared : [first, second].Sublist form.fields)
      (p q : List Step) : Before form (.field first.name :: p) (.field second.name :: q)
  | field {form : Form} {field : Field} {p q : List Step} (declared : field ∈ form.fields)
      (before : Before field.form p q) :
      Before form (.field field.name :: p) (.field field.name :: q)
  | items {form : Form} {i j : Nat} (later : i < j) (p q : List Step) :
      Before form (.index i :: p) (.index j :: q)
  | item {form item : Form} {p q : List Step} (kind : form.item? = some item) (i : Nat)
      (before : Before item p q) : Before form (.index i :: p) (.index i :: q)

/-- How many places there are at which something is wrong. -/
noncomputable def count (form : Form) (v : Value) : Nat :=
  {path | ∃ issue, form.Offends v issue ∧ issue.path = path}.ncard

theorem nodup_names (form : Form) : (form.fields.map (·.name)).Nodup := by
  cases form <;> decide

theorem Before.ne {form : Form} {p q : List Step} (before : form.Before p q) : p ≠ q := by
  induction before with
  | @fields form first second declared p q =>
    have apart := (declared.map (·.name)).nodup form.nodup_names
    intro same
    obtain ⟨name, -⟩ := List.cons_eq_cons.1 same
    simp [Step.field.inj name] at apart
  | field _ _ ih => exact fun same => ih (List.cons_eq_cons.1 same).2
  | items later =>
    intro same
    obtain ⟨index, -⟩ := List.cons_eq_cons.1 same
    exact absurd (Step.index.inj index) (Nat.ne_of_lt later)
  | item _ _ _ ih => exact fun same => ih (List.cons_eq_cons.1 same).2

section offends

variable {form : Form} {v : Value} {issue : Issue} {members : Members} {items : List Value}

theorem admits_obj {field : Field} (declared : field ∈ form.fields) (members : Members) :
    form.Admits (.obj members) := by
  cases form with
  | column => exact .column members
  | table => exact .table members
  | schema => exact .schema members
  | _ => cases declared

theorem admits_arr {item : Form} (kind : form.item? = some item) (items : List Value) :
    form.Admits (.arr items) := by
  cases form with
  | columns => exact .columns items
  | tables => exact .tables items
  | _ => cases kind

theorem eq_arr_of_admits {item : Form} (kind : form.item? = some item) (right : form.Admits v) :
    ∃ items, v = .arr items := by
  cases right with
  | columns items => exact ⟨items, rfl⟩
  | tables items => exact ⟨items, rfl⟩
  | _ => cases kind

theorem eq_obj_of_admits (object : form.fields ≠ []) (right : form.Admits v) :
    ∃ members, v = .obj members := by
  cases right with
  | column members => exact ⟨members, rfl⟩
  | table members => exact ⟨members, rfl⟩
  | schema members => exact ⟨members, rfl⟩
  | _ => exact absurd rfl object

theorem rule_of_item {item : Form} (kind : form.item? = some item) : form.rule = .list := by
  cases form with
  | columns => rfl
  | tables => rfl
  | _ => cases kind

theorem offends_of_not_admits (wrong : ¬ form.Admits v) :
    form.Offends v issue ↔ issue = ⟨[], form.rule, v⟩ := by
  constructor
  · intro offends
    cases offends with
    | kind => rfl
    | missing declared => exact absurd (admits_obj declared _) wrong
    | field declared => exact absurd (admits_obj declared _) wrong
    | item kind => exact absurd (admits_arr kind _) wrong
  · rintro rfl
    exact .kind wrong

/-- Text and null hold nothing that could be wrong. -/
theorem not_offends_of_leaf (bare : form.fields = []) (empty : form.item? = none)
    (right : form.Admits v) : ¬ form.Offends v issue := by
  intro offends
  cases offends with
  | kind wrong => exact wrong right
  | missing declared => simp [bare] at declared
  | field declared => simp [bare] at declared
  | item kind => simp [empty] at kind

/-- What is wrong with a field: it is missing, or its value is. -/
def Field.Offends (field : Field) (members : Members) (issue : Issue) : Prop :=
  (field.required = true ∧ members.get? field.name = none ∧
    issue = ⟨[.field field.name], .missing, .obj members⟩) ∨
  ∃ v inner, members.get? field.name = some v ∧ field.form.Offends v inner ∧
    issue = inner.below (.field field.name)

theorem Field.Offends.path {field : Field} (offends : field.Offends members issue) :
    ∃ p, issue.path = .field field.name :: p := by
  obtain ⟨-, -, rfl⟩ | ⟨v, inner, -, -, rfl⟩ := offends
  · exact ⟨[], rfl⟩
  · exact ⟨inner.path, rfl⟩

theorem offends_obj_iff (right : form.Admits (.obj members)) :
    form.Offends (.obj members) issue ↔ ∃ field ∈ form.fields, field.Offends members issue := by
  constructor
  · intro offends
    cases offends with
    | kind wrong => exact absurd right wrong
    | missing declared required absent => exact ⟨_, declared, .inl ⟨required, absent, rfl⟩⟩
    | field declared there wrong => exact ⟨_, declared, .inr ⟨_, _, there, wrong, rfl⟩⟩
  · rintro ⟨field, declared, ⟨required, absent, rfl⟩ | ⟨v, inner, there, wrong, rfl⟩⟩
    · exact .missing declared required absent
    · exact .field declared there wrong

theorem offends_arr_iff {item : Form} (kind : form.item? = some item) :
    form.Offends (.arr items) issue ↔
      ∃ i v inner, items[i]? = some v ∧ item.Offends v inner ∧ issue = inner.below (.index i) := by
  constructor
  · intro offends
    cases offends with
    | kind wrong => exact absurd (admits_arr kind items) wrong
    | item same there wrong =>
      obtain rfl := Option.some.inj (kind.symm.trans same)
      exact ⟨_, _, _, there, wrong, rfl⟩
  · rintro ⟨i, v, inner, there, wrong, rfl⟩
    exact .item kind there wrong

end offends
end Form

/-- A check reports what is wrong with a value of a form: nothing else, nothing twice, and each
offence in its turn. -/
structure Reports {α : Type} (form : Form) (check : Value → Checked α) : Prop where
  mem_iff (v : Value) (issue : Issue) : issue ∈ (check v).issues ↔ form.Offends v issue
  ordered (v : Value) : (check v).issues.Pairwise fun a b => form.Before a.path b.path
  explained (v : Value) : (check v).IsExplained

structure FieldReports (field : Form.Field) (members : Members) (issues : List Issue) : Prop where
  mem_iff (issue : Issue) : issue ∈ issues ↔ field.Offends members issue
  ordered : issues.Pairwise fun a b => ∃ p q,
    a.path = .field field.name :: p ∧ b.path = .field field.name :: q ∧ field.form.Before p q

/-- The issues of some fields of an object, one field after the other. -/
abbrev PartReports (fields : List Form.Field) (members : Members)
    (parts : List (List Issue)) : Prop :=
  List.Forall₂ (fun field issues => FieldReports field members issues) fields parts

section reports

variable {α : Type} {form item : Form} {check : Value → Checked α}

namespace Reports

/-- With a value of another kind there is one thing wrong, so only the others need a proof. -/
theorem of_admits (other : ∀ v, ¬ form.Admits v → (check v).issues = [⟨[], form.rule, v⟩])
    (mem_iff : ∀ v, form.Admits v → ∀ issue, issue ∈ (check v).issues ↔ form.Offends v issue)
    (ordered : ∀ v, form.Admits v →
      (check v).issues.Pairwise fun a b => form.Before a.path b.path)
    (explained : ∀ v, (check v).IsExplained) : Reports form check where
  mem_iff v issue := by
    by_cases right : form.Admits v
    · exact mem_iff v right issue
    · rw [other v right, List.mem_singleton, Form.offends_of_not_admits right]
  ordered v := by
    by_cases right : form.Admits v
    · exact ordered v right
    · rw [other v right]
      exact List.pairwise_singleton _ _
  explained := explained

theorem nodup (reports : Reports form check) (v : Value) :
    ((check v).issues.map (·.path)).Nodup :=
  List.pairwise_map.2 ((reports.ordered v).imp Form.Before.ne)

theorem count_eq (reports : Reports form check) :
    form.count = fun v => (check v).issues.length := by
  funext v
  have places : {path | ∃ issue, form.Offends v issue ∧ issue.path = path} =
      ((check v).issues.map (·.path)).toFinset := by
    ext path
    simp [reports.mem_iff]
  rw [Form.count, places, Set.ncard_coe_finset, List.toFinset_card_of_nodup (reports.nodup v),
    List.length_map]

theorem ok_iff (reports : Reports form check) (v : Value) :
    (∃ a, check v = .ok a) ↔ ∀ issue, ¬ form.Offends v issue := by
  simp only [← reports.mem_iff, ← List.eq_nil_iff_forall_not_mem]
  constructor
  · rintro ⟨a, passed⟩
    rw [passed]
    rfl
  · exact (reports.explained v).exists_ok

/-- Text or null is right or wrong as it stands. -/
theorem of_leaf (bare : form.fields = []) (empty : form.item? = none)
    (other : ∀ v, ¬ form.Admits v → (check v).issues = [⟨[], form.rule, v⟩])
    (passes : ∀ v, form.Admits v → (check v).issues = [])
    (explained : ∀ v, (check v).IsExplained) : Reports form check := by
  refine .of_admits other (fun v right issue => ?_) (fun v right => ?_) explained
  · rw [passes v right]
    exact iff_of_false List.not_mem_nil (Form.not_offends_of_leaf bare empty right)
  · rw [passes v right]
    exact .nil

/-- The items of a list are checked one after the other, so what is wrong with an item comes with
its index. -/
theorem of_items (kind : form.item? = some item) (reports : Reports item check) :
    Reports form (list check) := by
  refine .of_admits (fun v wrong => ?_) (fun v right issue => ?_) (fun v right => ?_)
    (isExplained_list reports.explained)
  · rw [Form.rule_of_item kind]
    cases v with
    | arr items => exact absurd (Form.admits_arr kind items) wrong
    | _ => rfl
  · obtain ⟨items, rfl⟩ := Form.eq_arr_of_admits kind right
    simp only [Form.offends_arr_iff kind, issues_list, List.mem_flatMap, Prod.exists,
      List.mem_zipIdx_iff_getElem?, List.mem_map, reports.mem_iff]
    constructor
    · rintro ⟨v, i, there, inner, wrong, rfl⟩
      exact ⟨i, v, inner, there, wrong, rfl⟩
    · rintro ⟨i, v, inner, there, wrong, rfl⟩
      exact ⟨v, i, there, inner, wrong, rfl⟩
  · obtain ⟨items, rfl⟩ := Form.eq_arr_of_admits kind right
    have increasing : items.zipIdx.Pairwise fun a b => a.2 < b.2 :=
      List.pairwise_map.1 (by rw [List.zipIdx_map_snd]; exact List.pairwise_lt_range')
    rw [issues_list, List.pairwise_flatMap]
    refine ⟨fun member _ => ?_, increasing.imp fun later a ha b hb => ?_⟩
    · exact List.pairwise_map.2 ((reports.ordered member.1).imp (.item kind member.2))
    · obtain ⟨p, -, rfl⟩ := List.mem_map.1 ha
      obtain ⟨q, -, rfl⟩ := List.mem_map.1 hb
      exact .items later p.path q.path

end Reports

namespace FieldReports

variable {field : Form.Field} {members : Members}

theorem of_some {v : Value} (reports : Reports field.form check)
    (there : members.get? field.name = some v) :
    FieldReports field members ((check v).issues.map (·.below (.field field.name))) where
  mem_iff issue := by
    simp only [List.mem_map, reports.mem_iff]
    constructor
    · rintro ⟨inner, wrong, rfl⟩
      exact .inr ⟨v, inner, there, wrong, rfl⟩
    · rintro (⟨-, absent, -⟩ | ⟨other, inner, same, wrong, rfl⟩)
      · cases there.symm.trans absent
      · obtain rfl := Option.some.inj (there.symm.trans same)
        exact ⟨inner, wrong, rfl⟩
  ordered := List.pairwise_map.2 ((reports.ordered v).imp fun before => ⟨_, _, rfl, rfl, before⟩)

theorem of_required (reports : Reports form check) (members : Members) (name : Text) :
    FieldReports ⟨name, true, form⟩ members (required members name check).issues := by
  rw [required]
  split
  · next v there =>
    rw [Checked.issues_under]
    exact .of_some reports there
  · next absent =>
    refine ⟨fun issue => ?_, List.pairwise_singleton _ _⟩
    simp [Checked.issues, Form.Field.Offends, absent]

theorem of_given (reports : Reports form check) (members : Members) (name : Text) :
    FieldReports ⟨name, false, form⟩ members (given members name check).issues := by
  rw [given]
  split
  · next v there =>
    rw [Checked.issues_map, Checked.issues_under]
    exact .of_some reports there
  · next absent =>
    refine ⟨fun issue => ?_, .nil⟩
    simp [Checked.issues, Form.Field.Offends, absent]

end FieldReports

namespace PartReports

variable {fields : List Form.Field} {members : Members} {parts : List (List Issue)}

theorem mem_iff (told : PartReports fields members parts) (issue : Issue) :
    issue ∈ parts.flatten ↔ ∃ field ∈ fields, field.Offends members issue := by
  induction told with
  | nil => simp
  | cons first _ ih => simp [first.mem_iff, ih]

theorem ordered (told : PartReports fields members parts) (declared : fields.Sublist form.fields) :
    parts.flatten.Pairwise fun a b => form.Before a.path b.path := by
  induction told with
  | nil => exact .nil
  | @cons field issues fields parts first rest ih =>
    have own : field ∈ form.fields := declared.subset List.mem_cons_self
    rw [List.flatten_cons, List.pairwise_append]
    refine ⟨first.ordered.imp ?_, ih ((List.sublist_cons_self _ _).trans declared), ?_⟩
    · rintro a b ⟨p, q, ha, hb, before⟩
      rw [ha, hb]
      exact .field own before
    · intro a ha b hb
      obtain ⟨other, listed, offends⟩ := (PartReports.mem_iff rest b).1 hb
      obtain ⟨p, hp⟩ := ((first.mem_iff a).1 ha).path
      obtain ⟨q, hq⟩ := offends.path
      rw [hp, hq]
      exact .fields (((List.singleton_sublist.2 listed).cons_cons field).trans declared) p q

end PartReports

/-- An object is checked field by field. -/
theorem Reports.of_fields {read : Members → Checked α} (object : form.fields ≠ [])
    (told : ∀ members, ∃ parts, (read members).issues = parts.flatten ∧
      PartReports form.fields members parts)
    (explained : ∀ members, (read members).IsExplained) :
    Reports form fun v => members form.rule v >>= read := by
  obtain ⟨field, declared⟩ := List.exists_mem_of_ne_nil _ object
  refine .of_admits (fun v wrong => ?_) (fun v right issue => ?_) (fun v right => ?_)
    (isExplained_members explained form.rule)
  · cases v with
    | obj members => exact absurd (Form.admits_obj declared members) wrong
    | _ => rfl
  · obtain ⟨members, rfl⟩ := Form.eq_obj_of_admits object right
    obtain ⟨parts, flat, told⟩ := told members
    rw [Form.offends_obj_iff right, ← told.mem_iff, ← flat]
    rfl
  · obtain ⟨members, rfl⟩ := Form.eq_obj_of_admits object right
    obtain ⟨parts, flat, told⟩ := told members
    exact flat ▸ told.ordered (.refl _)

end reports

section forms

theorem reports_text : Reports .text text := by
  refine .of_leaf rfl rfl (fun v wrong => ?_) (fun v right => ?_) isExplained_text
  · cases v with
    | str s => exact absurd (.text s) wrong
    | _ => rfl
  · cases right
    rfl

theorem reports_textOrNull : Reports .textOrNull (nullable text) := by
  refine .of_leaf rfl rfl (fun v wrong => ?_) (fun v right => ?_)
    (isExplained_nullable isExplained_text)
  · cases v with
    | str s => exact absurd (.someText s) wrong
    | null => exact absurd .null wrong
    | _ => rfl
  · cases right <;> rfl

theorem reports_column : Reports .column Column.ofJson := by
  refine .of_fields (by decide) (fun members => ?_) fun members => ?_
  · exact ⟨[_, _, _], by simp, .cons (.of_required reports_text members "name")
      (.cons (.of_given reports_text members "type")
        (.cons (.of_given reports_textOrNull members "description") .nil))⟩
  · exact (isExplained_required reports_text.explained members _).map3
      (isExplained_given reports_text.explained members _)
      (isExplained_given reports_textOrNull.explained members _) _

theorem reports_table : Reports .table Table.ofJson := by
  have columns : Reports .columns (list Column.ofJson) := .of_items rfl reports_column
  refine .of_fields (by decide) (fun members => ?_) fun members => ?_
  · exact ⟨[_, _, _], by simp, .cons (.of_required reports_text members "name")
      (.cons (.of_given reports_textOrNull members "description")
        (.cons (.of_given columns members "columns") .nil))⟩
  · exact (isExplained_required reports_text.explained members _).map3
      (isExplained_given reports_textOrNull.explained members _)
      (isExplained_given columns.explained members _) _

theorem reports_schema : Reports .schema ofJson := by
  have tables : Reports .tables (list Table.ofJson) := .of_items rfl reports_table
  refine .of_fields (by decide) (fun members => ?_) fun members => ?_
  · exact ⟨[_], by simp, .cons (.of_required tables members "tables") .nil⟩
  · exact (isExplained_required tables.explained members _).map _

end forms
end KqlCompletion.Schema
