import KqlCompletion.Json.Display
import KqlCompletion.Suggestion.Basic
import KqlCompletion.Validation.Checked

/-! Suggestions as JSON. The member `type` tells the kind; the insert text may be given under either
of two names but is written under one. -/
namespace KqlCompletion.Suggestion

open Json (Value Members)
open Validation

def insertTextName : Text := "insertText"
def insertTextAlias : Text := "insert_text"

/-- The first name decides if both are there, and it is the one that is missed. -/
def insertTextOf (fields : Members) : Checked Text :=
  match fields.get? insertTextName, fields.get? insertTextAlias with
  | none, some v => Checked.under (.field insertTextAlias) (text v)
  | _, _ => required fields insertTextName text

def ofFields (kind : Kind) (fields : Members) : Checked Suggestion :=
  Checked.map4 (Suggestion.mk kind) (required fields "value" text) (required fields "label" text)
    (given fields "description" text) (insertTextOf fields)

def kindOf (fields : Members) : Checked Kind :=
  match fields.get? "type" with
  | none => Checked.fail .tagPresent (.obj fields)
  | some tag =>
    match tag.str?.bind Kind.ofTag? with
    | some kind => .ok kind
    | none => Checked.fail (.tagKnown tag.display (Kind.all.map Kind.tag)) (.obj fields)

def ofJson (v : Value) : Checked Suggestion := do
  let fields ← members .modelAttributes v
  let kind ← kindOf fields
  Checked.under (.field kind.tag) (ofFields kind fields)

def toJson (suggestion : Suggestion) : Value :=
  .obj [("type", .str suggestion.kind.tag), ("value", .str suggestion.value),
    ("label", .str suggestion.label), ("description", .str suggestion.description),
    (insertTextName, .str suggestion.insertText)]

/-- Leaves out a description that was not given. -/
def givenJson (suggestion : Suggestion) : Value :=
  let front : Members := [("type", .str suggestion.kind.tag), ("value", .str suggestion.value),
    ("label", .str suggestion.label)]
  let description : Members :=
    suggestion.givenDescription.elim [] fun text => [("description", .str text)]
  .obj (front ++ description ++ [(insertTextName, .str suggestion.insertText)])

end KqlCompletion.Suggestion
