import KqlCompletion.Schema.Format
import KqlCompletion.Suggestion.Format
import KqlCompletion.Template
import KqlCompletion.Validation.Scalar

/-! What clients send to the service and what it answers, as JSON. Where a message has two written
forms, `toJson` writes every field and `givenJson` only the fields that were given. -/
namespace KqlCompletion

open Json (Value Members)
open Validation

namespace Api

/-- Asks to load a workspace's schema. The schema service is configured, never named by a client,
so nothing but the token is accepted. -/
structure LoadRequest where
  token : Text
  deriving DecidableEq, Repr

def LoadRequest.ofFields (fields : Members) : Checked LoadRequest :=
  Checked.map2 (fun token _ => ⟨token⟩) (required fields "token" text) (closed fields ["token"])

def LoadRequest.ofJson (v : Value) : Checked LoadRequest := do
  LoadRequest.ofFields (← members (.model "SchemaLoadRequest") v)

def LoadRequest.toJson (request : LoadRequest) : Value := .obj [("token", .str request.token)]

structure LoadReport where
  loaded : Bool
  workspace : Text
  givenTableCount : Option Int
  deriving DecidableEq, Repr

def LoadReport.ofJson (v : Value) : Checked LoadReport := do
  let fields ← members (.model "SchemaLoadResponse") v
  Checked.map3 LoadReport.mk (required fields "loaded" boolean)
    (required fields "workspace_id" text)
    (given fields "table_count" integer)

def LoadReport.toJson (report : LoadReport) : Value :=
  .obj [("loaded", .bool report.loaded), ("workspace_id", .str report.workspace),
    ("table_count", .int (report.givenTableCount.getD 0))]

def LoadReport.givenJson (report : LoadReport) : Value :=
  let front : Members :=
    [("loaded", .bool report.loaded), ("workspace_id", .str report.workspace)]
  .obj (front ++ Schema.member? "table_count" (report.givenTableCount.map .int))

/-- Asks for the completion of a text. The cursor is accepted and has no influence. -/
structure CompletionRequest where
  givenText : Option Text
  givenCursor : Option (Option Int)
  deriving DecidableEq, Repr

def CompletionRequest.text (request : CompletionRequest) : Text := request.givenText.getD []

def CompletionRequest.ofFields (fields : Members) : Checked CompletionRequest :=
  Checked.map2 CompletionRequest.mk (given fields "text" Validation.text)
    (given fields "cursor_position" (nullable integer))

def CompletionRequest.ofJson (v : Value) : Checked CompletionRequest := do
  CompletionRequest.ofFields (← members (.model "SuggestionRequest") v)

def intOrNull (n : Option Int) : Value := n.elim .null .int

def CompletionRequest.toJson (request : CompletionRequest) : Value :=
  .obj [("text", .str request.text), ("cursor_position", intOrNull request.givenCursor.join)]

def CompletionRequest.givenJson (request : CompletionRequest) : Value :=
  .obj (Schema.member? "text" (request.givenText.map .str) ++
    Schema.member? "cursor_position" (request.givenCursor.map intOrNull))

def itemsJson (items : List Value) : Value := .obj [("items", .arr items)]

def completionOfJson (v : Value) : Checked (List Suggestion) := do
  required (← members (.model "SuggestionListResponse") v) "items" (list Suggestion.ofJson)

def completionJson (suggestions : List Suggestion) : Value :=
  itemsJson (suggestions.map Suggestion.toJson)

def templatesOfJson (v : Value) : Checked (List Template) := do
  required (← members (.model "TemplateListResponse") v) "items" (list Template.ofJson)

def templatesJson (templates : List Template) : Value := itemsJson (templates.map Template.toJson)

end Api
end KqlCompletion
