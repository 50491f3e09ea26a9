import KqlCompletion.Schema.Basic

/-! Completion suggestions. An editor shows the label and the description, inserts the insert text
and puts the caret where the placeholder stands. -/
namespace KqlCompletion

namespace Suggestion

inductive Kind where
  | keyword
  | function
  | table
  | column
  | timeRange
  deriving DecidableEq, Repr

def Kind.all : List Kind := [.keyword, .function, .table, .column, .timeRange]

def Kind.tag : Kind → String
  | .keyword => "keyword"
  | .function => "function"
  | .table => "table"
  | .column => "column"
  | .timeRange => "timerange"

def Kind.ofTag? (tag : Text) : Option Kind := Kind.all.find? fun kind => Text.of kind.tag == tag

end Suggestion

/-- A description may be left out. -/
structure Suggestion where
  kind : Suggestion.Kind
  value : Text
  label : Text
  givenDescription : Option Text
  insertText : Text
  deriving DecidableEq, Repr

namespace Suggestion

def description (suggestion : Suggestion) : Text := suggestion.givenDescription.getD []

/-- A suggestion that is labelled with what it completes to. -/
def plain (kind : Kind) (value description : Text) (insertText : Text := value) : Suggestion :=
  ⟨kind, value, value, some description, insertText⟩

def placeCaret : Text → Text
  | .char '(' :: .char ')' :: text => '(' :: '$' :: '0' :: ')' :: placeCaret text
  | c :: text => c :: placeCaret text
  | [] => []

end Suggestion
end KqlCompletion
