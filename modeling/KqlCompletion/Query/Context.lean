import KqlCompletion.Text.Blank
import KqlCompletion.Text.LetterCase

/-! Where the editor's caret stands in an unfinished query. The caret is at the end of the text:
only the last line counts, its last piece is the word being typed and the piece before it decides
what may come next. -/
namespace KqlCompletion.Query

inductive Position where
  | startOfQuery
  | afterColumnKeyword
  | afterGroupingKeyword
  | afterSummarize
  | generalToken
  deriving DecidableEq, Repr

def Position.name : Position → String
  | .startOfQuery => "START_OF_QUERY"
  | .afterColumnKeyword => "AFTER_COLUMN_KEYWORD"
  | .afterGroupingKeyword => "AFTER_GROUPING_KEYWORD"
  | .afterSummarize => "AFTER_SUMMARIZE"
  | .generalToken => "GENERAL_TOKEN"

def columnKeywords : List Text := ["where", "extend", "project"]
def groupingKeywords : List Text := ["by", "on"]
def summarizeKeyword : Text := "summarize"
def pipe : Text := "|"

/-- The word being typed is a pipe, or a pipe was the last word finished. -/
def isAtPipe (currentWord previousWord : Text) : Bool :=
  currentWord == pipe || (currentWord.isEmpty && previousWord == pipe)

def isBlankLine (line : Text) : Bool := (Text.strip line).isEmpty

def Position.afterWord (word : Text) : Position :=
  let keyword := Text.lower word
  if columnKeywords.contains keyword then .afterColumnKeyword
  else if groupingKeywords.contains keyword then .afterGroupingKeyword
  else if keyword == summarizeKeyword then .afterSummarize
  else .generalToken

def classify (currentLine currentWord previousWord : Text) : Position :=
  if isBlankLine currentLine || isAtPipe currentWord previousWord then .startOfQuery
  else .afterWord previousWord

def isTimeWord (word : Text) : Bool :=
  ["ago", "between"].any fun marker => Text.occursIn (Text.of marker) word

structure Context where
  fullText : Text
  currentLine : Text
  currentWord : Text
  previousWord : Text
  position : Position
  timeContext : Bool := false
  deriving DecidableEq, Repr

namespace Context

def atPipe (context : Context) : Bool := isAtPipe context.currentWord context.previousWord

/-- The last piece of a line and the one before it, each empty if there is none. -/
def lastWords (line : Text) : Text × Text :=
  match (Text.pieces line).reverse with
  | [] => ([], [])
  | [current] => (current, [])
  | current :: previous :: _ => (current, previous)

def ofText (text : Text) : Context :=
  let currentLine := Text.lastLine text
  let (currentWord, previousWord) := lastWords currentLine
  { fullText := text, currentLine, currentWord, previousWord
    position := classify currentLine currentWord previousWord
    timeContext := isTimeWord currentWord }

def absent : Context := ⟨[], [], [], [], .generalToken, false⟩

def of? (text : Option Text) : Context := text.elim absent ofText

end Context
end KqlCompletion.Query
