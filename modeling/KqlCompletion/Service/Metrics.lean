import KqlCompletion.Query.Context
import KqlCompletion.Service.Tally

/-! Counters of what the service does, and their exposition as lines of text. -/
namespace KqlCompletion

open Query (Position)

inductive LoadStatus where
  | success
  | failure
  deriving DecidableEq, Repr

def LoadStatus.name : LoadStatus → String
  | .success => "success"
  | .failure => "failure"

/-- `returned` counts completions by the number of their suggestions. -/
structure Metrics where
  enginesActive : Nat := 0
  loads : Tally LoadStatus := []
  loadAttempts : Nat := 0
  completions : Tally Position := []
  returned : Tally Nat := []
  deriving DecidableEq, Repr

namespace Metrics

/-- A completion of a query at `position` had `size` suggestions. -/
def completed (position : Position) (size : Nat) (metrics : Metrics) : Metrics :=
  { metrics with
    completions := metrics.completions.bump position
    returned := metrics.returned.bump size }

def returnedSum (metrics : Metrics) : Nat :=
  metrics.returned.foldr (fun entry sum => entry.1 * entry.2 + sum) 0

def returnedWithin (metrics : Metrics) (bound : Nat) : Nat :=
  Tally.total (metrics.returned.filter (·.1 ≤ bound))

def bounds : List Nat := [0, 1, 5, 10, 25, 50, 100, 250]

end Metrics

namespace Exposition

def escape : Char → List Char
  | '\\' => ['\\', '\\']
  | '\n' => ['\\', 'n']
  | '"' => ['\\', '"']
  | c => [c]

def label (name value : String) : String :=
  name ++ "=\"" ++ String.ofList (value.toList.flatMap escape) ++ "\""

/-- A count has one decimal place; from a million on it is written with an exponent. -/
def amount (n : Nat) : String :=
  let digits := (toString n).toList
  if digits.length ≤ 6 then toString n ++ ".0"
  else
    let places := ((digits.drop 1).reverse.dropWhile (· == '0')).reverse
    String.ofList (digits.take 1 ++ (if places.isEmpty then [] else '.' :: places)) ++ "e+0" ++
      toString (digits.length - 1)

def line (name : String) (labels : List (String × String)) (n : Nat) : String :=
  let written := labels.map fun entry => label entry.1 entry.2
  "kql_intellisense_" ++ name ++
    (if written.isEmpty then "" else "\x7b" ++ ",".intercalate written ++ "\x7d") ++ " " ++ amount n

/-- One line for each label that has been counted. -/
def family (name : String) (labels : Label → List (String × String)) (tally : Tally Label) :
    List String :=
  tally.map fun entry => line name (labels entry.1) entry.2

def sorted (lines : List String) : List String := lines.mergeSort fun a b => !decide (b < a)

end Exposition

open Exposition in
def Metrics.lines (metrics : Metrics) : List String :=
  [line "engines_active" [] metrics.enginesActive] ++
    family "schema_loads_total" (fun status => [("status", status.name)]) metrics.loads ++
    [line "schema_load_duration_seconds_count" [] metrics.loadAttempts] ++
    family "suggestion_requests_total" (fun position => [("position", position.name)])
      metrics.completions ++
    (Metrics.bounds.map fun bound =>
      line "suggestions_returned_bucket" [("le", amount bound)] (metrics.returnedWithin bound)) ++
    [line "suggestions_returned_bucket" [("le", "+Inf")] metrics.returned.total,
      line "suggestions_returned_count" [] metrics.returned.total,
      line "suggestions_returned_sum" [] metrics.returnedSum]

end KqlCompletion
