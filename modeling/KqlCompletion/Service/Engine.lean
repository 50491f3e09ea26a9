import KqlCompletion.SchemaService.Load

/-! A completion engine holds at most one schema, together with the workspace it was loaded for. A
load that succeeds replaces both, whichever load that is: of overlapping loads the last to complete
wins. A load that fails leaves them and notes its error. -/
namespace KqlCompletion

structure Holding where
  workspace : String
  schema : Schema
  deriving DecidableEq, Repr

structure Engine where
  holding : Option Holding := none
  lastError : Option SchemaService.LoadError := none
  deriving DecidableEq, Repr

namespace Engine

def schema (engine : Engine) : Option Schema := engine.holding.map (·.schema)

def tableCount (engine : Engine) : Nat := engine.schema.elim 0 (·.tables.length)

/-- A load for `workspace` completes. One that is broken off changes nothing. -/
def complete (workspace : String) (outcome : SchemaService.Outcome) (engine : Engine) : Engine :=
  match outcome with
  | .loaded schema => ⟨some ⟨workspace, schema⟩, none⟩
  | .failed error => { engine with lastError := some error }
  | .brokenOff _ => engine

/-- Drops the schema; the last error stays. -/
def clear (engine : Engine) : Engine := { engine with holding := none }

end Engine
end KqlCompletion
