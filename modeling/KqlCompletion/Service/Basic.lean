import KqlCompletion.Service.Log
import KqlCompletion.Service.Metrics
import KqlCompletion.Service.Store
import KqlCompletion.Suggestion.Provider

/-! The service behind all clients: a store of engines and the metrics. Every operation is a step
from one state to the next that also tells what was logged.

A load is two steps. The first acquires the workspace's engine and gives a ticket; the second
completes the load on that engine, whatever has become of it in between. -/
namespace KqlCompletion

open Log (Event)

structure Service where
  store : Store
  metrics : Metrics := {}
  deriving DecidableEq, Repr

namespace Service

def engine (service : Service) (id : EngineId) : Engine := service.store.engine id

/-- The workspace's engine, made if need be. Engines in use are counted anew only when one is
made. -/
def acquire (workspace : String) (service : Service) : Service × EngineId × List Event :=
  let (store, id, evicted) := service.store.acquire workspace
  let metrics :=
    if service.store.contains workspace then service.metrics
    else { service.metrics with enginesActive := store.size }
  (⟨store, metrics⟩, id, evicted.map fun entry => .engineEvicted entry.1)

def discard (workspace : String) (service : Service) : Service × Bool :=
  match service.store.discard workspace with
  | some store => (⟨store, { service.metrics with enginesActive := store.size }⟩, true)
  | none => (service, false)

def clear (id : EngineId) (service : Service) : Service :=
  { service with store := service.store.modify id Engine.clear }

structure Ticket where
  engine : EngineId
  workspace : String
  deriving DecidableEq, Repr

def recordLoad (ticket : Ticket) (engine : Engine) (metrics : Metrics) :
    SchemaService.Outcome → Metrics × List Event
  | .loaded _ =>
    ({ metrics with loads := metrics.loads.bump .success },
      [.schemaLoaded ticket.workspace engine.tableCount])
  | .failed error =>
    ({ metrics with loads := metrics.loads.bump .failure },
      [.schemaLoadFailed ticket.workspace error engine.schema.isSome])
  | .brokenOff _ => (metrics, [])

def completeLoad (ticket : Ticket) (outcome : SchemaService.Outcome) (service : Service) :
    Service × List Event :=
  let store := service.store.modify ticket.engine (Engine.complete ticket.workspace outcome)
  let attempted := { service.metrics with loadAttempts := service.metrics.loadAttempts + 1 }
  let (metrics, events) := recordLoad ticket (store.engine ticket.engine) attempted outcome
  (⟨store, metrics⟩, events)

def complete (id : EngineId) (text : Option Text) (service : Service) :
    Service × List Suggestion :=
  let suggestions := suggest text (service.engine id).schema
  let position := (Query.Context.of? text).position
  ({ service with metrics := service.metrics.completed position suggestions.length }, suggestions)

end Service
end KqlCompletion
