import KqlCompletion.Proofs.Http.Overlap
import KqlCompletion.Proofs.Service.Leaving

/-! The states an application can get into, by requests that are handled one after the other and by
loads that are under way while others are handled. -/
namespace KqlCompletion.Http

open SchemaService (Answer)

namespace App

variable {app : App} {settings : Settings}

theorem visited_handle (app : App) (fresh : String) (request : Request) (answer : Answer) :
    ∃ workspace, Store.Visited workspace app.store (app.handle fresh request answer).1.store := by
  have spec := app.handle_spec fresh request answer
  split at spec
  · rw [spec]
    exact ⟨"", .unchanged⟩
  · rw [spec.1, (app.observe_spec fresh request answer).1]
    dsimp only [respond]
    cases find request.method request.location.1 with
    | found route parameters => exact ⟨_, app.visited_dispatch ..⟩
    | otherMethod route => exact ⟨"", .unchanged⟩
    | redirect path => exact ⟨"", .unchanged⟩
    | unknown => exact ⟨"", .unchanged⟩

/-- A load may be answered whenever it likes, so more states count as reachable than are. -/
inductive Reachable (settings : Settings) : App → Prop where
  | start {app : App} {events : List Log.Event} :
    start? settings = some (app, events) → Reachable settings app
  | handled {app : App} (fresh : String) (request : Request) (answer : Answer) :
    Reachable settings app → Reachable settings (app.handle fresh request answer).1
  | loadStarted {app : App} (scope : Log.Scope) (workspace : String) (request : Request) :
    Reachable settings app → Reachable settings (app.startLoad scope workspace request).1.app
  | loadEnded {app : App} (flight : Flight) (answer : Answer) :
    Reachable settings app → Reachable settings (app.endLoad flight answer).app

theorem orderly_of_start {events : List Log.Event}
    (started : start? settings = some (app, events)) : app.store.Orderly := by
  obtain ⟨store, opened, made⟩ := Option.map_eq_some_iff.1 started
  obtain ⟨rfl, -⟩ := Prod.mk.inj made
  rw [Store.ofCapacity?] at opened
  split at opened
  · cases opened
  · next positive =>
    obtain rfl := Option.some.inj opened
    exact ⟨.empty _, Nat.zero_le _, by simp only [App.store]; omega⟩

theorem Reachable.orderly (reachable : Reachable settings app) : app.store.Orderly := by
  induction reachable with
  | start started => exact orderly_of_start started
  | @handled app fresh request answer _ orderly =>
    obtain ⟨workspace, visited⟩ := app.visited_handle fresh request answer
    exact orderly.visit visited
  | @loadStarted app scope workspace request _ orderly =>
    rw [store_startLoad]
    split
    · exact orderly.visit .acquired
    · exact orderly
  | loadEnded flight answer _ orderly =>
    rw [store_endLoad]
    exact orderly.modify _ _

end App
end KqlCompletion.Http
