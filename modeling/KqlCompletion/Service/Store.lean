import KqlCompletion.Service.Engine

/-! One engine for each workspace in use. Engines are kept in the order of their last use, and the
least recently used one has to go when there are too many. An engine that has left the store may
still be in somebody's hands, so engines have identities and are never forgotten. -/
namespace KqlCompletion

abbrev EngineId := Nat

/-- `held` lists workspaces with their engines, least recently used first; `engines` lists all
engines ever made, in the order of their identities. -/
structure Store where
  capacity : Nat
  held : List (String × EngineId) := []
  engines : List Engine := []
  deriving DecidableEq, Repr

namespace Store

def ofCapacity? (capacity : Int) : Option Store :=
  if capacity < 1 then none else some { capacity := capacity.toNat }

def capacityMessage : String := "max_engines must be at least 1"

def workspaces (store : Store) : List String := store.held.map (·.1)

def find? (store : Store) (workspace : String) : Option EngineId :=
  (store.held.find? (·.1 == workspace)).map (·.2)

def contains (store : Store) (workspace : String) : Bool := (store.find? workspace).isSome

theorem contains_iff_mem {store : Store} {workspace : String} :
    store.contains workspace = true ↔ workspace ∈ store.workspaces := by
  simp [contains, find?, workspaces, List.find?_isSome]

def size (store : Store) : Nat := store.held.length

def engine (store : Store) (id : EngineId) : Engine := store.engines.getD id {}

def modify (id : EngineId) (f : Engine → Engine) (store : Store) : Store :=
  { store with engines := store.engines.modify id f }

theorem engine_modify_self {id : EngineId} {store : Store} (h : id < store.engines.length)
    (f : Engine → Engine) : (store.modify id f).engine id = f (store.engine id) := by
  simp [engine, modify, List.getD_eq_getElem?_getD, h]

theorem engine_modify_of_ne {id other : EngineId} (h : other ≠ id) (f : Engine → Engine)
    (store : Store) : (store.modify id f).engine other = store.engine other := by
  simp [engine, modify, List.getD_eq_getElem?_getD, h.symm]

def without (workspace : String) (held : List (String × EngineId)) : List (String × EngineId) :=
  held.filter (·.1 != workspace)

theorem workspaces_without (workspace : String) (held : List (String × EngineId)) :
    (without workspace held).map (·.1) = (held.map (·.1)).filter (· != workspace) := by
  simp [without, List.filter_map, Function.comp_def]

def clearAll (leaving : List (String × EngineId)) (store : Store) : Store :=
  leaving.foldl (fun store entry => store.modify entry.2 Engine.clear) store

@[simp] theorem held_clearAll (leaving : List (String × EngineId)) (store : Store) :
    (clearAll leaving store).held = store.held := by
  induction leaving generalizing store with
  | nil => rfl
  | cons entry leaving ih => exact ih _

/-- The workspace's engine, made if there is none, becomes the one most recently used. Also gives
the entries that had to go. -/
def acquire (workspace : String) (store : Store) : Store × EngineId × List (String × EngineId) :=
  match store.find? workspace with
  | some id => ({ store with held := without workspace store.held ++ [(workspace, id)] }, id, [])
  | none =>
    let id := store.engines.length
    let held := store.held ++ [(workspace, id)]
    let surplus := held.length - store.capacity
    let grown := { store with held := held.drop surplus, engines := store.engines ++ [{}] }
    (clearAll (held.take surplus) grown, id, held.take surplus)

/-- The workspace acquired last is the one used last, and the others keep their order. -/
theorem workspaces_acquire (workspace : String) (store : Store) :
    (store.acquire workspace).1.workspaces =
      let others := store.workspaces.filter (· != workspace)
      if store.contains workspace then others ++ [workspace]
      else (others ++ [workspace]).drop (others.length + 1 - store.capacity) := by
  rw [acquire]
  split
  · next id found => simp [contains, found, workspaces, workspaces_without]
  · next missing =>
    have others : store.workspaces.filter (· != workspace) = store.held.map (·.1) := by
      refine List.filter_eq_self.2 ?_
      intro other member
      have absent : workspace ∉ store.workspaces := by
        rw [← contains_iff_mem, contains, missing]; simp
      simpa using fun same : other = workspace => absent (same ▸ member)
    rw [others]
    simp [contains, missing, workspaces, List.map_drop]

def discard (workspace : String) (store : Store) : Option Store :=
  (store.find? workspace).map fun id =>
    clearAll [(workspace, id)] { store with held := without workspace store.held }

/-- A workspace discarded is gone; the others keep their order. -/
theorem workspaces_discard {workspace : String} {store rest : Store}
    (h : store.discard workspace = some rest) :
    rest.workspaces = store.workspaces.filter (· != workspace) := by
  obtain ⟨id, -, rfl⟩ := Option.map_eq_some_iff.1 h
  simp [workspaces, workspaces_without]

end Store
end KqlCompletion
