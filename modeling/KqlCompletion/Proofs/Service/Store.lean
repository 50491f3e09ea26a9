import KqlCompletion.Service.Store
import Mathlib.Data.List.Nodup

/-! What a store does to the engines it holds. An engine once made keeps its identity; it changes
only by what is done to it and by leaving the store. -/
namespace KqlCompletion.Store

variable {store rest : Store} {workspace other : String} {id : EngineId}

@[simp] theorem length_engines_modify (id : EngineId) (f : Engine → Engine) (store : Store) :
    (store.modify id f).engines.length = store.engines.length := by
  simp [modify]

@[simp] theorem held_modify (id : EngineId) (f : Engine → Engine) (store : Store) :
    (store.modify id f).held = store.held := rfl

@[simp] theorem find?_modify (id : EngineId) (f : Engine → Engine) (store : Store) :
    (store.modify id f).find? = store.find? := rfl

theorem engine_of_length_le (unmade : store.engines.length ≤ id) : store.engine id = {} := by
  simp [engine, List.getD_eq_getElem?_getD, List.getElem?_eq_none unmade]

@[simp] theorem length_engines_clearAll (leaving : List (String × EngineId)) (store : Store) :
    (clearAll leaving store).engines.length = store.engines.length := by
  induction leaving generalizing store with
  | nil => rfl
  | cons entry leaving ih => exact (ih _).trans (length_engines_modify _ _ _)

@[simp] theorem capacity_clearAll (leaving : List (String × EngineId)) (store : Store) :
    (clearAll leaving store).capacity = store.capacity := by
  induction leaving generalizing store with
  | nil => rfl
  | cons entry leaving ih => exact ih _

theorem engine_modify_clear (id other : EngineId) (store : Store) :
    (store.modify id Engine.clear).engine other =
      if other = id then (store.engine other).clear else store.engine other := by
  by_cases same : other = id
  · subst same
    rw [if_pos rfl]
    by_cases made : other < store.engines.length
    · exact engine_modify_self made _
    · have unmade : store.engines.length ≤ other := Nat.le_of_not_lt made
      rw [engine_of_length_le unmade, engine_of_length_le (by simpa using unmade)]
      rfl
  · rw [if_neg same, engine_modify_of_ne same]

/-- What leaves is cleared, and nothing else. -/
theorem engine_clearAll (leaving : List (String × EngineId)) (store : Store) (id : EngineId) :
    (clearAll leaving store).engine id =
      if id ∈ leaving.map (·.2) then (store.engine id).clear else store.engine id := by
  induction leaving generalizing store with
  | nil => simp [clearAll]
  | cons entry leaving ih =>
    rw [clearAll, List.foldl_cons, ← clearAll, ih, engine_modify_clear]
    by_cases left : id ∈ leaving.map (·.2) <;> by_cases same : id = entry.2 <;>
      simp_all [Engine.clear]

/-- A new engine holds nothing, like one that has not been made. -/
theorem engine_append_new (store : Store) (held : List (String × EngineId)) (id : EngineId) :
    ({ store with held, engines := store.engines ++ [{}] } : Store).engine id =
      store.engine id := by
  rcases Nat.lt_trichotomy id store.engines.length with made | new | unmade
  · simp [engine, List.getD_eq_getElem?_getD, List.getElem?_append_left made]
  · simp [engine, List.getD_eq_getElem?_getD, new]
  · have longer : (store.engines ++ [({} : Engine)]).length ≤ id := by
      simpa using Nat.succ_le_of_lt unmade
    rw [engine_of_length_le (Nat.le_of_lt unmade), engine_of_length_le longer]

theorem mem_held_of_find? (found : store.find? workspace = some id) :
    (workspace, id) ∈ store.held := by
  obtain ⟨⟨name, engine⟩, first, rfl⟩ := Option.map_eq_some_iff.1 found
  have same : name = workspace := by simpa using List.find?_some first
  exact same ▸ List.mem_of_find?_eq_some first

theorem find?_without (workspace other : String) (held : List (String × EngineId)) :
    (without workspace held).find? (·.1 == other) =
      if other = workspace then none else held.find? (·.1 == other) := by
  rw [without, List.find?_filter]
  split
  · next same => simp [same, List.find?_eq_none]
  · next different =>
    congr 1
    funext entry
    by_cases this : entry.1 = other <;> simp_all

theorem without_of_missing (missing : store.find? workspace = none) :
    without workspace store.held = store.held := by
  refine List.filter_eq_self.2 fun entry member => ?_
  have absent := List.find?_eq_none.1 (Option.map_eq_none_iff.1 missing) entry member
  simpa using absent

section acquire

/-- The engine that a workspace gets is the one it has, or else a new one. -/
theorem id_acquire (workspace : String) (store : Store) :
    (store.acquire workspace).2.1 = (store.find? workspace).getD store.engines.length := by
  rw [acquire]
  split
  · next found => rw [found]; rfl
  · next missing => rw [missing]; rfl

theorem length_engines_acquire (workspace : String) (store : Store) :
    (store.acquire workspace).1.engines.length =
      store.engines.length + if store.contains workspace then 0 else 1 := by
  rw [acquire, contains]
  split
  · next found => simp [found]
  · next missing => simp [missing]

@[simp] theorem capacity_acquire (workspace : String) (store : Store) :
    (store.acquire workspace).1.capacity = store.capacity := by
  rw [acquire]
  split <;> simp

/-- Acquiring changes no engine but those that it drives out. -/
theorem engine_acquire (workspace : String) (store : Store) (id : EngineId) :
    (store.acquire workspace).1.engine id =
      if id ∈ (store.acquire workspace).2.2.map (·.2) then (store.engine id).clear
      else store.engine id := by
  rw [acquire]
  split
  · rfl
  · dsimp only
    rw [engine_clearAll, engine_append_new]

/-- All that is held after a workspace acquires its engine: it, and what had been held. -/
theorem mem_held_acquire {entry : String × EngineId}
    (held : entry ∈ (store.acquire workspace).1.held) :
    entry ∈ store.held ∨ entry = (workspace, (store.acquire workspace).2.1) := by
  rw [acquire] at held ⊢
  split at held
  · next found =>
    rcases List.mem_append.1 held with old | new
    · exact .inl (List.mem_of_mem_filter old)
    · exact .inr (List.mem_singleton.1 new)
  · rw [held_clearAll] at held
    rcases List.mem_append.1 (List.mem_of_mem_drop held) with old | new
    · exact .inl old
    · exact .inr (List.mem_singleton.1 new)

/-- Whether a workspace can be acquired without another one having to go. -/
def HasRoom (workspace : String) (store : Store) : Prop :=
  store.contains workspace = true ∨ store.size < store.capacity

theorem acquire_of_hasRoom (room : store.HasRoom workspace) :
    (store.acquire workspace).1.held =
      without workspace store.held ++ [(workspace, (store.acquire workspace).2.1)] ∧
    (store.acquire workspace).2.2 = [] := by
  rw [acquire]
  split
  · exact ⟨rfl, rfl⟩
  · next missing =>
    have none :
        (store.held ++ [(workspace, store.engines.length)]).length - store.capacity = 0 := by
      rcases room with there | space
      · rw [contains, missing] at there; cases there
      · rw [size] at space
        simp only [List.length_append, List.length_singleton]
        omega
    dsimp only
    rw [none, without_of_missing missing]
    simp

theorem find?_acquire (room : store.HasRoom workspace) (other : String) :
    (store.acquire workspace).1.find? other =
      if other = workspace then some (store.acquire workspace).2.1 else store.find? other := by
  rw [find?, (acquire_of_hasRoom room).1, List.find?_append, find?_without]
  by_cases same : other = workspace
  · simp [same]
  · simp [same, find?, Ne.symm same]

theorem find?_acquire_self (room : store.HasRoom workspace) :
    (store.acquire workspace).1.find? workspace = some (store.acquire workspace).2.1 := by
  rw [find?_acquire room, if_pos rfl]

theorem engine_acquire_of_hasRoom (room : store.HasRoom workspace) (id : EngineId) :
    (store.acquire workspace).1.engine id = store.engine id := by
  rw [engine_acquire, (acquire_of_hasRoom room).2]
  rfl

end acquire

section discard

theorem discard_eq_none_iff : store.discard workspace = none ↔ store.find? workspace = none :=
  Option.map_eq_none_iff

theorem held_discard (discarded : store.discard workspace = some rest) :
    rest.held = without workspace store.held := by
  obtain ⟨id, -, rfl⟩ := Option.map_eq_some_iff.1 discarded
  exact held_clearAll _ _

theorem length_engines_discard (discarded : store.discard workspace = some rest) :
    rest.engines.length = store.engines.length := by
  obtain ⟨id, -, rfl⟩ := Option.map_eq_some_iff.1 discarded
  exact length_engines_clearAll _ _

theorem capacity_discard (discarded : store.discard workspace = some rest) :
    rest.capacity = store.capacity := by
  obtain ⟨id, -, rfl⟩ := Option.map_eq_some_iff.1 discarded
  exact capacity_clearAll _ _

/-- Discarding changes no engine but the one it takes out. -/
theorem engine_discard (discarded : store.discard workspace = some rest) (id : EngineId) :
    rest.engine id =
      if store.find? workspace = some id then (store.engine id).clear else store.engine id := by
  obtain ⟨dropped, found, rfl⟩ := Option.map_eq_some_iff.1 discarded
  rw [engine_clearAll, found]
  simp [engine, eq_comm]

theorem find?_discard (discarded : store.discard workspace = some rest) (other : String) :
    rest.find? other = if other = workspace then none else store.find? other := by
  rw [find?, held_discard discarded, find?_without]
  by_cases same : other = workspace
  · simp [same]
  · simp [same, find?]

end discard

theorem nodup_map_append_singleton {f : α → β} {items : List α} {item : α}
    (nodup : (items.map f).Nodup) (absent : ∀ other ∈ items, f other ≠ f item) :
    ((items ++ [item]).map f).Nodup := by
  rw [List.map_append, List.map_singleton, ← List.concat_eq_append]
  exact nodup.concat (by simpa using absent)

/-- No workspace is held twice, no engine serves two workspaces, and every engine held was made. -/
structure Sound (store : Store) : Prop where
  workspaces : store.workspaces.Nodup
  engines : (store.held.map (·.2)).Nodup
  made : ∀ entry ∈ store.held, entry.2 < store.engines.length

namespace Sound

theorem empty (capacity : Nat) : Sound { capacity } := ⟨.nil, .nil, by simp⟩

theorem lt_of_find? (sound : store.Sound) (found : store.find? workspace = some id) :
    id < store.engines.length :=
  sound.made _ (mem_held_of_find? found)

theorem eq_of_find? (sound : store.Sound) (found : store.find? workspace = some id)
    (again : store.find? other = some id) : other = workspace := by
  have same := List.inj_on_of_nodup_map sound.engines (mem_held_of_find? again)
    (mem_held_of_find? found) rfl
  exact congrArg Prod.fst same

protected theorem modify (sound : store.Sound) (id : EngineId) (f : Engine → Engine) :
    (store.modify id f).Sound :=
  ⟨sound.workspaces, sound.engines, by simpa using sound.made⟩

protected theorem acquire (sound : store.Sound) (workspace : String) :
    (store.acquire workspace).1.Sound := by
  rw [Store.acquire]
  split
  · next id found =>
    have others : (without workspace store.held).Sublist store.held := List.filter_sublist
    refine ⟨?_, ?_, ?_⟩
    · refine nodup_map_append_singleton ((others.map _).nodup sound.workspaces) ?_
      intro entry kept
      simpa using List.of_mem_filter kept
    · refine nodup_map_append_singleton ((others.map _).nodup sound.engines) ?_
      intro entry kept shared
      have same := List.inj_on_of_nodup_map sound.engines (others.subset kept)
        (mem_held_of_find? found) shared
      simpa [same] using List.of_mem_filter kept
    · intro entry member
      rcases List.mem_append.1 member with old | new
      · exact sound.made entry (others.subset old)
      · rw [List.mem_singleton.1 new]
        exact sound.lt_of_find? found
  · next missing =>
    have unheld := List.find?_eq_none.1 (Option.map_eq_none_iff.1 missing)
    -- The new entry differs from all others, and what has to go only makes the list shorter.
    refine ⟨?_, ?_, ?_⟩
    · have all : ((store.held ++ [(workspace, store.engines.length)]).map (·.1)).Nodup :=
        nodup_map_append_singleton sound.workspaces (by simpa using unheld)
      rw [Store.workspaces, held_clearAll]
      exact ((List.drop_sublist _ _).map _).nodup all
    · have all : ((store.held ++ [(workspace, store.engines.length)]).map (·.2)).Nodup :=
        nodup_map_append_singleton sound.engines fun entry held =>
          Nat.ne_of_lt (sound.made entry held)
      rw [held_clearAll]
      exact ((List.drop_sublist _ _).map _).nodup all
    · intro entry member
      rw [held_clearAll] at member
      rw [length_engines_clearAll, List.length_append]
      rcases List.mem_append.1 (List.mem_of_mem_drop member) with old | new
      · exact Nat.lt_succ_of_lt (sound.made entry old)
      · rw [List.mem_singleton.1 new]
        exact Nat.lt_succ_self _

protected theorem discard (sound : store.Sound) (discarded : store.discard workspace = some rest) :
    rest.Sound := by
  have others : (without workspace store.held).Sublist store.held := List.filter_sublist
  refine ⟨?_, ?_, ?_⟩
  · rw [workspaces_discard discarded]
    exact sound.workspaces.filter _
  · rw [held_discard discarded]
    exact (others.map _).nodup sound.engines
  · rw [held_discard discarded, length_engines_discard discarded]
    exact fun entry member => sound.made entry (others.subset member)

end Sound

inductive Visited (workspace : String) (store : Store) : Store → Prop where
  | unchanged : Visited workspace store store
  | acquired : Visited workspace store (store.acquire workspace).1
  | modified (f : Engine → Engine) : Visited workspace store
      ((store.acquire workspace).1.modify (store.acquire workspace).2.1 f)
  | discarded {left : Store} : store.discard workspace = some left → Visited workspace store left

namespace Visited

theorem sound (visited : Visited workspace store rest) (sound : store.Sound) : rest.Sound := by
  cases visited with
  | unchanged => exact sound
  | acquired => exact sound.acquire workspace
  | modified f => exact (sound.acquire workspace).modify _ f
  | discarded discarded => exact sound.discard discarded

theorem capacity (visited : Visited workspace store rest) : rest.capacity = store.capacity := by
  cases visited with
  | unchanged => rfl
  | acquired => exact capacity_acquire workspace store
  | modified f => exact capacity_acquire workspace store
  | discarded discarded => exact capacity_discard discarded

theorem workspaces_subset (visited : Visited workspace store rest) :
    rest.workspaces ⊆ workspace :: store.workspaces := by
  have acquired : (store.acquire workspace).1.workspaces ⊆ workspace :: store.workspaces := by
    intro name member
    obtain ⟨entry, held, rfl⟩ := List.mem_map.1 member
    rcases mem_held_acquire held with old | rfl
    · exact List.mem_cons_of_mem _ (List.mem_map_of_mem old)
    · exact List.mem_cons_self
  cases visited with
  | unchanged => exact List.subset_cons_self _ _
  | acquired => exact acquired
  | modified f => exact acquired
  | discarded discarded =>
    rw [workspaces_discard discarded]
    exact fun name member => List.mem_cons_of_mem _ (List.mem_of_mem_filter member)

end Visited

def engine? (store : Store) (workspace : String) : Option Engine :=
  (store.find? workspace).map store.engine

/-- The engine acquired is the workspace's own, or empty. -/
theorem engine_id_acquire (workspace : String) (store : Store) :
    store.engine (store.acquire workspace).2.1 = (store.engine? workspace).getD {} := by
  rw [id_acquire, engine?]
  cases found : store.find? workspace with
  | some id => rfl
  | none => exact engine_of_length_le (Nat.le_refl _)

theorem engine?_acquire (room : store.HasRoom workspace) (other : String) :
    (store.acquire workspace).1.engine? other =
      if other = workspace then some ((store.engine? workspace).getD {})
      else store.engine? other := by
  have kept : (store.acquire workspace).1.engine = store.engine :=
    funext (engine_acquire_of_hasRoom room)
  rw [engine?, find?_acquire room, kept]
  split
  · rw [Option.map_some, engine_id_acquire]
  · rfl

/-- What is done to the engine of one workspace is not seen from any other. -/
theorem engine?_modify (sound : store.Sound) (found : store.find? workspace = some id)
    (f : Engine → Engine) (other : String) :
    (store.modify id f).engine? other =
      if other = workspace then some (f (store.engine id)) else store.engine? other := by
  rw [engine?, find?_modify]
  split
  · next same =>
    subst same
    rw [found, Option.map_some, engine_modify_self (sound.lt_of_find? found)]
  · next different =>
    rw [engine?]
    cases again : store.find? other with
    | none => rfl
    | some serving =>
      have apart : serving ≠ id := by
        rintro rfl
        exact different (sound.eq_of_find? found again)
      rw [Option.map_some, Option.map_some, engine_modify_of_ne apart]

/-- What is done to the engine that a workspace acquires is done to its own, or to an empty one. -/
theorem engine?_acquire_modify (sound : store.Sound) (room : store.HasRoom workspace)
    (f : Engine → Engine) (other : String) :
    ((store.acquire workspace).1.modify (store.acquire workspace).2.1 f).engine? other =
      if other = workspace then some (f ((store.engine? workspace).getD {}))
      else store.engine? other := by
  rw [engine?_modify (sound.acquire workspace) (find?_acquire_self room), engine?_acquire room,
    engine_acquire_of_hasRoom room, engine_id_acquire]
  split <;> rfl

theorem engine?_discard (sound : store.Sound) (discarded : store.discard workspace = some rest)
    (other : String) :
    rest.engine? other = if other = workspace then none else store.engine? other := by
  rw [engine?, find?_discard discarded]
  split
  · rfl
  · next different =>
    rw [engine?]
    cases again : store.find? other with
    | none => rfl
    | some serving =>
      have apart : store.find? workspace ≠ some serving := fun found =>
        different (sound.eq_of_find? found again)
      rw [Option.map_some, Option.map_some, engine_discard discarded, if_neg apart]

end KqlCompletion.Store
