import KqlCompletion.Proofs.Service.Store
import Mathlib.Data.List.Dedup
import Mathlib.Data.List.DropRight
import Mathlib.Data.List.Perm.Subperm

/-! Who stays in a store and who leaves it when a workspace acquires its engine or is discarded. What
stays keeps its engine as it is, and what leaves loses its schema. -/
namespace KqlCompletion

section last

variable {α : Type}

theorem rtake_of_length_le {items : List α} {n : Nat} (few : items.length ≤ n) :
    items.rtake n = items := by
  rw [List.rtake, Nat.sub_eq_zero_of_le few, List.drop_zero]

theorem length_rtake (items : List α) (n : Nat) : (items.rtake n).length = min n items.length := by
  rw [List.rtake, List.length_drop]
  omega

theorem rtake_sublist (items : List α) (n : Nat) : (items.rtake n).Sublist items :=
  List.drop_sublist _ _

/-- What stands at the end and fits is taken whole. -/
theorem exists_rtake_append (front : List α) {back : List α} {n : Nat} (fits : back.length ≤ n) :
    ∃ rest, (front ++ back).rtake n = rest ++ back := by
  refine ⟨front.drop ((front ++ back).length - n), ?_⟩
  rw [List.rtake, List.drop_append_of_le_length]
  rw [List.length_append]
  omega

theorem exists_rtake_concat (front : List α) (item : α) {n : Nat} (positive : 0 < n) :
    ∃ rest, (front ++ [item]).rtake n = rest ++ [item] :=
  exists_rtake_append front positive

theorem rtake_append_of_le (front : List α) {back : List α} {n : Nat} (within : n ≤ back.length) :
    (front ++ back).rtake n = back.rtake n := by
  have skipped : (front ++ back).length - n = front.length + (back.length - n) := by
    rw [List.length_append]
    omega
  rw [List.rtake, List.rtake, skipped, List.drop_length_add_append]

variable [DecidableEq α]

/-- Each item stands where it occurs last, so one more occurrence moves it to the end. -/
theorem dedup_concat (items : List α) (item : α) :
    (items ++ [item]).dedup = items.dedup.filter (· != item) ++ [item] := by
  induction items with
  | nil => simp
  | cons first items ih =>
    rw [List.cons_append]
    by_cases again : first ∈ items
    · rw [List.dedup_cons_of_mem (List.mem_append_left _ again), ih,
        List.dedup_cons_of_mem again]
    · rw [List.dedup_cons_of_notMem again]
      by_cases same : first = item
      · subst same
        rw [List.dedup_cons_of_mem (by simp), ih, List.filter_cons_of_neg (by simp)]
      · have absent : first ∉ items ++ [item] := by simp [again, same]
        rw [List.dedup_cons_of_notMem absent, ih, List.filter_cons_of_pos (by simpa using same)]
        rfl

theorem length_le_filter_ne {items : List α} (distinct : items.Nodup) (item : α) :
    items.length ≤ (items.filter (· != item)).length + 1 := by
  rw [← distinct.erase_eq_filter, List.length_erase]
  split <;> omega

/-- Of items that differ, the last ones are the same whether one of them is left out before or
after. -/
theorem rtake_filter_rtake {items : List α} (distinct : items.Nodup) (item : α) (n : Nat) :
    ((items.rtake (n + 1)).filter (· != item)).rtake n = (items.filter (· != item)).rtake n := by
  by_cases few : items.length ≤ n + 1
  · rw [rtake_of_length_le few]
  · obtain ⟨front, whole⟩ : ∃ front, items = front ++ items.rtake (n + 1) :=
      ⟨_, (List.take_append_drop _ _).symm⟩
    have enough : n ≤ ((items.rtake (n + 1)).filter (· != item)).length := by
      have last := length_le_filter_ne ((rtake_sublist items (n + 1)).nodup distinct) item
      rw [length_rtake] at last
      omega
    conv => rhs; rw [whole, List.filter_append]
    exact (rtake_append_of_le _ enough).symm

theorem length_dedup_le_concat (items : List α) (item : α) :
    items.dedup.length ≤ (items ++ [item]).dedup.length := by
  have among : items.dedup ⊆ (items ++ [item]).dedup := by
    intro other member
    rw [List.mem_dedup] at member ⊢
    exact List.mem_append_left _ member
  exact ((List.nodup_dedup _).subperm among).length_le

theorem length_le_dedup {items others : List α} (distinct : items.Nodup)
    (among : items ⊆ others) : items.length ≤ others.dedup.length :=
  (distinct.subperm fun _ member => List.mem_dedup.2 (among member)).length_le

end last

namespace Store

variable {store rest : Store} {workspace : String} {entry : String × EngineId}

theorem find?_of_mem (sound : store.Sound) (held : entry ∈ store.held) :
    store.find? entry.1 = some entry.2 := by
  cases found : store.find? entry.1 with
  | none =>
    have absent := List.find?_eq_none.1 (Option.map_eq_none_iff.1 found) entry held
    simp at absent
  | some id =>
    have same := List.inj_on_of_nodup_map sound.workspaces (mem_held_of_find? found) held rfl
    rw [← same]

theorem length_without (sound : store.Sound) (held : store.contains workspace = true) :
    (without workspace store.held).length + 1 = store.size := by
  have member := contains_iff_mem.1 held
  have others : (without workspace store.held).length = (store.workspaces.erase workspace).length := by
    rw [sound.workspaces.erase_eq_filter, workspaces, ← workspaces_without, List.length_map]
  have some := List.length_pos_of_mem member
  rw [others, List.length_erase_of_mem member, size]
  rw [workspaces, List.length_map] at some ⊢
  omega

/-- The workspace acquired comes last, and from the front go as many as there are too many. -/
theorem held_acquire (sound : store.Sound) (fits : store.size ≤ store.capacity)
    (workspace : String) : (store.acquire workspace).1.held =
      (without workspace store.held ++ [(workspace, (store.acquire workspace).2.1)]).rtake
        store.capacity := by
  cases found : store.find? workspace with
  | some id =>
    have contained : store.contains workspace = true := by
      rw [contains, found]
      rfl
    have length := length_without sound contained
    rw [rtake_of_length_le (by rw [List.length_append, List.length_singleton]; omega)]
    rw [acquire, found]
  | none =>
    rw [without_of_missing found, id_acquire, found, acquire, found]
    exact held_clearAll _ _

theorem size_acquire_le (sound : store.Sound) (fits : store.size ≤ store.capacity)
    (workspace : String) : (store.acquire workspace).1.size ≤ store.capacity := by
  rw [size, held_acquire sound fits, length_rtake]
  exact Nat.min_le_left _ _

theorem size_acquire_of_contains (sound : store.Sound)
    (held : store.contains workspace = true) : (store.acquire workspace).1.size = store.size := by
  have length := length_without sound held
  obtain ⟨id, found⟩ := Option.isSome_iff_exists.1 held
  rw [acquire, found]
  simpa [size] using length

/-- What was held and is not held any more had to go. -/
theorem mem_evicted (sound : store.Sound) (held : entry ∈ store.held)
    (left : entry ∉ (store.acquire workspace).1.held) :
    entry ∈ (store.acquire workspace).2.2 := by
  cases found : store.find? workspace with
  | some id =>
    refine absurd ?_ left
    rw [acquire, found]
    by_cases same : entry.1 = workspace
    · have again := find?_of_mem sound held
      rw [same, found] at again
      obtain rfl : entry = (workspace, id) := Prod.ext same (Option.some.inj again).symm
      simp
    · exact List.mem_append_left _ (List.mem_filter.2 ⟨held, by simpa using same⟩)
  | none =>
    rw [acquire, found] at left ⊢
    rw [held_clearAll] at left
    have all : entry ∈ store.held ++ [(workspace, store.engines.length)] :=
      List.mem_append_left _ held
    rw [← List.take_append_drop ((store.held ++ [(workspace, store.engines.length)]).length -
      store.capacity) (store.held ++ _)] at all
    exact (List.mem_append.1 all).resolve_right left

/-- No engine has to go that is still held. -/
theorem evicted_disjoint (sound : store.Sound) (workspace : String) :
    ((store.acquire workspace).2.2.map (·.2)).Disjoint
      ((store.acquire workspace).1.held.map (·.2)) := by
  cases found : store.find? workspace with
  | some id =>
    rw [acquire, found]
    exact List.disjoint_nil_left _
  | none =>
    have all : ((store.held ++ [(workspace, store.engines.length)]).map (·.2)).Nodup :=
      nodup_map_append_singleton sound.engines fun entry held =>
        Nat.ne_of_lt (sound.made entry held)
    rw [acquire, found, held_clearAll, List.map_take, List.map_drop]
    exact List.disjoint_take_drop all (Nat.le_refl _)

theorem engine_of_held_acquire (sound : store.Sound)
    (held : entry ∈ (store.acquire workspace).1.held) :
    (store.acquire workspace).1.engine entry.2 = store.engine entry.2 := by
  have stays : entry.2 ∉ (store.acquire workspace).2.2.map (·.2) := fun left =>
    evicted_disjoint sound workspace left (List.mem_map_of_mem held)
  rw [engine_acquire, if_neg stays]

theorem cleared_of_left_acquire (sound : store.Sound) (held : entry ∈ store.held)
    (left : entry ∉ (store.acquire workspace).1.held) :
    ((store.acquire workspace).1.engine entry.2).holding = none := by
  rw [engine_acquire, if_pos (List.mem_map_of_mem (mem_evicted sound held left))]
  rfl

theorem cleared_of_left_discard (sound : store.Sound) (held : entry ∈ store.held)
    (discarded : store.discard workspace = some rest) (left : entry ∉ rest.held) :
    (rest.engine entry.2).holding = none := by
  have same : entry.1 = workspace := by
    by_contra different
    rw [held_discard discarded] at left
    exact left (List.mem_filter.2 ⟨held, by simpa using different⟩)
  have found := find?_of_mem sound held
  rw [same] at found
  rw [engine_discard discarded, if_pos found]
  rfl

theorem engine_of_held_discard (sound : store.Sound)
    (discarded : store.discard workspace = some rest) (held : entry ∈ rest.held) :
    rest.engine entry.2 = store.engine entry.2 := by
  rw [held_discard discarded] at held
  obtain ⟨before, different⟩ := List.mem_filter.1 held
  rw [engine_discard discarded, if_neg]
  intro found
  have same := sound.eq_of_find? (find?_of_mem sound before) found
  simp [same] at different

/-- No workspace is held twice and no engine shared, and the store holds no more than it can. -/
structure Orderly (store : Store) : Prop where
  sound : store.Sound
  fits : store.size ≤ store.capacity
  positive : 1 ≤ store.capacity

theorem Orderly.modify (orderly : store.Orderly) (id : EngineId) (f : Engine → Engine) :
    (store.modify id f).Orderly :=
  ⟨orderly.sound.modify id f, orderly.fits, orderly.positive⟩

theorem Orderly.visit (orderly : store.Orderly) (visited : Visited workspace store rest) :
    rest.Orderly := by
  refine ⟨visited.sound orderly.sound, ?_, ?_⟩
  · rw [visited.capacity]
    cases visited with
    | unchanged => exact orderly.fits
    | acquired => exact size_acquire_le orderly.sound orderly.fits workspace
    | modified f => exact size_acquire_le orderly.sound orderly.fits workspace
    | discarded discarded =>
      rw [size, held_discard discarded]
      exact (List.length_filter_le _ _).trans orderly.fits
  · rw [visited.capacity]
    exact orderly.positive

section acquire

variable {other : String}

/-- What is acquired is held, even if all others have to go. -/
theorem mem_held_acquired (orderly : store.Orderly) (workspace : String) :
    (workspace, (store.acquire workspace).2.1) ∈ (store.acquire workspace).1.held := by
  obtain ⟨front, last⟩ := exists_rtake_concat (without workspace store.held)
    (workspace, (store.acquire workspace).2.1) orderly.positive
  rw [held_acquire orderly.sound orderly.fits, last]
  simp

theorem mem_workspaces_acquire (held : workspace ∈ store.workspaces) :
    other ∈ (store.acquire workspace).1.workspaces ↔ other ∈ store.workspaces := by
  rw [workspaces_acquire, if_pos (contains_iff_mem.2 held)]
  by_cases same : other = workspace <;> simp [same, held]

/-- A workspace that comes anew is put last, and the first one goes if there is no room. -/
theorem workspaces_acquire_of_missing (orderly : store.Orderly)
    (missing : workspace ∉ store.workspaces) : (store.acquire workspace).1.workspaces =
      (if store.size < store.capacity then store.workspaces else store.workspaces.tail) ++
        [workspace] := by
  have others : store.workspaces.filter (· != workspace) = store.workspaces := by
    refine List.filter_eq_self.2 fun other member => ?_
    simpa using fun same : other = workspace => missing (same ▸ member)
  have length : store.workspaces.length = store.size := List.length_map _
  rw [workspaces_acquire, if_neg (mt contains_iff_mem.1 missing)]
  rw [others, length]
  split
  · next room =>
    rw [Nat.sub_eq_zero_of_le room, List.drop_zero]
  · next full =>
    have one : store.size + 1 - store.capacity = 1 := by
      have := orderly.fits
      omega
    have some : 1 ≤ store.workspaces.length := by
      have := orderly.positive
      omega
    rw [one, List.drop_append_of_le_length some, List.drop_one]

/-- Who is held before and after keeps the engine as it is. -/
theorem engine?_of_held (sound : store.Sound) (before : other ∈ store.workspaces)
    (after : other ∈ (store.acquire workspace).1.workspaces) :
    (store.acquire workspace).1.engine? other = store.engine? other := by
  obtain ⟨⟨name, id⟩, held, rfl⟩ := List.mem_map.1 after
  have found : store.find? name = some id := by
    rcases mem_held_acquire held with old | acquired
    · exact find?_of_mem sound old
    · obtain ⟨rfl, rfl⟩ := Prod.mk.inj acquired
      obtain ⟨owned, there⟩ := Option.isSome_iff_exists.1 (contains_iff_mem.2 before)
      rw [id_acquire, there]
      rfl
  rw [engine?, engine?, found, find?_of_mem (sound.acquire workspace) held]
  exact congrArg some (engine_of_held_acquire sound held)

theorem engine?_of_missing (orderly : store.Orderly) (missing : workspace ∉ store.workspaces) :
    (store.acquire workspace).1.engine? workspace = some {} := by
  have held := mem_held_acquired orderly workspace
  have absent : store.find? workspace = none := by
    rw [← Option.not_isSome_iff_eq_none]
    exact mt contains_iff_mem.1 missing
  rw [engine?, find?_of_mem (orderly.sound.acquire workspace) held, Option.map_some,
    engine_of_held_acquire orderly.sound held, engine_id_acquire, engine?, absent]
  rfl

end acquire
end Store
end KqlCompletion
