import KqlCompletion.Proofs.Service.Leaving
import KqlCompletion.Service.Basic

/-! Which engines stay. A service keeps the engines of the workspaces that were got last, in the
order in which they were last got; one that has to go loses its schema at once. Loads may end at any
time, on engines that are held and on others, and change nothing about who is held. -/
namespace KqlCompletion

namespace Service

/-- What is done with a service, as far as its engines are concerned. A load ends on the engine of
its ticket, whether that is still held or not. -/
inductive Call where
  | get (workspace : String)
  | discard (workspace : String)
  | complete (ticket : Ticket) (outcome : SchemaService.Outcome)
  deriving DecidableEq, Repr

def Call.got? : Call → Option String
  | .get workspace => some workspace
  | .discard _ | .complete _ _ => none

/-- What a call does to an engine that stays: only loads do anything. -/
def Call.effect (id : EngineId) : Call → Engine → Engine
  | .complete ticket outcome, engine =>
    if ticket.engine = id then engine.complete ticket.workspace outcome else engine
  | .get _, engine | .discard _, engine => engine

def call (service : Service) : Call → Service
  | .get workspace => (service.acquire workspace).1
  | .discard workspace => (service.discard workspace).1
  | .complete ticket outcome => (service.completeLoad ticket outcome).1

def callAll (service : Service) (calls : List Call) : Service := calls.foldl call service

def gets (calls : List Call) : List String := calls.filterMap Call.got?

theorem gets_concat (calls : List Call) (call : Call) :
    gets (calls ++ [call]) = gets calls ++ call.got?.toList := by
  rw [gets, gets, List.filterMap_append]
  cases call <;> rfl

theorem gets_concat_of_none {call : Call} (none : call.got? = none) (calls : List Call) :
    gets (calls ++ [call]) = gets calls := by
  rw [gets_concat, none, Option.toList_none, List.append_nil]

theorem callAll_concat (service : Service) (calls : List Call) (call : Call) :
    service.callAll (calls ++ [call]) = (service.callAll calls).call call := by
  rw [callAll, List.foldl_append]
  rfl

theorem callAll_append (service : Service) (calls more : List Call) :
    service.callAll (calls ++ more) = (service.callAll calls).callAll more :=
  List.foldl_append

section call

variable {service : Service} {workspace : String} {ticket : Ticket}
  {outcome : SchemaService.Outcome} {rest : Store}

theorem store_get : (service.call (.get workspace)).store = (service.store.acquire workspace).1 :=
  rfl

theorem enginesActive_get : (service.call (.get workspace)).metrics.enginesActive =
    if service.store.contains workspace then service.metrics.enginesActive
    else (service.store.acquire workspace).1.size := by
  dsimp only [call, acquire]
  split <;> rfl

theorem discard_of_some (discarded : service.store.discard workspace = some rest) :
    service.discard workspace =
      (⟨rest, { service.metrics with enginesActive := rest.size }⟩, true) := by
  rw [discard, discarded]

theorem discard_of_none (missing : service.store.discard workspace = none) :
    service.discard workspace = (service, false) := by
  rw [discard, missing]

theorem store_complete : (service.call (.complete ticket outcome)).store =
    service.store.modify ticket.engine (Engine.complete ticket.workspace outcome) := rfl

theorem enginesActive_complete : (service.call (.complete ticket outcome)).metrics.enginesActive =
    service.metrics.enginesActive := by
  cases outcome <;> rfl

end call

section leaving

variable {service : Service} {entry : String × EngineId}

theorem cleared_of_left (sound : service.store.Sound) (call : Call)
    (held : entry ∈ service.store.held) (left : entry ∉ (service.call call).store.held) :
    ((service.call call).engine entry.2).holding = none := by
  cases call with
  | get workspace => exact Store.cleared_of_left_acquire sound held left
  | discard workspace =>
    rw [Service.call] at left ⊢
    cases discarded : service.store.discard workspace with
    | none =>
      rw [discard_of_none discarded] at left
      exact absurd held left
    | some rest =>
      rw [discard_of_some discarded] at left ⊢
      exact Store.cleared_of_left_discard sound held discarded left
  | complete ticket outcome => exact absurd held left

theorem discard_spec (sound : service.store.Sound) (workspace : String) :
    ((service.discard workspace).2 = true ↔ workspace ∈ service.store.workspaces) ∧
    (service.discard workspace).1.store.held = service.store.held.filter (·.1 != workspace) ∧
    ∀ entry ∈ (service.discard workspace).1.store.held,
      (service.discard workspace).1.engine entry.2 = service.engine entry.2 := by
  cases discarded : service.store.discard workspace with
  | none =>
    have missing := Store.discard_eq_none_iff.1 discarded
    have absent : workspace ∉ service.store.workspaces := by
      rw [← Store.contains_iff_mem, Store.contains, missing]
      decide
    rw [discard_of_none discarded]
    exact ⟨by simp [absent], (Store.without_of_missing missing).symm, fun _ _ => rfl⟩
  | some rest =>
    have there : workspace ∈ service.store.workspaces := by
      rw [← Store.contains_iff_mem, Store.contains]
      obtain ⟨id, found, -⟩ := Option.map_eq_some_iff.1 discarded
      rw [found]
      rfl
    rw [discard_of_some discarded]
    exact ⟨by simp [there], Store.held_discard discarded,
      fun entry held => Store.engine_of_held_discard sound discarded held⟩

end leaving

/-- What holds of a service at any time: the workspaces held are some of those got, in the order in
which they were last got, there are not too many of them, and they are counted. -/
structure Tidy (bound : Nat) (calls : List Call) (service : Service) : Prop where
  sound : service.store.Sound
  capacity : service.store.capacity = bound
  size : service.store.size ≤ bound
  order : service.store.workspaces.Sublist (gets calls).dedup
  gauge : service.metrics.enginesActive = service.store.size

namespace Tidy

variable {bound : Nat} {calls : List Call} {service : Service}

theorem empty (bound : Nat) : Tidy bound [] { store := { capacity := bound } } where
  sound := .empty bound
  capacity := rfl
  size := Nat.zero_le _
  order := .slnil
  gauge := rfl

theorem fits (tidy : Tidy bound calls service) :
    service.store.size ≤ service.store.capacity := by
  rw [tidy.capacity]
  exact tidy.size

/-- Of the others and the workspace got, the last ones are held. -/
theorem workspaces_get (tidy : Tidy bound calls service) (workspace : String) :
    (service.call (.get workspace)).store.workspaces =
      (service.store.workspaces.filter (· != workspace) ++ [workspace]).rtake bound := by
  rw [store_get, Store.workspaces, Store.held_acquire tidy.sound tidy.fits, tidy.capacity,
    List.rtake, List.map_drop, List.map_append, Store.workspaces_without]
  rw [List.rtake, Store.workspaces, ← Store.workspaces_without]
  simp

protected theorem call (tidy : Tidy bound calls service) (call : Call) :
    Tidy bound (calls ++ [call]) (service.call call) := by
  cases call with
  | get workspace =>
    refine ⟨tidy.sound.acquire workspace, ?_, ?_, ?_, ?_⟩
    · rw [store_get, Store.capacity_acquire, tidy.capacity]
    · rw [store_get, ← tidy.capacity]
      exact Store.size_acquire_le tidy.sound tidy.fits workspace
    · rw [tidy.workspaces_get, gets_concat]
      refine (rtake_sublist _ _).trans ?_
      show (_ ++ [workspace]).Sublist (gets calls ++ [workspace]).dedup
      rw [dedup_concat]
      exact (tidy.order.filter _).append_right _
    · rw [enginesActive_get, store_get]
      split
      · next held => rw [tidy.gauge, Store.size_acquire_of_contains tidy.sound held]
      · rfl
  | discard workspace =>
    have same : gets (calls ++ [.discard workspace]) = gets calls := gets_concat_of_none rfl calls
    rw [call]
    cases discarded : service.store.discard workspace with
    | none =>
      rw [discard_of_none discarded]
      exact ⟨tidy.sound, tidy.capacity, tidy.size, same ▸ tidy.order, tidy.gauge⟩
    | some rest =>
      have fewer : rest.workspaces.Sublist service.store.workspaces := by
        rw [Store.workspaces_discard discarded]
        exact List.filter_sublist
      rw [discard_of_some discarded]
      refine ⟨tidy.sound.discard discarded, ?_, ?_, same ▸ fewer.trans tidy.order, rfl⟩
      · exact (Store.capacity_discard discarded).trans tidy.capacity
      · refine Nat.le_trans ?_ tidy.size
        simpa [Store.size, Store.workspaces] using fewer.length_le
  | complete ticket outcome =>
    have same : gets (calls ++ [.complete ticket outcome]) = gets calls :=
      gets_concat_of_none rfl calls
    refine ⟨tidy.sound.modify _ _, tidy.capacity, tidy.size, same ▸ tidy.order, ?_⟩
    rw [enginesActive_complete]
    exact tidy.gauge

theorem callAll (tidy : Tidy bound calls service) (more : List Call) :
    Tidy bound (calls ++ more) (service.callAll more) := by
  induction more using List.reverseRecOn with
  | nil => rwa [List.append_nil]
  | append_singleton more call ih =>
    rw [callAll_concat, ← List.append_assoc]
    exact ih.call call

/-- Without discards, the workspaces held are those got last. -/
theorem workspaces_callAll (bound : Nat) {calls : List Call}
    (undiscarded : ∀ workspace, .discard workspace ∉ calls) :
    (({ store := { capacity := bound } } : Service).callAll calls).store.workspaces =
      (gets calls).dedup.rtake bound := by
  induction calls using List.reverseRecOn with
  | nil => simp [Service.callAll, gets, Store.workspaces]
  | append_singleton calls call ih =>
    have held := ih fun workspace member => undiscarded workspace (List.mem_append_left _ member)
    rw [callAll_concat, gets_concat]
    cases call with
    | get workspace =>
      rw [((empty bound).callAll calls).workspaces_get, held]
      show _ = (gets calls ++ [workspace]).dedup.rtake bound
      rw [dedup_concat]
      cases bound with
      | zero => rw [List.rtake_zero, List.rtake_zero]
      | succ bound =>
        rw [List.rtake_concat_succ, List.rtake_concat_succ,
          rtake_filter_rtake (List.nodup_dedup _)]
    | discard workspace => exact absurd (by simp) (undiscarded workspace)
    | complete ticket outcome =>
      show _ = (gets calls ++ []).dedup.rtake bound
      rw [List.append_nil]
      exact held

end Tidy

/-- A workspace that has been got and not been discarded since has kept its engine: only workspaces
got since then stand behind it. -/
structure Kept (workspace : String) (id : EngineId) (since : List Call) (engine : Engine)
    (service : Service) : Prop where
  held : ∃ front back, service.store.held = front ++ (workspace, id) :: back ∧
    back.map (·.1) ⊆ gets since
  engine : service.engine id = since.foldl (fun engine call => call.effect id engine) engine

namespace Kept

variable {bound : Nat} {calls since : List Call} {service : Service} {workspace : String}
  {id : EngineId} {engine : Engine}

theorem mem (kept : Kept workspace id since engine service) :
    (workspace, id) ∈ service.store.held := by
  obtain ⟨front, back, held, -⟩ := kept.held
  simp [held]

/-- Behind a workspace that stays, the order changes as it does in all. -/
theorem without_split {other : String} (different : workspace ≠ other)
    {front back : List (String × EngineId)}
    (held : service.store.held = front ++ (workspace, id) :: back) :
    Store.without other service.store.held =
      Store.without other front ++ (workspace, id) :: Store.without other back := by
  rw [held, Store.without, List.filter_append, List.filter_cons_of_pos (by simpa using different)]
  rfl

theorem foldl_effect_concat (call : Call) :
    (since ++ [call]).foldl (fun engine call => call.effect id engine) engine =
      call.effect id (since.foldl (fun engine call => call.effect id engine) engine) := by
  rw [List.foldl_append]
  rfl

protected theorem got (tidy : Tidy bound calls service) (positive : 0 < bound)
    (workspace : String) :
    Kept workspace (service.acquire workspace).2.1 []
      ((service.acquire workspace).1.engine (service.acquire workspace).2.1)
      (service.acquire workspace).1 := by
  refine ⟨?_, rfl⟩
  obtain ⟨front, last⟩ := exists_rtake_concat (Store.without workspace service.store.held)
    (workspace, (service.store.acquire workspace).2.1) positive
  refine ⟨front, [], ?_, List.nil_subset _⟩
  show (service.store.acquire workspace).1.held = _
  rw [Store.held_acquire tidy.sound tidy.fits, tidy.capacity]
  exact last

/-- Getting another workspace leaves this one in its place as long as all that were got since then
fit behind it. -/
theorem get_other (kept : Kept workspace id since engine service)
    (tidy : Tidy bound calls service) {other : String} (different : workspace ≠ other)
    (few : (gets (since ++ [.get other])).dedup.length < bound) :
    Kept workspace id (since ++ [.get other]) engine (service.call (.get other)) := by
  obtain ⟨front, back, held, among⟩ := kept.held
  have got : gets (since ++ [.get other]) = gets since ++ [other] := gets_concat since (.get other)
  let entry := (other, (service.store.acquire other).2.1)
  let behind := Store.without other back ++ [entry]
  have names : behind.map (·.1) ⊆ gets (since ++ [.get other]) := by
    rw [got, List.map_append, Store.workspaces_without]
    refine List.append_subset.2 ⟨fun name member => ?_, List.subset_append_right _ _⟩
    exact List.mem_append_left _ (among (List.mem_of_mem_filter member))
  have distinct : (behind.map (·.1)).Nodup := by
    refine Store.nodup_map_append_singleton ?_ fun other_ member => ?_
    · have all : (back.map (·.1)).Sublist service.store.workspaces := by
        rw [Store.workspaces, held, List.map_append]
        exact ((List.sublist_cons_self _ _).map _).trans (List.sublist_append_right _ _)
      rw [Store.workspaces_without]
      exact (all.nodup tidy.sound.workspaces).filter _
    · simpa using List.of_mem_filter member
  have fits : ((workspace, id) :: behind).length ≤ bound := by
    have := length_le_dedup distinct names
    rw [List.length_map] at this
    rw [List.length_cons]
    omega
  obtain ⟨rest, last⟩ := exists_rtake_append (Store.without other front) fits
  have after : (service.call (.get other)).store.held = rest ++ (workspace, id) :: behind := by
    rw [store_get, Store.held_acquire tidy.sound tidy.fits, tidy.capacity, without_split different
      held, List.append_assoc]
    exact last
  refine ⟨⟨rest, behind, after, names⟩, ?_⟩
  have stays : (workspace, id) ∈ (service.store.acquire other).1.held := by
    rw [← store_get, after]
    simp
  rw [foldl_effect_concat, ← kept.engine]
  exact Store.engine_of_held_acquire tidy.sound stays

theorem discard_other (kept : Kept workspace id since engine service)
    (tidy : Tidy bound calls service) {other : String} (different : workspace ≠ other) :
    Kept workspace id (since ++ [.discard other]) engine (service.call (.discard other)) := by
  obtain ⟨front, back, held, among⟩ := kept.held
  have got : gets (since ++ [.discard other]) = gets since := gets_concat_of_none rfl since
  rw [call]
  cases discarded : service.store.discard other with
  | none =>
    rw [discard_of_none discarded]
    refine ⟨⟨front, back, held, got ▸ among⟩, ?_⟩
    rw [foldl_effect_concat]
    exact kept.engine
  | some rest =>
    rw [discard_of_some discarded]
    have after := (Store.held_discard discarded).trans (without_split different held)
    refine ⟨⟨_, _, after, ?_⟩, ?_⟩
    · rw [got, Store.workspaces_without]
      exact fun name member => among (List.mem_of_mem_filter member)
    · have stays : (workspace, id) ∈ rest.held := by rw [after]; simp
      rw [foldl_effect_concat, ← kept.engine]
      exact Store.engine_of_held_discard tidy.sound discarded stays

protected theorem complete (kept : Kept workspace id since engine service)
    (tidy : Tidy bound calls service) (ticket : Ticket) (outcome : SchemaService.Outcome) :
    Kept workspace id (since ++ [.complete ticket outcome]) engine
      (service.call (.complete ticket outcome)) := by
  obtain ⟨front, back, held, among⟩ := kept.held
  have got : gets (since ++ [.complete ticket outcome]) = gets since :=
    gets_concat_of_none rfl since
  refine ⟨⟨front, back, held, got ▸ among⟩, ?_⟩
  rw [foldl_effect_concat, ← kept.engine, Service.engine, store_complete, Call.effect]
  split
  · next same => rw [same, Store.engine_modify_self (tidy.sound.made _ kept.mem)]; rfl
  · next different => exact Store.engine_modify_of_ne (Ne.symm different) _ _

theorem callAll (kept : Kept workspace id [] engine service) (tidy : Tidy bound calls service)
    {later : List Call}
    (others : ∀ call ∈ later, call ≠ .get workspace ∧ call ≠ .discard workspace)
    (few : (gets later).dedup.length < bound) :
    Kept workspace id later engine (service.callAll later) := by
  induction later using List.reverseRecOn with
  | nil => exact kept
  | append_singleton later call ih =>
    have fewer : (gets later).dedup.length ≤ (gets (later ++ [call])).dedup.length := by
      rw [gets_concat]
      cases call.got? with
      | none => rw [Option.toList_none, List.append_nil]
      | some other => exact length_dedup_le_concat _ _
    have earlier := ih (fun call member => others call (List.mem_append_left _ member))
      (Nat.lt_of_le_of_lt fewer few)
    obtain ⟨noGet, noDiscard⟩ := others call (by simp)
    have reached := tidy.callAll later
    rw [callAll_concat]
    cases call with
    | get other => exact earlier.get_other reached (by rintro rfl; exact noGet rfl) few
    | discard other => exact earlier.discard_other reached (by rintro rfl; exact noDiscard rfl)
    | complete ticket outcome => exact earlier.complete reached ticket outcome

end Kept

/-- At any time the workspaces held differ, are not too many, and stand in the order in which they
were last got; without discards they are those got last. A workspace keeps its engine until it is
discarded or too many others have been got, and only loads change the engine. A discard takes out
what it names and nothing else, whatever leaves loses its schema at once, and the engines held are
counted. -/
theorem least_recently_got_leaves {maxEngines : Int} (positive : 1 ≤ maxEngines) :
    ∃ store, Store.ofCapacity? maxEngines = some store ∧ ∀ calls : List Call,
      let service := ({ store } : Service).callAll calls
      let held := service.store.workspaces
      (held.Nodup ∧ (held.length : Int) ≤ maxEngines ∧ held.Sublist (gets calls).dedup) ∧
      (∀ earlier workspace later, calls = earlier ++ .get workspace :: later →
        (∀ call ∈ later, call ≠ .get workspace ∧ call ≠ .discard workspace) →
        ((gets later).dedup.length : Int) < maxEngines →
        let (got, id, _) := (({ store } : Service).callAll earlier).acquire workspace
        service.store.find? workspace = some id ∧
          service.engine id =
            later.foldl (fun engine call => call.effect id engine) (got.engine id)) ∧
      ((∀ workspace, .discard workspace ∉ calls) →
        held = (gets calls).dedup.rtake maxEngines.toNat) ∧
      (∀ workspace,
        let (rest, there) := service.discard workspace
        (there = true ↔ workspace ∈ held) ∧
          rest.store.held = service.store.held.filter (·.1 != workspace) ∧
          ∀ entry ∈ rest.store.held, rest.engine entry.2 = service.engine entry.2) ∧
      (∀ call, ∀ entry ∈ service.store.held, entry ∉ (service.call call).store.held →
        ((service.call call).engine entry.2).holding = none) ∧
      service.metrics.enginesActive = service.store.size := by
  obtain ⟨bound, rfl⟩ := Int.eq_ofNat_of_zero_le (Int.le_trans (by decide) positive)
  have opened : Store.ofCapacity? bound = some { capacity := bound } := by
    rw [Store.ofCapacity?, if_neg (by omega), Int.toNat_natCast]
  refine ⟨_, opened, fun calls => ?_⟩
  have tidy := (Tidy.empty bound).callAll calls
  rw [List.nil_append] at tidy
  refine ⟨⟨tidy.sound.workspaces, ?_, tidy.order⟩, ?_, ?_, ?_, ?_, tidy.gauge⟩
  · have size := tidy.size
    rw [Store.size] at size
    rw [Store.workspaces, List.length_map]
    omega
  · rintro earlier workspace later rfl others few
    have before := (Tidy.empty bound).callAll earlier
    have got := Kept.got before (by omega) workspace
    have kept := got.callAll (before.call (.get workspace)) others (by omega)
    have reached : Service.callAll { store := { capacity := bound } }
        (earlier ++ .get workspace :: later) =
          ((Service.callAll { store := { capacity := bound } } earlier).acquire
            workspace).1.callAll later := callAll_append _ _ _
    rw [reached] at tidy ⊢
    exact ⟨Store.find?_of_mem tidy.sound kept.mem, kept.engine⟩
  · intro undiscarded
    exact Tidy.workspaces_callAll bound undiscarded
  · intro workspace
    exact discard_spec tidy.sound workspace
  · intro call entry held left
    exact cleared_of_left tidy.sound call held left

/-- Of two engines the one that was got again stays, with its schema, when a third workspace
comes. -/
theorem got_again_outlives_another :
    let loaded : SchemaService.Outcome := .loaded ⟨[]⟩
    let before : List Call := [.get "a", .complete ⟨0, "a"⟩ loaded, .get "b"]
    1 ≤ (2 : Int) ∧ ∃ store, Store.ofCapacity? 2 = some store ∧
      let service := ({ store } : Service).callAll (before ++ [.get "a", .get "c"])
      service.store.workspaces = ["a", "c"] ∧ service.store.find? "a" = some 0 ∧
        (service.engine 0).holding = some ⟨"a", ⟨[]⟩⟩ ∧ (service.engine 1).holding = none ∧
        service.metrics.enginesActive = 2 := by
  intro loaded before
  obtain ⟨store, opened, all⟩ := least_recently_got_leaves (show 1 ≤ (2 : Int) by decide)
  obtain ⟨-, kept, last, -, -, counted⟩ := all (before ++ [.get "a", .get "c"])
  obtain rfl : ({ capacity := 2 } : Store) = store := Option.some.inj opened
  obtain ⟨found, engine⟩ := kept before "a" [.get "c"] rfl (by decide) (by decide)
  have held := last (by simp [before])
  refine ⟨by decide, _, opened, held.trans (by decide +kernel), found, ?_, by decide +kernel,
    counted.trans (by decide +kernel)⟩
  exact (congrArg Engine.holding engine).trans (by decide +kernel)

end Service
end KqlCompletion
