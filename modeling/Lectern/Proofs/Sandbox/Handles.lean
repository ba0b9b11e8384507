/-
Module: Lectern.Proofs.Sandbox.Handles
Purpose: An executor's sessions answer for the handles that were minted for them: a handle of theirs
  is live as long as its session was not let go, and all other handles stay as they are.
Trusted boundary: none
Main exports: Registry.Fresh, Registry.fresh_of_none, Executor.handles, Executor.heldHandles,
  Scene.Accounted, Scene.Respects, Scene.step_stewardship
-/
import Lectern.Proofs.Sandbox.Upkeep
import Lectern.Proofs.Text.Identifiers

namespace Lectern.Sandbox

/-- Are the handles up to some number not in use, and all different? -/
structure Registry.Fresh (registry : Registry) (limit : Nat) : Prop where
  unused : ∀ number, registry.minted < number → number ≤ limit →
    registry.handle number ∉ registry.handles
  different : ∀ left right, registry.minted < left → left ≤ limit → registry.minted < right →
    right ≤ limit → registry.handle left = registry.handle right → left = right

theorem Registry.handle_of_base {registry other : Registry} (base : registry.base = other.base)
    (number : Nat) : registry.handle number = other.handle number := by
  unfold handle
  rw [base]

/-- With no handle in use, all that can be given out of 128 bits are fresh. -/
theorem Registry.fresh_of_none {registry : Registry} (none : registry.live = []) {limit : Nat}
    (small : limit < 2 ^ 128) : registry.Fresh limit where
  unused := by
    intro number _ _
    simp [handles, none]
  different := by
    intro left right _ leftSmall _ rightSmall same
    have groups : Identifier.grouped left = Identifier.grouped right :=
      String.append_right_inj _ |>.mp same
    exact Identifier.grouped_injective (Nat.lt_of_le_of_lt leftSmall small)
      (Nat.lt_of_le_of_lt rightSmall small) groups

/-- Handles that were given out one after the other. -/
structure Issued (origin : Registry) (handles : List String) (registry : Registry) : Prop where
  base : registry.base = origin.base
  minted : registry.minted = origin.minted + handles.length
  numbers : handles = (List.range' (origin.minted + 1) handles.length).map origin.handle
  live : ∃ extra, registry.live = origin.live ++ extra ∧ extra.map (·.1) = handles

theorem Issued.nothing (registry : Registry) : Issued registry [] registry where
  base := rfl
  minted := rfl
  numbers := rfl
  live := ⟨[], by simp⟩

theorem Issued.create {origin registry : Registry} {handles : List String}
    (issued : Issued origin handles registry) (content mediaType : String) :
    Issued origin (handles ++ [(registry.create content mediaType).2])
      (registry.create content mediaType).1 where
  base := issued.base
  minted := by
    simp [Registry.create, issued.minted]
    omega
  numbers := by
    have handle : (registry.create content mediaType).2 =
        origin.handle (origin.minted + 1 + handles.length) := by
      show registry.handle (registry.minted + 1) = _
      rw [Registry.handle_of_base issued.base, issued.minted]
      congr 1
      omega
    rw [List.length_append, List.length_singleton, List.range'_concat, List.map_append,
      ← issued.numbers, handle]
    simp
  live := by
    obtain ⟨extra, live, same⟩ := issued.live
    refine ⟨extra ++ [((registry.create content mediaType).2, ⟨content, mediaType⟩)], ?_, ?_⟩
    · simp [Registry.create, live]
    · simp [same]

/-- A session that is acquired holds exactly the handles that were given out for it. -/
theorem acquire_issued (settings : SandboxSettings) (host : Nat) (content : LoadedModule)
    (version : Nat) (around : Surroundings) :
    Issued around.registry (acquire settings host content version around).1.handles
      (acquire settings host content version around).2.registry := by
  unfold acquire
  have opened := (Issued.nothing around.registry).create content.moduleText "text/javascript"
  cases settings.isolation with
  | frame => exact opened.create _ "text/html"
  | shadow => exact opened

/-! ## Handles of an executor -/

namespace Executor

/-- The handles that were given out for the mounts of an executor. -/
def handles (executor : Executor) : List String := executor.sessions.flatMap (·.handles)

/-- Those of them whose sessions were not let go. -/
def heldHandles (executor : Executor) : List String :=
  (executor.sessions.filter fun session => !session.disposed).flatMap (·.handles)

theorem mem_heldHandles {executor : Executor} {handle : String} :
    handle ∈ executor.heldHandles ↔
      ∃ session ∈ executor.sessions, session.disposed = false ∧ handle ∈ session.handles := by
  simp only [heldHandles, List.mem_flatMap, List.mem_filter, Bool.not_eq_true', and_assoc]

theorem handles_of_held {executor : Executor} {handle : String}
    (held : handle ∈ executor.heldHandles) : handle ∈ executor.handles := by
  obtain ⟨session, inside, -, own⟩ := mem_heldHandles.mp held
  exact List.mem_flatMap.mpr ⟨session, inside, own⟩

end Executor

namespace Registry

theorem live_revoked (handles : List String) (registry : Registry) :
    handles.foldl revoke registry =
      { registry with live := registry.live.filter fun entry => !handles.contains entry.1 } := by
  induction handles generalizing registry with
  | nil => simp
  | cons handle rest inductionHypothesis =>
      rw [List.foldl_cons, inductionHypothesis]
      simp only [revoke, List.filter_filter, mk.injEq, true_and, and_true]
      apply List.filter_congr
      intro entry _
      by_cases here : entry.1 = handle
      · simp [here]
      · simp [here]

end Registry

namespace Scene

/-- The handles of an executor are live as long as it holds them. -/
structure Accounted (start : Registry) (scene : Scene) : Prop where
  base : scene.around.registry.base = start.base
  since : start.minted ≤ scene.around.registry.minted
  versions : scene.executor.made.Nodup
  distinct : scene.executor.handles.Nodup
  issued : ∀ handle ∈ scene.executor.handles, ∃ number, start.minted < number ∧
    number ≤ scene.around.registry.minted ∧ handle = start.handle number
  live : ∀ handle ∈ scene.executor.handles,
    handle ∈ scene.around.registry.handles ↔ handle ∈ scene.executor.heldHandles

/-- An executor answers for the handles it is given, and leaves all others alone. -/
structure Respects (scene after : Scene) : Prop where
  kept : ∀ handle ∈ scene.executor.handles, handle ∈ after.executor.handles
  own : ∀ handle ∈ after.executor.handles, handle ∈ scene.executor.handles ∨
    ∃ number, scene.around.registry.minted < number ∧ number ≤ after.around.registry.minted ∧
      handle = scene.around.registry.handle number
  others : ∀ keep : String → Bool, (∀ handle ∈ after.executor.handles, keep handle = false) →
    after.around.registry.live.filter (keep ·.1) =
      scene.around.registry.live.filter (keep ·.1)

/-- A handle that is not an executor's own is live as before. -/
theorem Respects.mem_handles {scene after : Scene} (respects : scene.Respects after)
    {handle : String} (foreign : handle ∉ after.executor.handles) :
    handle ∈ after.around.registry.handles ↔ handle ∈ scene.around.registry.handles := by
  have same := respects.others (· == handle) (by
    intro other own
    rw [beq_eq_false_iff_ne]
    rintro rfl
    exact foreign own)
  have found (registry : Registry) : handle ∈ registry.handles ↔
      registry.live.filter (·.1 == handle) ≠ [] := by
    simp only [Registry.handles, List.mem_map, ne_eq, List.filter_eq_nil_iff, beq_iff_eq]
    grind
  rw [found, found, same]

/-- As long as handles are fresh, an executor keeps account of its own. -/
def Stewardship (start : Registry) (limit : Nat) (scene after : Scene) : Prop :=
  scene.around.registry.minted ≤ after.around.registry.minted ∧
    (scene.Accounted start → after.around.registry.minted ≤ limit →
      after.Accounted start ∧ scene.Respects after)

namespace Stewardship

variable {start : Registry} {limit : Nat}

theorem refl (scene : Scene) : Stewardship start limit scene scene :=
  ⟨Nat.le_refl _, fun accounted _ =>
    ⟨accounted, fun _ own => own, fun _ own => .inl own, fun _ _ => rfl⟩⟩

theorem trans {scene next last : Scene} (left : Stewardship start limit scene next)
    (right : Stewardship start limit next last) : Stewardship start limit scene last := by
  refine ⟨Nat.le_trans left.1 right.1, ?_⟩
  intro accounted below
  obtain ⟨between, earlier⟩ := left.2 accounted (Nat.le_trans right.1 below)
  obtain ⟨final, later⟩ := right.2 between below
  refine ⟨final, fun handle own => later.kept handle (earlier.kept handle own), ?_, ?_⟩
  · intro handle own
    rcases later.own handle own with mine | ⟨number, above, most, same⟩
    · rcases earlier.own handle mine with mine | ⟨number, above, most, same⟩
      · exact .inl mine
      · exact .inr ⟨number, above, Nat.le_trans most right.1, same⟩
    · refine .inr ⟨number, Nat.lt_of_le_of_lt left.1 above, most, same.trans ?_⟩
      exact Registry.handle_of_base (between.base.trans accounted.base.symm) number
  · intro keep foreign
    have before : ∀ handle ∈ next.executor.handles, keep handle = false :=
      fun handle own => foreign handle (later.kept handle own)
    rw [later.others keep foreign, earlier.others keep before]

/-- A change that concerns neither sessions nor handles. -/
theorem of_same {scene after : Scene} (sessions : after.executor.sessions = scene.executor.sessions)
    (registry : after.around.registry = scene.around.registry) :
    Stewardship start limit scene after := by
  have made : after.executor.made = scene.executor.made := by
    simp only [Executor.made, sessions]
  have handles : after.executor.handles = scene.executor.handles := by
    simp only [Executor.handles, sessions]
  have held : after.executor.heldHandles = scene.executor.heldHandles := by
    simp only [Executor.heldHandles, sessions]
  refine ⟨Nat.le_of_eq (congrArg Registry.minted registry.symm), ?_⟩
  intro accounted _
  refine ⟨⟨?_, ?_, ?_, ?_, ?_, ?_⟩, ?_, ?_, ?_⟩
  · rw [registry]
    exact accounted.base
  · rw [registry]
    exact accounted.since
  · rw [made]
    exact accounted.versions
  · rw [handles]
    exact accounted.distinct
  · rw [handles, registry]
    exact accounted.issued
  · rw [handles, registry, held]
    exact accounted.live
  · rw [handles]
    exact fun _ own => own
  · rw [handles]
    exact fun _ own => .inl own
  · intro keep _
    rw [registry]

end Stewardship

/-! ## Stewardship in each chore -/

section Chores

variable {start : Registry} {limit : Nat} (scene : Scene)

private theorem unmarks_same (tasks : List Marker) (next : Scene) :
    Stewardship start limit next
      (tasks.foldl (fun scene marker => scene.unmark marker.version) next) := by
  induction tasks generalizing next with
  | nil => exact .refl next
  | cons marker rest inductionHypothesis =>
      have unmarked : Stewardship start limit next (next.unmark marker.version) :=
        .of_same rfl rfl
      exact unmarked.trans (inductionHypothesis _)

private theorem stewardship_release {session : MountSession}
    (member : session ∈ scene.executor.sessions) :
    Stewardship start limit scene
      { executor := scene.executor.putSession { session with disposed := true }
        around := session.release scene.around } := by
  have registry : (session.release scene.around).registry =
      { scene.around.registry with
        live := scene.around.registry.live.filter fun entry =>
          !session.handles.contains entry.1 } :=
    Registry.live_revoked _ _
  refine ⟨Nat.le_of_eq (congrArg Registry.minted registry).symm, ?_⟩
  intro accounted _
  have handles : (scene.executor.putSession { session with disposed := true }).handles =
      scene.executor.handles :=
    Executor.flatMap_putSession (·.handles) accounted.versions member rfl rfl
  have made := Executor.putSession_made scene.executor { session with disposed := true }
  have held (handle : String) :
      handle ∈ (scene.executor.putSession { session with disposed := true }).heldHandles ↔
        handle ∈ scene.executor.heldHandles ∧ handle ∉ session.handles := by
    simp only [Executor.mem_heldHandles]
    exact Executor.mem_undisposed_ended (·.handles) accounted.versions accounted.distinct member
  refine ⟨⟨?_, ?_, ?_, ?_, ?_, ?_⟩, ?_, ?_, ?_⟩
  · rw [registry]
    exact accounted.base
  · rw [registry]
    exact accounted.since
  · rw [made]
    exact accounted.versions
  · rw [handles]
    exact accounted.distinct
  · rw [handles, registry]
    exact accounted.issued
  · intro handle own
    rw [handles] at own
    rw [held, ← accounted.live handle own, registry]
    simp only [Registry.handles, List.mem_map, List.mem_filter, Bool.not_eq_true',
      List.contains_eq_mem, decide_eq_false_iff_not]
    constructor
    · rintro ⟨entry, ⟨inside, apart⟩, rfl⟩
      exact ⟨⟨entry, inside, rfl⟩, apart⟩
    · rintro ⟨⟨entry, inside, rfl⟩, apart⟩
      exact ⟨entry, ⟨inside, apart⟩, rfl⟩
  · rw [handles]
    exact fun _ own => own
  · rw [handles]
    exact fun _ own => .inl own
  · intro keep foreign
    rw [handles] at foreign
    rw [registry, List.filter_filter]
    apply List.filter_congr
    intro entry _
    by_cases own : entry.1 ∈ session.handles
    · rw [foreign entry.1 (List.mem_flatMap.mpr ⟨session, member, own⟩)]
      rfl
    · simp [own]

private theorem stewardship_dispose (version : Nat) :
    Stewardship start limit scene (scene.dispose version) := by
  unfold dispose
  cases found : scene.executor.session? version with
  | none => exact .refl scene
  | some session =>
      obtain ⟨member, -⟩ := Executor.session?_mem found
      dsimp only
      cases gone : session.disposed with
      | true =>
          simp only [Session.dispose, gone, if_true, List.foldl_nil]
          refine ⟨Nat.le_refl _, ?_⟩
          intro accounted below
          rw [Executor.putSession_self accounted.versions member]
          exact (Stewardship.refl scene).2 accounted below
      | false =>
          simp only [Session.dispose, gone, Bool.false_eq_true, if_false]
          exact (stewardship_release scene member).trans (unmarks_same _ _)

private theorem stewardship_takeIn (fresh : start.Fresh limit) {session : MountSession}
    {around : Surroundings} (marked : List Nat)
    (issued : Issued scene.around.registry session.handles around.registry)
    (alive : session.disposed = false) (new : session.version ∉ scene.executor.made) :
    Stewardship start limit scene ⟨scene.executor.takeIn session marked, around⟩ := by
  have grown := issued.minted
  refine ⟨by dsimp only; omega, ?_⟩
  intro accounted below
  dsimp only at below
  have since := accounted.since
  have handle (number : Nat) :
      scene.around.registry.handle number = start.handle number :=
    Registry.handle_of_base accounted.base number
  have numbered (given : String) : given ∈ session.handles ↔ ∃ number,
      scene.around.registry.minted < number ∧ number ≤ around.registry.minted ∧
        given = start.handle number := by
    rw [issued.numbers, List.mem_map]
    constructor
    · rintro ⟨number, inside, rfl⟩
      rw [List.mem_range'_1] at inside
      exact ⟨number, by omega, by omega, handle number⟩
    · rintro ⟨number, above, most, rfl⟩
      exact ⟨number, by rw [List.mem_range'_1]; omega, handle number⟩
  have apart (given : String) (member : given ∈ scene.executor.handles) :
      given ∉ session.handles := by
    intro again
    obtain ⟨first, above, most, rfl⟩ := accounted.issued given member
    obtain ⟨second, beyond, last, same⟩ := (numbered _).mp again
    have equal := fresh.different first second above (by omega) (by omega) (by omega) same
    omega
  have handles : (scene.executor.takeIn session marked).handles =
      scene.executor.handles ++ session.handles := by
    simp [Executor.handles, Executor.takeIn]
  have held (given : String) : given ∈ (scene.executor.takeIn session marked).heldHandles ↔
      given ∈ scene.executor.heldHandles ∨ given ∈ session.handles := by
    simp only [Executor.mem_heldHandles, Executor.takeIn, List.mem_append, List.mem_singleton]
    grind
  obtain ⟨extra, live, brought⟩ := issued.live
  have liveNow (given : String) : given ∈ around.registry.handles ↔
      given ∈ scene.around.registry.handles ∨ given ∈ session.handles := by
    simp only [Registry.handles, live, List.map_append, List.mem_append, brought]
  refine ⟨⟨issued.base.trans accounted.base, by dsimp only; omega, ?_, ?_, ?_, ?_⟩, ?_, ?_, ?_⟩
  · rw [Executor.takeIn_made, List.nodup_append]
    refine ⟨accounted.versions, by simp, ?_⟩
    intro earlier member last same
    rw [List.mem_singleton] at same
    rintro rfl
    exact new (same ▸ member)
  · rw [handles, List.nodup_append]
    refine ⟨accounted.distinct, ?_, ?_⟩
    · rw [issued.numbers]
      refine List.Nodup.map_on ?_ (List.nodup_range' ..)
      intro left inLeft right inRight same
      rw [List.mem_range'_1] at inLeft inRight
      rw [handle, handle] at same
      exact fresh.different left right (by omega) (by omega) (by omega) (by omega) same
    · intro given member last again
      rintro rfl
      exact apart _ member again
  · intro given member
    rw [handles, List.mem_append] at member
    rcases member with before | now
    · obtain ⟨number, above, most, same⟩ := accounted.issued given before
      exact ⟨number, above, by dsimp only; omega, same⟩
    · obtain ⟨number, above, most, same⟩ := (numbered given).mp now
      exact ⟨number, by omega, most, same⟩
  · intro given member
    rw [handles, List.mem_append] at member
    rw [held, liveNow]
    rcases member with before | now
    · rw [accounted.live given before]
    · simp [now]
  · intro given member
    rw [handles]
    exact List.mem_append_left _ member
  · intro given member
    rw [handles, List.mem_append] at member
    rcases member with before | now
    · exact .inl before
    · obtain ⟨number, above, most, same⟩ := (numbered given).mp now
      exact .inr ⟨number, above, most, same.trans (handle number).symm⟩
  · intro keep foreign
    have none : extra.filter (keep ·.1) = [] := by
      rw [List.filter_eq_nil_iff]
      intro entry inside
      have listed : entry.1 ∈ session.handles := by
        rw [← brought]
        exact List.mem_map_of_mem inside
      rw [foreign entry.1 (by rw [handles]; exact List.mem_append_right _ listed)]
      exact Bool.false_ne_true
    rw [live, List.filter_append, none, List.append_nil]

private theorem stewardship_hang (fresh : start.Fresh limit) (content : LoadedModule)
    (version : Nat) (new : version ∉ scene.executor.made) :
    Stewardship start limit scene (scene.hang content version) := by
  have own := acquire_own scene.executor.settings scene.executor.host content version scene.around
  have issued := acquire_issued scene.executor.settings scene.executor.host content version
    scene.around
  rw [← own.1] at new
  exact stewardship_takeIn scene fresh _ issued own.2 new

/-- Each chore is stewardship. -/
theorem Chore.stewardship (fresh : start.Fresh limit) {before after : Scene}
    (chore : Chore before after) : Stewardship start limit before after := by
  cases chore with
  | books host settings marked sessions diagnostic => exact .of_same sessions rfl
  | hang content version newest =>
      exact stewardship_hang before fresh content version fun member =>
        Nat.lt_irrefl version (newest version member)
  | dispose version => exact stewardship_dispose before version
  | clear =>
      refine .of_same ?_ ?_
      · rw [clearDiagnostic_executor]
      · unfold clearDiagnostic
        split <;> rfl
  | display message clear =>
      refine .of_same ?_ ?_
      · rw [showDiagnostic_executor]
      · unfold showDiagnostic
        rw [clearDiagnostic_of_none clear]

end Chores

/-- Each event is stewardship. -/
theorem step_stewardship {start : Registry} {limit : Nat} (fresh : start.Fresh limit)
    {scene : Scene} (custody : scene.executor.Custody) (event : Event) :
    Stewardship start limit scene (scene.step event) :=
  (step_chores custody event).induct Stewardship.refl Stewardship.trans (Chore.stewardship fresh)

end Scene

end Lectern.Sandbox
