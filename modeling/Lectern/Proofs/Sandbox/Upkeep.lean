/-
Module: Lectern.Proofs.Sandbox.Upkeep
Purpose: An executor keeps its part of the page in order and leaves the rest alone: what it still
  holds hangs once under its host or the shadow root of that, what it let go hangs nowhere, and no
  element that is not its own is moved. Each of its events comes down to a few chores: bookkeeping,
  hanging a session into the page, letting one go, and showing or clearing an error.
Trusted boundary: none
Main exports: Scene.Chore, Scene.Chores, Scene.step_chores, Executor.nodes, Executor.held, Scene.Neat,
  Scene.Minds, Scene.step_upkeep, Scene.upkeep_run, Scene.neat_run
-/
import Mathlib.Data.List.Pairwise
import Mathlib.Logic.Relation
import Lectern.Proofs.Sandbox.Custody
import Lectern.Proofs.Sandbox.Grounds

namespace Lectern.Sandbox.Scene

/-- Hang what a mount needs into the page, and take it into the books. -/
def hang (scene : Scene) (content : LoadedModule) (version : Nat) : Scene :=
  let (session, around) :=
    acquire scene.executor.settings scene.executor.host content version scene.around
  let marked := scene.executor.marked ++ session.afterwards.map (·.version)
  { executor := scene.executor.takeIn session marked, around }

/-- One chore of an executor. -/
inductive Chore : Scene → Scene → Prop where
  /-- Only the books change: versions, phases, errors, and who is to be taken down. -/
  | books (scene : Scene) {executor : Executor} (host : executor.host = scene.executor.host)
      (settings : executor.settings = scene.executor.settings)
      (marked : executor.marked = scene.executor.marked)
      (sessions : executor.sessions = scene.executor.sessions)
      (diagnostic : executor.diagnostic = scene.executor.diagnostic) :
      Chore scene { scene with executor }
  | hang (scene : Scene) (content : LoadedModule) (version : Nat)
      (newest : ∀ earlier ∈ scene.executor.made, earlier < version) :
      Chore scene (scene.hang content version)
  | dispose (scene : Scene) (version : Nat) : Chore scene (scene.dispose version)
  | clear (scene : Scene) : Chore scene scene.clearDiagnostic
  | display (scene : Scene) (message : String) (clear : scene.executor.diagnostic = none) :
      Chore scene (scene.showDiagnostic message)

/-- Chores one after the other. -/
abbrev Chores : Scene → Scene → Prop := Relation.ReflTransGen Chore

/-- What every chore does, if it can be chained, chores do. -/
theorem Chores.induct {relation : Scene → Scene → Prop} (refl : ∀ scene, relation scene scene)
    (trans : ∀ {first second third}, relation first second → relation second third →
      relation first third)
    (chore : ∀ {before after}, Chore before after → relation before after)
    {before after : Scene} (chores : Chores before after) : relation before after := by
  induction chores with
  | refl => exact refl before
  | tail _ last earlier => exact trans earlier (chore last)

theorem chores_disposeAny (scene : Scene) (version : Option Nat) :
    Chores scene (scene.disposeAny version) := by
  cases version with
  | none => exact .refl
  | some version => exact .single (.dispose scene version)

theorem clearDiagnostic_of_none {scene : Scene} (clear : scene.executor.diagnostic = none) :
    scene.clearDiagnostic = scene := by
  unfold clearDiagnostic
  rw [clear]

/-- What was shown goes first. -/
theorem showDiagnostic_clear (scene : Scene) (message : String) :
    scene.clearDiagnostic.showDiagnostic message = scene.showDiagnostic message := by
  have clear : scene.clearDiagnostic.executor.diagnostic = none := by
    rw [clearDiagnostic_executor]
  conv_lhs => unfold showDiagnostic
  rw [clearDiagnostic_of_none clear]
  rfl

theorem chores_contain (scene : Scene) (version : Nat) (error : MountError) :
    Chores scene (scene.contain version error) := by
  unfold contain
  split
  · have booked : Chore scene
        { scene with executor := { scene.executor with lastError := some error, session := none } } :=
      .books scene rfl rfl rfl rfl rfl
    refine .head booked ((chores_disposeAny _ scene.executor.session).trans ?_)
    dsimp only
    rw [← showDiagnostic_clear]
    exact .head (.clear _) (.single (.display _ _ (by rw [clearDiagnostic_executor])))
  · exact .refl

theorem chores_finish (scene : Scene) (version : Nat) (mounted : Bool) :
    Chores scene (scene.finish version mounted) :=
  .single (.books scene rfl rfl rfl rfl rfl)

theorem chores_fail (scene : Scene) (version : Nat) (failure : Failure) :
    Chores scene (scene.fail version failure) :=
  (chores_contain scene version _).trans (chores_finish _ version false)

theorem chores_fetched {scene : Scene} (custody : scene.executor.Custody) (version : Nat)
    (result : Except Failure String) : Chores scene (scene.fetched version result) := by
  unfold fetched
  split
  · next bundle waits =>
      cases result with
      | error failure => exact chores_fail scene version failure
      | ok moduleText =>
          dsimp only
          split
          · next newest =>
              split
              · exact chores_fail scene version _
              · have earlier := custody.made_lt (by rw [← beq_iff_eq.mp newest]; exact waits)
                rw [← beq_iff_eq.mp newest] at earlier
                exact .head (.hang scene ⟨moduleText, bundle.styleText⟩ version earlier)
                  (.single (.books _ rfl rfl rfl rfl rfl))
          · exact chores_finish scene version false
  · exact .refl

theorem chores_loaded (scene : Scene) (version : Nat) (result : Except Failure Unit) :
    Chores scene (scene.loaded version result) := by
  unfold loaded
  split
  · cases result with
    | error failure => exact .head (.dispose scene version) (chores_fail _ version failure)
    | ok =>
        dsimp only
        split
        · have booked : Chore scene
              { scene with executor := { scene.executor with session := some version } } :=
            .books scene rfl rfl rfl rfl rfl
          have disposed := chores_disposeAny
            { scene with executor := { scene.executor with session := some version } }
            scene.executor.session
          exact .head booked ((disposed.tail (.clear _)).tail (.books _ rfl rfl rfl rfl rfl))
        · exact .head (.dispose scene version) (chores_finish _ version false)
  · exact .refl

theorem chores_teardown (scene : Scene) : Chores scene scene.teardown := by
  unfold teardown
  cases scene.executor.teardowns with
  | nil => exact .refl
  | cons version rest =>
      have booked : Chore scene
          { scene with executor := { scene.executor with teardowns := rest } } :=
        .books scene rfl rfl rfl rfl rfl
      exact .head booked ((chores_disposeAny _ version).tail (.clear _))

/-- Each event comes down to chores. -/
theorem step_chores {scene : Scene} (custody : scene.executor.Custody) (event : Event) :
    Chores scene (scene.step event) := by
  cases event with
  | begin bundle => exact .single (.books scene rfl rfl rfl rfl rfl)
  | fetched version result => exact chores_fetched custody version result
  | loaded version result => exact chores_loaded scene version result
  | unmount => exact .single (.books scene rfl rfl rfl rfl rfl)
  | teardown => exact chores_teardown scene
  | report version message =>
      unfold step report
      dsimp only
      split
      · exact .single (.books scene rfl rfl rfl rfl rfl)
      · exact .refl

end Lectern.Sandbox.Scene

namespace Lectern.Sandbox

namespace Executor

/-- The elements an executor ever brought to the page for a lesson, and the error that is shown. -/
def nodes (executor : Executor) : List Nat :=
  executor.diagnostic.toList ++ executor.sessions.flatMap (·.nodes)

/-- Those of them that were not let go. -/
def held (executor : Executor) : List Nat :=
  executor.diagnostic.toList ++
    (executor.sessions.filter fun session => !session.disposed).flatMap (·.nodes)

theorem mem_nodes {executor : Executor} {node : Nat} :
    node ∈ executor.nodes ↔ executor.diagnostic = some node ∨
      ∃ session ∈ executor.sessions, node ∈ session.nodes := by
  simp only [nodes, List.mem_append, Option.mem_toList, List.mem_flatMap]

theorem mem_held {executor : Executor} {node : Nat} :
    node ∈ executor.held ↔ executor.diagnostic = some node ∨
      ∃ session ∈ executor.sessions, session.disposed = false ∧ node ∈ session.nodes := by
  simp only [held, List.mem_append, Option.mem_toList, List.mem_flatMap, List.mem_filter,
    Bool.not_eq_true', and_assoc]

theorem nodes_of_held {executor : Executor} {node : Nat} (member : node ∈ executor.held) :
    node ∈ executor.nodes := by
  rcases mem_held.mp member with shown | ⟨session, inside, -, own⟩
  · exact mem_nodes.mpr (.inl shown)
  · exact mem_nodes.mpr (.inr ⟨session, inside, own⟩)

/-- Sessions of distinct versions share no part that is listed once. -/
theorem session_of_shared {α : Type} (part : MountSession → List α) {executor : Executor}
    (distinct : (executor.sessions.flatMap part).Nodup) {first second : MountSession}
    (left : first ∈ executor.sessions) (right : second ∈ executor.sessions) {item : α}
    (inFirst : item ∈ part first) (inSecond : item ∈ part second) : first = second := by
  by_contra apart
  rw [List.nodup_flatMap] at distinct
  have symmetric : Std.Symm (Function.onFun List.Disjoint part) := ⟨fun _ _ => List.disjoint_symm⟩
  exact distinct.2.forall left right apart inFirst inSecond

/-- Putting back a session as it is changes nothing. -/
theorem putSession_self {executor : Executor} (distinct : executor.made.Nodup)
    {session : MountSession} (member : session ∈ executor.sessions) :
    executor.putSession session = executor := by
  have same : executor.sessions.map (fun entry =>
      if entry.version == session.version then session else entry) = executor.sessions := by
    conv_rhs => rw [← List.map_id executor.sessions]
    apply List.map_congr_left
    intro entry inside
    by_cases here : entry.version = session.version
    · rw [session_unique distinct inside member here]
      simp
    · simp [here]
  unfold putSession
  rw [same]

/-- A part of a session that stays through its end is listed as before. -/
theorem flatMap_putSession {α : Type} (part : MountSession → List α) {executor : Executor}
    (distinct : executor.made.Nodup) {session : MountSession}
    (member : session ∈ executor.sessions) {changed : MountSession}
    (version : changed.version = session.version) (same : part changed = part session) :
    (executor.putSession changed).sessions.flatMap part = executor.sessions.flatMap part := by
  unfold putSession
  rw [List.flatMap_map]
  apply List.flatMap_congr
  intro entry inside
  by_cases here : entry.version = session.version
  · rw [session_unique distinct inside member here]
    simp [version, same]
  · simp [version, here]

theorem putSession_made (executor : Executor) (session : MountSession) :
    (executor.putSession session).made = executor.made :=
  Keyed.map_replaced (fun session : MountSession => session.version) session executor.sessions

/-- What is not let go behind the end of a session: all else that was not let go. -/
private theorem mem_putSession_disposed {executor : Executor} (distinct : executor.made.Nodup)
    {session : MountSession} (member : session ∈ executor.sessions) {other : MountSession} :
    (other ∈ (executor.putSession { session with disposed := true }).sessions ∧
      other.disposed = false) ↔
    other ∈ executor.sessions ∧ other.disposed = false ∧ other ≠ session := by
  simp only [putSession, List.mem_map]
  constructor
  · rintro ⟨⟨entry, inside, rfl⟩, kept⟩
    by_cases here : entry.version = session.version
    · simp [here] at kept
    · have apart : (entry.version == session.version) = false := by simpa using here
      simp only [apart, Bool.false_eq_true, if_false] at kept ⊢
      refine ⟨inside, kept, ?_⟩
      rintro rfl
      exact here rfl
  · rintro ⟨inside, kept, apart⟩
    have versions : (other.version == session.version) = false := by
      rw [beq_eq_false_iff_ne]
      intro same
      exact apart (session_unique distinct inside member same)
    refine ⟨⟨other, inside, ?_⟩, kept⟩
    rw [versions]
    rfl

/-- What is listed once goes with the session that lists it, and nothing else does. -/
theorem mem_undisposed_ended {α : Type} (part : MountSession → List α) {executor : Executor}
    (versions : executor.made.Nodup) (distinct : (executor.sessions.flatMap part).Nodup)
    {session : MountSession} (member : session ∈ executor.sessions) {item : α} :
    (∃ other ∈ (executor.putSession { session with disposed := true }).sessions,
      other.disposed = false ∧ item ∈ part other) ↔
    (∃ other ∈ executor.sessions, other.disposed = false ∧ item ∈ part other) ∧
      item ∉ part session := by
  constructor
  · rintro ⟨other, inside, undisposed, own⟩
    obtain ⟨there, alive, apart⟩ :=
      (mem_putSession_disposed versions member).mp ⟨inside, undisposed⟩
    refine ⟨⟨other, there, alive, own⟩, ?_⟩
    intro shared
    exact apart (session_of_shared part distinct there member own shared)
  · rintro ⟨⟨other, there, alive, own⟩, apart⟩
    have different : other ≠ session := by
      rintro rfl
      exact apart own
    obtain ⟨inside, undisposed⟩ :=
      (mem_putSession_disposed versions member).mpr ⟨there, alive, different⟩
    exact ⟨other, inside, undisposed, own⟩

end Executor

namespace Scene

/-- Is an element the host of a scene, or its shadow root? -/
def Place (scene : Scene) (place : Nat) : Prop :=
  place = scene.executor.host ∨
    (scene.around.page.get scene.executor.host).shadowRoot = some place

/-- The part of the page that is an executor's own is in order. -/
structure Neat (first : Nat) (scene : Scene) : Prop where
  linked : scene.around.page.Linked first
  host : scene.executor.host < first
  first_le : first ≤ scene.around.page.nextId
  versions : scene.executor.made.Nodup
  distinct : scene.executor.nodes.Nodup
  within : ∀ node ∈ scene.executor.nodes, first ≤ node ∧ node < scene.around.page.nextId
  hung : ∀ node ∈ scene.executor.held,
    ∃ place, scene.Place place ∧ (scene.around.page.get node).parent = some place
  loose : ∀ node ∈ scene.executor.nodes, node ∉ scene.executor.held →
    (scene.around.page.get node).parent = none
  lessons : ∀ session ∈ scene.executor.sessions, ∀ node ∈ session.nodes,
    OfLesson (Page.bare (scene.around.page.get node))

/-- An error that is shown belongs to no lesson. -/
theorem Neat.error_apart {first : Nat} {scene : Scene} (neat : scene.Neat first) {node : Nat}
    (shown : scene.executor.diagnostic = some node) {session : MountSession}
    (member : session ∈ scene.executor.sessions) : node ∉ session.nodes := by
  intro own
  have distinct := neat.distinct
  simp only [Executor.nodes, shown, Option.toList_some, List.singleton_append,
    List.nodup_cons] at distinct
  exact distinct.1 (List.mem_flatMap.mpr ⟨session, member, own⟩)

/-- Each element belongs to one lesson. -/
theorem Neat.session_of_node {first : Nat} {scene : Scene} (neat : scene.Neat first)
    {session other : MountSession} (member : session ∈ scene.executor.sessions)
    (inside : other ∈ scene.executor.sessions) {node : Nat} (own : node ∈ session.nodes)
    (shared : node ∈ other.nodes) : session = other :=
  Executor.session_of_shared (·.nodes) (List.nodup_append.mp neat.distinct).2.1 member inside own
    shared

/-- An executor leaves alone what is not its own. -/
structure Minds (first : Nat) (scene after : Scene) : Prop where
  kept : Kept first (· = scene.executor.host) scene.around.page after.around.page
  host : after.executor.host = scene.executor.host
  own : ∀ node ∈ after.executor.nodes,
    node ∈ scene.executor.nodes ∨ scene.around.page.nextId ≤ node
  others : ∀ node < scene.around.page.nextId, node ∉ scene.executor.nodes →
    (after.around.page.get node).parent = (scene.around.page.get node).parent
  dropped : ∀ node, node ∈ scene.executor.nodes ∨ scene.around.page.nextId ≤ node →
    node ∉ after.executor.nodes → (after.around.page.get node).parent = none

/-- From a page in order, an executor leaves it in order and minds what is not its own. -/
def Upkeep (first : Nat) (scene after : Scene) : Prop :=
  scene.Neat first → after.Neat first ∧ scene.Minds first after

namespace Upkeep

variable {first : Nat} {scene : Scene}

theorem refl (scene : Scene) : Upkeep first scene scene := by
  intro neat
  refine ⟨neat, .refl _, rfl, fun _ own => .inl own, fun _ _ _ => rfl, ?_⟩
  rintro node (own | beyond) dropped
  · exact absurd own dropped
  · rw [Page.get_of_le beyond]
    rfl

theorem trans {next last : Scene} (left : Upkeep first scene next)
    (right : Upkeep first next last) : Upkeep first scene last := by
  intro neat
  obtain ⟨between, earlier⟩ := left neat
  obtain ⟨final, later⟩ := right between
  have host := earlier.host
  refine ⟨final, ?_, later.host.trans host, ?_, ?_, ?_⟩
  · have kept := later.kept
    rw [host] at kept
    exact earlier.kept.trans kept
  · intro node own
    rcases later.own node own with mine | beyond
    · exact earlier.own node mine
    · exact .inr (Nat.le_trans earlier.kept.grown beyond)
  · intro node inside other
    have still : node ∉ next.executor.nodes := by
      intro own
      rcases earlier.own node own with mine | beyond
      · exact other mine
      · omega
    rw [later.others node (Nat.lt_of_lt_of_le inside earlier.kept.grown) still,
      earlier.others node inside other]
  · intro node mine gone
    by_cases own : node ∈ next.executor.nodes
    · exact later.dropped node (.inl own) gone
    · by_cases inside : node < next.around.page.nextId
      · rw [later.others node inside own]
        exact earlier.dropped node mine own
      · exact later.dropped node (.inr (Nat.le_of_not_lt inside)) gone

/-- A change to the books, or to the marker of the host, is none to the page. -/
theorem of_same {after : Scene} (host : after.executor.host = scene.executor.host)
    (sessions : after.executor.sessions = scene.executor.sessions)
    (diagnostic : after.executor.diagnostic = scene.executor.diagnostic)
    (kept : Kept first (· = scene.executor.host) scene.around.page after.around.page)
    (linked : scene.around.page.Linked first → after.around.page.Linked first)
    (size : after.around.page.nextId = scene.around.page.nextId)
    (parent : ∀ node, (after.around.page.get node).parent = (scene.around.page.get node).parent) :
    Upkeep first scene after := by
  intro neat
  have made : after.executor.made = scene.executor.made := by
    simp only [Executor.made, sessions]
  have nodes : after.executor.nodes = scene.executor.nodes := by
    simp only [Executor.nodes, sessions, diagnostic]
  have held : after.executor.held = scene.executor.held := by
    simp only [Executor.held, sessions, diagnostic]
  refine ⟨⟨linked neat.linked, host ▸ neat.host, size ▸ neat.first_le, made ▸ neat.versions,
    nodes ▸ neat.distinct, ?_, ?_, ?_, ?_⟩, kept, host, ?_, fun node _ _ => parent node, ?_⟩
  · rw [nodes, size]
    exact neat.within
  · intro node member
    rw [held] at member
    obtain ⟨place, here, hangs⟩ := neat.hung node member
    refine ⟨place, ?_, (parent node).trans hangs⟩
    rcases here with same | root
    · exact .inl (same.trans host.symm)
    · refine .inr ?_
      rw [host]
      exact kept.root _ place rfl root
  · intro node own other
    rw [nodes] at own
    rw [held] at other
    rw [parent]
    exact neat.loose node own other
  · intro session member node own
    rw [sessions] at member
    have bounds := neat.within node (Executor.mem_nodes.mpr (.inr ⟨session, member, own⟩))
    rw [kept.later node bounds.1 bounds.2]
    exact neat.lessons session member node own
  · intro node own
    exact .inl (nodes ▸ own)
  · rw [nodes]
    rintro node (own | beyond) dropped
    · exact absurd own dropped
    · rw [parent, Page.get_of_le beyond]
      rfl

end Upkeep

/-! ## Upkeep in each chore -/

section Chores

variable {first : Nat} (scene : Scene)

theorem Neat.hosted {first : Nat} {scene : Scene} (neat : scene.Neat first) :
    ∀ id, id = scene.executor.host → id < first := by
  rintro id rfl
  exact neat.host

private theorem upkeep_books {executor : Executor} (host : executor.host = scene.executor.host)
    (sessions : executor.sessions = scene.executor.sessions)
    (diagnostic : executor.diagnostic = scene.executor.diagnostic) :
    Upkeep first scene { scene with executor } :=
  .of_same host sessions diagnostic (.refl _) id rfl fun _ => rfl

/-- A mark that is taken back gives way to an older one, or to none. -/
theorem unmark_writes (version : Nat) :
    ∃ change : Element → Element,
      scene.unmark version =
        { executor :=
            { scene.executor with marked := scene.executor.marked.filter (· != version) }
          around :=
            { scene.around with
              page := scene.around.page.modify scene.executor.host change } } ∧
      ((∃ value, change = fun element => element.setAttribute markerName value) ∨
        change = fun element => element.removeAttribute markerName) := by
  refine ⟨_, rfl, ?_⟩
  cases (scene.executor.marked.filter (· != version)).max? with
  | none => exact .inr rfl
  | some newest => exact .inl ⟨toString newest, rfl⟩

private theorem upkeep_unmark (version : Nat) : Upkeep first scene (scene.unmark version) := by
  intro neat
  obtain ⟨change, same, writes⟩ := scene.unmark_writes version
  have changed (element : Element) :
      unmarked (asOf first (change element)) = unmarked (asOf first element) ∧
        (change element).children = element.children ∧
        (change element).parent = element.parent ∧
        (change element).shadowRoot = element.shadowRoot := by
    rcases writes with ⟨value, rfl⟩ | rfl
    · exact ⟨unmarked_setAttribute element value, rfl, rfl, rfl⟩
    · exact ⟨unmarked_removeAttribute element, rfl, rfl, rfl⟩
  rw [same]
  refine Upkeep.of_same rfl rfl rfl ?_ ?_ ?_ ?_ neat
  · exact kept_modify neat.hosted rfl _ (fun element => (changed element).1)
      (fun root found => (changed _).2.2.2.trans found)
      fun root found => .inl ((changed _).2.2.2.symm.trans found)
  · intro linked
    exact linked.modify _ _ (fun element => (changed element).2.1)
      (fun element => (changed element).2.2.1) fun element => (changed element).2.2.2
  · exact Page.nextId_modify _ _ _
  · intro node
    exact Page.proj_modify Element.parent _ (fun element => (changed element).2.2.1) _ _ _

/-- Elements of an executor are taken down, and are no longer held. -/
private theorem upkeep_takenDown {executor : Executor} {registry : Registry} (gone : List Nat)
    (own : ∀ node ∈ gone, node ∈ scene.executor.nodes)
    (host : executor.host = scene.executor.host) (made : executor.made = scene.executor.made)
    (sessions : ∀ session ∈ executor.sessions, ∃ before ∈ scene.executor.sessions,
      session.nodes = before.nodes)
    (distinct : executor.nodes.Nodup)
    (nodes : ∀ node, node ∈ executor.nodes → node ∈ scene.executor.nodes)
    (rest : ∀ node ∈ scene.executor.nodes, node ∉ executor.nodes → node ∈ gone)
    (held : ∀ node, node ∈ executor.held ↔ node ∈ scene.executor.held ∧ node ∉ gone) :
    Upkeep first scene
      ⟨executor, { page := gone.foldl Page.detach scene.around.page, registry }⟩ := by
  intro neat
  have size := nextId_takenDown gone scene.around.page
  have parents := parent_takenDown gone scene.around.page
  have stays : Kept first (· = scene.executor.host) scene.around.page
      (gone.foldl Page.detach scene.around.page) :=
    kept_takenDown neat.hosted gone (fun node member => (neat.within node (own node member)).1) _
  refine ⟨⟨linked_takenDown neat.linked gone, host ▸ neat.host, size ▸ neat.first_le,
    made ▸ neat.versions, distinct, ?_, ?_, ?_, ?_⟩, stays, host,
    fun node mine => .inl (nodes node mine), ?_, ?_⟩
  · intro node mine
    rw [size]
    exact neat.within node (nodes node mine)
  · intro node member
    obtain ⟨before, apart⟩ := (held node).mp member
    obtain ⟨place, here, hangs⟩ := neat.hung node before
    refine ⟨place, ?_, ?_⟩
    · rcases here with same | root
      · exact .inl (same.trans host.symm)
      · refine .inr ?_
        rw [host]
        exact stays.root _ place rfl root
    · rw [parents, if_neg apart, hangs]
  · intro node mine free
    rw [parents]
    split
    · rfl
    · next apart =>
        apply neat.loose node (nodes node mine)
        intro before
        exact free ((held node).mpr ⟨before, apart⟩)
  · intro session member node listed
    obtain ⟨before, inside, same⟩ := sessions session member
    rw [same] at listed
    rw [bare_takenDown]
    exact neat.lessons before inside node listed
  · intro node _ other
    rw [parents, if_neg (fun member => other (own node member))]
  · intro node mine dropped
    rw [parents]
    rcases mine with mine | beyond
    · rw [if_pos (rest node mine dropped)]
    · rw [Page.get_of_le beyond]
      split <;> rfl

private theorem upkeep_release {session : MountSession}
    (member : session ∈ scene.executor.sessions) :
    Upkeep first scene
      { executor := scene.executor.putSession { session with disposed := true }
        around := session.release scene.around } := by
  intro neat
  have nodes : (scene.executor.putSession { session with disposed := true }).nodes =
      scene.executor.nodes :=
    congrArg (scene.executor.diagnostic.toList ++ ·)
      (Executor.flatMap_putSession (·.nodes) neat.versions member rfl rfl)
  have made := Executor.putSession_made scene.executor { session with disposed := true }
  refine upkeep_takenDown scene session.nodes.reverse ?_ rfl made ?_ (nodes ▸ neat.distinct)
    (fun node own => nodes ▸ own) ?_ ?_ neat
  · intro node own
    exact Executor.mem_nodes.mpr (.inr ⟨session, member, List.mem_reverse.mp own⟩)
  · intro entry inside
    obtain ⟨before, there, rfl⟩ := List.mem_map.mp inside
    by_cases here : before.version = session.version
    · exact ⟨session, member, by simp [here]⟩
    · exact ⟨before, there, by simp [here]⟩
  · intro node own dropped
    exact absurd (nodes ▸ own) dropped
  · intro node
    have shown (here : scene.executor.diagnostic = some node) := neat.error_apart here member
    have distinct : (scene.executor.sessions.flatMap (·.nodes)).Nodup :=
      (List.nodup_append.mp neat.distinct).2.1
    have ended : _ ↔ _ ∧ node ∉ session.nodes :=
      Executor.mem_undisposed_ended (·.nodes) neat.versions distinct member
    rw [List.mem_reverse]
    simp only [Executor.mem_held, ended]
    constructor
    · rintro (here | ⟨held, apart⟩)
      · exact ⟨.inl here, shown here⟩
      · exact ⟨.inr held, apart⟩
    · rintro ⟨here | held, apart⟩
      · exact .inl here
      · exact .inr ⟨held, apart⟩

private theorem upkeep_dispose (version : Nat) : Upkeep first scene (scene.dispose version) := by
  unfold dispose
  cases found : scene.executor.session? version with
  | none => exact .refl scene
  | some session =>
      obtain ⟨member, -⟩ := Executor.session?_mem found
      have unmarks (tasks : List Marker) (next : Scene) :
          Upkeep first next (tasks.foldl (fun scene marker => scene.unmark marker.version) next) := by
        induction tasks generalizing next with
        | nil => exact .refl next
        | cons marker rest inductionHypothesis =>
            exact (upkeep_unmark next marker.version).trans (inductionHypothesis _)
      dsimp only
      cases gone : session.disposed with
      | true =>
          intro neat
          have same := Executor.putSession_self neat.versions member
          simp only [Session.dispose, gone, if_true, List.foldl_nil, same]
          exact Upkeep.refl scene neat
      | false =>
          simp only [Session.dispose, gone, Bool.false_eq_true, if_false]
          exact (upkeep_release scene member).trans (unmarks _ _)

/-- Only what a session brought is taken down with it. -/
theorem parent_dispose {version node : Nat}
    (apart : ∀ session ∈ scene.executor.sessions, session.version = version →
      node ∉ session.nodes) :
    ((scene.dispose version).around.page.get node).parent =
      (scene.around.page.get node).parent := by
  have unmarks (tasks : List Marker) (next : Scene) :
      ((tasks.foldl (fun scene marker => scene.unmark marker.version) next).around.page.get
        node).parent = (next.around.page.get node).parent := by
    induction tasks generalizing next with
    | nil => rfl
    | cons marker rest inductionHypothesis =>
        rw [List.foldl_cons, inductionHypothesis]
        refine Page.proj_modify Element.parent _ ?_ _ _ _
        intro element
        split <;> rfl
  unfold dispose
  cases found : scene.executor.session? version with
  | none => rfl
  | some session =>
      obtain ⟨member, same⟩ := Executor.session?_mem found
      dsimp only
      rw [unmarks]
      unfold Session.dispose
      split
      · rfl
      · refine (parent_takenDown session.nodes.reverse scene.around.page node).trans ?_
        rw [if_neg]
        rw [List.mem_reverse]
        exact apart session member same

private theorem upkeep_clear : Upkeep first scene scene.clearDiagnostic := by
  unfold clearDiagnostic
  cases shown : scene.executor.diagnostic with
  | none => exact .refl scene
  | some node =>
      intro neat
      have all : scene.executor.nodes = node :: scene.executor.sessions.flatMap (·.nodes) := by
        simp [Executor.nodes, shown]
      have distinct := neat.distinct
      rw [all, List.nodup_cons] at distinct
      have rest : Executor.nodes { scene.executor with diagnostic := none } =
          scene.executor.sessions.flatMap (·.nodes) := rfl
      refine upkeep_takenDown scene [node] ?_ rfl rfl (fun session member => ⟨session, member, rfl⟩)
        distinct.2 ?_ ?_ ?_ neat
      · intro other here
        rw [List.mem_singleton.mp here, all]
        exact List.mem_cons_self
      · intro other own
        rw [all]
        exact List.mem_cons_of_mem _ own
      · intro other own dropped
        rw [all] at own
        rcases List.mem_cons.mp own with rfl | inside
        · exact List.mem_singleton_self _
        · exact absurd inside dropped
      · intro other
        simp only [Executor.mem_held, shown, List.mem_singleton]
        constructor
        · rintro (none | ⟨session, inside, alive, own⟩)
          · cases none
          · refine ⟨.inr ⟨session, inside, alive, own⟩, ?_⟩
            rintro rfl
            exact distinct.1 (List.mem_flatMap.mpr ⟨session, inside, own⟩)
        · rintro ⟨here | held, apart⟩
          · exact absurd (Option.some.inj here).symm apart
          · exact .inr held

/-- New elements of an executor are hung up at its place. -/
private theorem upkeep_hungUp {executor : Executor} {around : Surroundings} (new : List Nat)
    {place : Nat} (host : executor.host = scene.executor.host) (made : executor.made.Nodup)
    (nodes : ∀ node, node ∈ executor.nodes ↔ node ∈ scene.executor.nodes ∨ node ∈ new)
    (held : ∀ node, node ∈ executor.held ↔ node ∈ scene.executor.held ∨ node ∈ new)
    (lessons : ∀ session ∈ executor.sessions, session ∈ scene.executor.sessions ∨
      ∀ node ∈ session.nodes, OfLesson (Page.bare (around.page.get node)))
    (distinct : executor.nodes.Nodup)
    (here : place = scene.executor.host ∨
      (around.page.get scene.executor.host).shadowRoot = some place)
    (linked : around.page.Linked first)
    (kept : Kept first (· = scene.executor.host) scene.around.page around.page)
    (within : ∀ node ∈ new, scene.around.page.nextId ≤ node ∧ node < around.page.nextId)
    (parents : ∀ node, (around.page.get node).parent =
      if node ∈ new then some place else (scene.around.page.get node).parent) :
    Upkeep first scene ⟨executor, around⟩ := by
  intro neat
  have grown := kept.grown
  have old (node : Nat) (inside : node < scene.around.page.nextId) : node ∉ new := by
    intro member
    have bounds := within node member
    omega
  refine ⟨⟨linked, host ▸ neat.host, Nat.le_trans neat.first_le grown, made, distinct, ?_, ?_, ?_,
    ?_⟩, kept, host, ?_, ?_, ?_⟩
  · intro node mine
    have first_le := neat.first_le
    rcases (nodes node).mp mine with before | fresh
    · have bounds := neat.within node before
      exact ⟨bounds.1, Nat.lt_of_lt_of_le bounds.2 grown⟩
    · have bounds := within node fresh
      exact ⟨by omega, bounds.2⟩
  · intro node member
    rw [show (⟨executor, around⟩ : Scene).Place = fun place =>
      place = scene.executor.host ∨
        (around.page.get scene.executor.host).shadowRoot = some place by
      funext other
      simp only [Place, host]]
    rcases (held node).mp member with before | fresh
    · obtain ⟨other, there, hangs⟩ := neat.hung node before
      have bounds := neat.within node (Executor.nodes_of_held before)
      refine ⟨other, ?_, ?_⟩
      · rcases there with same | root
        · exact .inl same
        · exact .inr (kept.root _ other rfl root)
      · rw [parents, if_neg (old node bounds.2), hangs]
    · exact ⟨place, here, by rw [parents, if_pos fresh]⟩
  · intro node mine free
    rcases (nodes node).mp mine with before | fresh
    · have bounds := neat.within node before
      rw [parents, if_neg (old node bounds.2)]
      apply neat.loose node before
      intro was
      exact free ((held node).mpr (.inl was))
    · exact absurd ((held node).mpr (.inr fresh)) free
  · intro session member node own
    rcases lessons session member with before | fits
    · have bounds := neat.within node (Executor.mem_nodes.mpr (.inr ⟨session, before, own⟩))
      rw [kept.later node bounds.1 bounds.2]
      exact neat.lessons session before node own
    · exact fits node own
  · intro node mine
    rcases (nodes node).mp mine with before | fresh
    · exact .inl before
    · exact .inr (within node fresh).1
  · intro node inside _
    rw [parents, if_neg (old node inside)]
  · intro node mine dropped
    have apart : node ∉ new := fun fresh => dropped ((nodes node).mpr (.inr fresh))
    rcases mine with mine | beyond
    · exact absurd ((nodes node).mpr (.inl mine)) dropped
    · rw [parents, if_neg apart, Page.get_of_le beyond]
      rfl

private theorem upkeep_display (message : String) (clear : scene.executor.diagnostic = none) :
    Upkeep first scene (scene.showDiagnostic message) := by
  unfold showDiagnostic
  rw [clearDiagnostic_of_none clear]
  intro neat
  have place : ∃ place, place =
      ((scene.around.page.get scene.executor.host).shadowRoot).getD scene.executor.host := ⟨_, rfl⟩
  obtain ⟨place, target⟩ := place
  have there : place < scene.around.page.nextId := by
    rw [target]
    cases found : (scene.around.page.get scene.executor.host).shadowRoot with
    | none => exact Nat.lt_of_lt_of_le neat.host neat.first_le
    | some root => exact neat.linked.rooted _ root found
  have gathered := (gathered_nothing (fun _ => True) neat.linked scene.executor.host place 0).attach
    neat.host neat.first_le there scene.around.registry
    (⟨rfl, rfl, rfl⟩ : Single (diagnosticElement message)) trivial
  dsimp only
  rw [← target]
  refine upkeep_hungUp scene [scene.around.page.nextId] rfl neat.versions ?_ ?_
    (fun _ member => .inl member) ?_ ?_ gathered.linked gathered.kept gathered.new gathered.hung neat
  · intro node
    simp only [Executor.mem_nodes, clear, Page.create_snd, List.mem_singleton, Option.some.injEq]
    grind
  · intro node
    simp only [Executor.mem_held, clear, Page.create_snd, List.mem_singleton, Option.some.injEq]
    grind
  · have all : scene.executor.nodes = scene.executor.sessions.flatMap (·.nodes) := by
      simp [Executor.nodes, clear]
    have distinct := neat.distinct
    rw [all] at distinct
    refine List.nodup_cons.mpr ⟨?_, distinct⟩
    intro member
    rw [← all] at member
    have bounds := neat.within _ member
    rw [Page.create_snd] at bounds
    omega
  · cases found : (scene.around.page.get scene.executor.host).shadowRoot with
    | none =>
        rw [found] at target
        exact .inl target
    | some root =>
        rw [found] at target
        have stays := gathered.kept.root scene.executor.host root rfl found
        rw [show root = place from target.symm] at stays
        exact .inr stays

private theorem upkeep_hang (content : LoadedModule) (version : Nat)
    (fresh : version ∉ scene.executor.made) :
    Upkeep first scene (scene.hang content version) := by
  intro neat
  have ⟨place, here, gathered⟩ := acquire_gathered neat.linked neat.host neat.first_le
    scene.executor.settings content version
  have own := acquire_own scene.executor.settings scene.executor.host content version scene.around
  unfold hang
  dsimp only
  refine upkeep_hungUp scene _ rfl ?_ ?_ ?_ ?_ ?_ here gathered.linked gathered.kept gathered.new
    gathered.hung neat
  · rw [Executor.takeIn_made, own.1, List.nodup_append]
    refine ⟨neat.versions, by simp, ?_⟩
    intro earlier member last same
    rw [List.mem_singleton] at same
    rintro rfl
    exact fresh (same ▸ member)
  · intro node
    simp only [Executor.mem_nodes, Executor.takeIn, List.mem_append, List.mem_singleton]
    grind
  · intro node
    simp only [Executor.mem_held, Executor.takeIn, List.mem_append, List.mem_singleton]
    grind
  · intro session member
    rcases List.mem_append.mp member with before | last
    · exact .inl before
    · rw [List.mem_singleton.mp last]
      exact .inr gathered.brought
  · simp only [Executor.nodes, Executor.takeIn, List.flatMap_append, List.flatMap_singleton]
    rw [← List.append_assoc, List.nodup_append]
    refine ⟨neat.distinct, gathered.distinct, ?_⟩
    intro node member last brought
    rintro rfl
    have below := neat.within node member
    have above := gathered.new node brought
    omega

/-- Each chore is upkeep. -/
theorem Chore.upkeep {before after : Scene} (chore : Chore before after) :
    Upkeep first before after := by
  cases chore with
  | books host settings marked sessions diagnostic =>
      exact upkeep_books before host sessions diagnostic
  | hang content version newest =>
      exact upkeep_hang before content version fun member =>
        Nat.lt_irrefl version (newest version member)
  | dispose version => exact upkeep_dispose before version
  | clear => exact upkeep_clear before
  | display message clear => exact upkeep_display before message clear

end Chores

/-- Chores one after the other are upkeep. -/
theorem Chores.upkeep {first : Nat} {scene after : Scene} (chores : Chores scene after) :
    Upkeep first scene after :=
  chores.induct Upkeep.refl Upkeep.trans Chore.upkeep

/-- Each event is upkeep. -/
theorem step_upkeep {first : Nat} {scene : Scene} (custody : scene.executor.Custody)
    (event : Event) : Upkeep first scene (scene.step event) :=
  (step_chores custody event).upkeep

/-- A history is upkeep. -/
theorem upkeep_run {first : Nat} {scene : Scene} (custody : scene.executor.Custody)
    (events : List Event) : Upkeep first scene (scene.run events) := by
  induction events generalizing scene with
  | nil => exact .refl scene
  | cons event rest inductionHypothesis =>
      have moved := (scene.step_move event).custody custody
      exact (step_upkeep custody event).trans (inductionHypothesis moved)

/-- The part of the page that is an executor's own is in order after any history. -/
theorem neat_run {first : Nat} {scene : Scene} (custody : scene.executor.Custody)
    (neat : scene.Neat first) (events : List Event) : (scene.run events).Neat first :=
  (upkeep_run custody events neat).1

end Scene

end Lectern.Sandbox
