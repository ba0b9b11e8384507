/-
Module: Lectern.Proofs.Sandbox.Ensemble
Purpose: Executors that share a page and a registry. However their events follow each other, each
  accounts for exactly what it holds, and whatever belongs to none of them stays as it was.
Trusted boundary: none
Main exports: Ensemble, Ensemble.Opening, Ensemble.Tidy, Ensemble.tidy_run
-/
import Mathlib.Logic.Function.Basic
import Lectern.Proofs.Sandbox.Handles
import Lectern.Proofs.Sandbox.Newest

namespace Lectern.Sandbox

/-- Executors that share a page and a registry. -/
structure Ensemble (Name : Type) where
  executors : Name → Executor
  around : Surroundings

namespace Ensemble

variable {Name : Type}

/-- An executor with what is around it. -/
def scene (ensemble : Ensemble Name) (name : Name) : Scene :=
  ⟨ensemble.executors name, ensemble.around⟩

/-- An event of one executor. -/
def step [DecidableEq Name] (ensemble : Ensemble Name) (moment : Name × Scene.Event) :
    Ensemble Name :=
  let after := (ensemble.scene moment.1).step moment.2
  { executors := Function.update ensemble.executors moment.1 after.executor
    around := after.around }

/-- Events of the executors in some order. -/
def run [DecidableEq Name] (ensemble : Ensemble Name) (moments : List (Name × Scene.Event)) :
    Ensemble Name :=
  moments.foldl step ensemble

/-! ## What an executor leaves to the others -/

section Foreign

variable {executor : Executor} {scene after : Scene}

/-- The part of the page that is another executor's own stays in order. -/
private theorem neat_foreign {first : Nat} (neat : Scene.Neat first ⟨executor, scene.around⟩)
    (before : scene.Neat first) (linked : after.around.page.Linked first)
    (minds : scene.Minds first after)
    (apart : ∀ node ∈ executor.nodes, node ∉ scene.executor.nodes) :
    Scene.Neat first ⟨executor, after.around⟩ := by
  have grown := minds.kept.grown
  have parents (node : Nat) (own : node ∈ executor.nodes) :
      (after.around.page.get node).parent = (scene.around.page.get node).parent :=
    minds.others node (neat.within node own).2 (apart node own)
  refine ⟨linked, neat.host, Nat.le_trans neat.first_le grown, neat.versions, neat.distinct, ?_, ?_,
    ?_, ?_⟩
  · intro node own
    have bounds := neat.within node own
    exact ⟨bounds.1, Nat.lt_of_lt_of_le bounds.2 grown⟩
  · intro node held
    obtain ⟨place, here, hangs⟩ := neat.hung node held
    refine ⟨place, ?_, (parents node (Executor.nodes_of_held held)).trans hangs⟩
    rcases here with same | root
    · exact .inl same
    · have kept : Kept first (fun id => id = scene.executor.host ∨ id = executor.host)
          scene.around.page after.around.page := by
        apply minds.kept.mono (fun id host => .inl host)
        rintro id (rfl | rfl)
        · exact before.host
        · exact neat.host
      exact .inr (kept.root executor.host place (.inr rfl) root)
  · intro node own free
    exact (parents node own).trans (neat.loose node own free)
  · intro session member node own
    have bounds := neat.within node (Executor.mem_nodes.mpr (.inr ⟨session, member, own⟩))
    rw [show (⟨executor, after.around⟩ : Scene).around = after.around from rfl,
      minds.kept.later node bounds.1 bounds.2]
    exact neat.lessons session member node own

/-- The handles of another executor are live as before. -/
private theorem accounted_foreign {start : Registry}
    (accounted : Scene.Accounted start ⟨executor, scene.around⟩) (later : after.Accounted start)
    (grown : scene.around.registry.minted ≤ after.around.registry.minted)
    (respects : scene.Respects after)
    (apart : ∀ handle ∈ executor.handles, handle ∉ after.executor.handles) :
    Scene.Accounted start ⟨executor, after.around⟩ := by
  refine ⟨later.base, later.since, accounted.versions, accounted.distinct, ?_, ?_⟩
  · intro handle own
    obtain ⟨number, above, most, same⟩ := accounted.issued handle own
    exact ⟨number, above, Nat.le_trans most grown, same⟩
  · intro handle own
    rw [← accounted.live handle own]
    exact respects.mem_handles (apart handle own)

end Foreign

/-! ## Order -/

/-- Has nothing happened yet? The executors are new and their hosts are in the page, which names none
but its own elements. -/
structure Opening (ensemble : Ensemble Name) : Prop where
  new : ∀ name, ensemble.executors name =
    { host := (ensemble.executors name).host, settings := (ensemble.executors name).settings }
  inside : ∀ name, (ensemble.executors name).host < ensemble.around.page.nextId
  closed : ensemble.around.page.Closed

/-- Each executor keeps its part of the page in order, and none has a share in what is another's. -/
structure Kempt (start ensemble : Ensemble Name) : Prop where
  custody : ∀ name, (ensemble.executors name).Custody
  neat : ∀ name, (ensemble.scene name).Neat start.around.page.nextId
  host : ∀ name, (ensemble.executors name).host = (start.executors name).host
  linked : ensemble.around.page.Linked start.around.page.nextId
  kept : Kept start.around.page.nextId (fun id => ∃ name, id = (start.executors name).host)
    start.around.page ensemble.around.page
  nodesApart : ∀ name other, name ≠ other → ∀ node ∈ (ensemble.executors name).nodes,
    node ∉ (ensemble.executors other).nodes
  /-- Whatever new hangs in the page is held by someone. -/
  hanging : ∀ node place, start.around.page.nextId ≤ node →
    (ensemble.around.page.get node).parent = some place →
    ∃ name, node ∈ (ensemble.executors name).held

/-- Each executor is in order, in the page and in the registry. -/
structure Ordered (start ensemble : Ensemble Name) : Prop extends Kempt start ensemble where
  accounted : ∀ name, (ensemble.scene name).Accounted start.around.registry
  handlesApart : ∀ name other, name ≠ other → ∀ handle ∈ (ensemble.executors name).handles,
    handle ∉ (ensemble.executors other).handles
  /-- Every handle that was not there before is held by someone. -/
  live : ∀ handle ∈ ensemble.around.registry.handles, handle ∈ start.around.registry.handles ∨
    ∃ name, handle ∈ (ensemble.executors name).heldHandles
  others : ensemble.around.registry.live.filter
      (fun entry => start.around.registry.handles.contains entry.1) =
    start.around.registry.live

theorem Opening.kempt {start : Ensemble Name} (opening : start.Opening) : Kempt start start where
  custody := by
    intro name
    rw [opening.new name]
    exact Executor.custody_fresh _ _
  neat := by
    intro name
    unfold scene
    rw [opening.new name]
    exact Scene.neat_fresh opening.closed (opening.inside name) _ _
  host := fun _ => rfl
  linked := opening.closed.linked
  kept := .refl _
  nodesApart := by
    intro name _ _ node own
    rw [opening.new name] at own
    simp [Executor.nodes] at own
  hanging := by
    intro node place new hangs
    have missing := Page.lt_of_parent hangs
    omega

theorem Opening.ordered {start : Ensemble Name} (opening : start.Opening) : Ordered start start where
  toKempt := opening.kempt
  accounted := by
    intro name
    unfold scene
    rw [opening.new name]
    exact ⟨rfl, Nat.le_refl _, List.nodup_nil, List.nodup_nil, by simp [Executor.handles],
      by simp [Executor.handles]⟩
  handlesApart := by
    intro name _ _ handle own
    rw [opening.new name] at own
    simp [Executor.handles] at own
  live := fun _ listed => .inl listed
  others := by
    rw [List.filter_eq_self]
    intro entry listed
    exact List.contains_iff_mem.mpr (List.mem_map_of_mem listed)

section Step

variable [DecidableEq Name] {start ensemble : Ensemble Name}

theorem scene_step_self (ensemble : Ensemble Name) (name : Name) (event : Scene.Event) :
    (ensemble.step (name, event)).scene name = (ensemble.scene name).step event := by
  unfold step scene
  dsimp only
  rw [Function.update_self]

theorem executors_step_of_ne (ensemble : Ensemble Name) {name other : Name} (apart : other ≠ name)
    (event : Scene.Event) :
    (ensemble.step (name, event)).executors other = ensemble.executors other := by
  unfold step
  dsimp only
  rw [Function.update_of_ne apart]

theorem executors_step_self (ensemble : Ensemble Name) (name : Name) (event : Scene.Event) :
    (ensemble.step (name, event)).executors name =
      ((ensemble.scene name).step event).executor :=
  congrArg Scene.executor (scene_step_self ensemble name event)

theorem scene_step_of_ne (ensemble : Ensemble Name) {name other : Name} (apart : other ≠ name)
    (event : Scene.Event) :
    (ensemble.step (name, event)).scene other =
      ⟨ensemble.executors other, ((ensemble.scene name).step event).around⟩ := by
  unfold scene
  rw [executors_step_of_ne ensemble apart event]
  rfl

private theorem custody_step (custody : ∀ name, (ensemble.executors name).Custody) (name : Name)
    (event : Scene.Event) (other : Name) :
    ((ensemble.step (name, event)).executors other).Custody := by
  by_cases same : other = name
  · subst same
    rw [executors_step_self]
    exact (Scene.step_move _ event).custody (custody other)
  · rw [executors_step_of_ne ensemble same]
    exact custody other

/-- What executors do not share they do not share behind an event, if the one whose event it is takes
nothing from the others. -/
private theorem apart_step {α : Type} (part : Executor → List α) (name : Name)
    (event : Scene.Event)
    (apart : ∀ left right, left ≠ right → ∀ item ∈ part (ensemble.executors left),
      item ∉ part (ensemble.executors right))
    (taken : ∀ other, other ≠ name → ∀ item ∈ part (ensemble.executors other),
      item ∉ part ((ensemble.scene name).step event).executor) :
    ∀ left right, left ≠ right → ∀ item ∈ part ((ensemble.step (name, event)).executors left),
      item ∉ part ((ensemble.step (name, event)).executors right) := by
  intro left right different item own
  by_cases isLeft : left = name
  · subst isLeft
    rw [executors_step_self] at own
    rw [executors_step_of_ne ensemble different.symm]
    intro shared
    exact taken right different.symm item shared own
  · rw [executors_step_of_ne ensemble isLeft] at own
    by_cases isRight : right = name
    · subst isRight
      rw [executors_step_self]
      exact taken left isLeft item own
    · rw [executors_step_of_ne ensemble isRight]
      exact apart left right different item own

omit [DecidableEq Name] in
theorem Kempt.minds (kempt : Kempt start ensemble) (name : Name) (event : Scene.Event) :
    ((ensemble.scene name).step event).Neat start.around.page.nextId ∧
      (ensemble.scene name).Minds start.around.page.nextId ((ensemble.scene name).step event) :=
  Scene.step_upkeep (kempt.custody name) event (kempt.neat name)

omit [DecidableEq Name] in
/-- The elements of an executor are its own behind an event of another one. -/
private theorem Kempt.nodes_taken (kempt : Kempt start ensemble) (name : Name)
    (event : Scene.Event) {other : Name} (apart : other ≠ name) :
    ∀ node ∈ (ensemble.executors other).nodes,
      node ∉ ((ensemble.scene name).step event).executor.nodes := by
  intro node own shared
  rcases (kempt.minds name event).2.own node shared with before | new
  · exact kempt.nodesApart other name apart node own before
  · have bounds := (kempt.neat other).within node own
    exact absurd bounds.2 (Nat.not_lt_of_le new)

/-- Whatever new hangs in the page behind an event is held by someone. -/
private theorem Kempt.hanging_step (kempt : Kempt start ensemble) (name : Name)
    (event : Scene.Event) {node place : Nat} (new : start.around.page.nextId ≤ node)
    (hangs : (((ensemble.scene name).step event).around.page.get node).parent = some place) :
    ∃ other, node ∈ ((ensemble.step (name, event)).executors other).held := by
  have ⟨neat, minds⟩ := kempt.minds name event
  by_cases held : node ∈ ((ensemble.scene name).step event).executor.held
  · exact ⟨name, by rw [executors_step_self]; exact held⟩
  by_cases own : node ∈ ((ensemble.scene name).step event).executor.nodes
  · rw [neat.loose node own held] at hangs
    cases hangs
  by_cases mine : node ∈ (ensemble.scene name).executor.nodes ∨
      (ensemble.scene name).around.page.nextId ≤ node
  · rw [minds.dropped node mine own] at hangs
    cases hangs
  -- What is left was neither made nor taken down by the executor whose event it is.
  rw [not_or, Nat.not_le] at mine
  rw [minds.others node mine.2 mine.1] at hangs
  obtain ⟨other, before⟩ := kempt.hanging node place new hangs
  refine ⟨other, ?_⟩
  rw [executors_step_of_ne]
  · exact before
  · rintro rfl
    exact mine.1 (Executor.nodes_of_held before)

/-- Each event keeps the page in order. -/
theorem Kempt.step (kempt : Kempt start ensemble) (name : Name) (event : Scene.Event) :
    Kempt start (ensemble.step (name, event)) := by
  have ⟨neat, minds⟩ := kempt.minds name event
  constructor
  case custody => exact custody_step kempt.custody name event
  case neat =>
    intro other
    by_cases same : other = name
    · subst same
      rw [scene_step_self]
      exact neat
    · rw [scene_step_of_ne ensemble same event]
      have before : Scene.Neat start.around.page.nextId
          ⟨ensemble.executors other, (ensemble.scene name).around⟩ := kempt.neat other
      exact neat_foreign before (kempt.neat name) neat.linked minds
        fun node own => kempt.nodesApart other name same node own
  case host =>
    intro other
    by_cases same : other = name
    · subst same
      rw [executors_step_self, minds.host]
      exact kempt.host other
    · rw [executors_step_of_ne ensemble same]
      exact kempt.host other
  case linked => exact neat.linked
  case kept =>
    refine kempt.kept.trans (minds.kept.mono ?_ ?_)
    · rintro id rfl
      exact ⟨name, kempt.host name⟩
    · rintro id ⟨other, rfl⟩
      rw [← kempt.host other]
      exact (kempt.neat other).host
  case nodesApart =>
    exact apart_step Executor.nodes name event kempt.nodesApart
      fun _ apart => kempt.nodes_taken name event apart
  case hanging => exact fun node place new hangs => kempt.hanging_step name event new hangs

private theorem Ordered.respects (ordered : Ordered start ensemble) (name : Name)
    (event : Scene.Event) {limit : Nat} (fresh : start.around.registry.Fresh limit)
    (below : (ensemble.step (name, event)).around.registry.minted ≤ limit) :
    ((ensemble.scene name).step event).Accounted start.around.registry ∧
      (ensemble.scene name).Respects ((ensemble.scene name).step event) :=
  (Scene.step_stewardship fresh (ordered.custody name) event).2 (ordered.accounted name) below

/-- The handles of an executor are its own behind an event of another one, as long as those that are
given out are fresh. -/
private theorem Ordered.handles_taken (ordered : Ordered start ensemble) (name : Name)
    (event : Scene.Event) {limit : Nat} (fresh : start.around.registry.Fresh limit)
    (below : (ensemble.step (name, event)).around.registry.minted ≤ limit)
    {other : Name} (apart : other ≠ name) :
    ∀ handle ∈ (ensemble.executors other).handles,
      handle ∉ ((ensemble.scene name).step event).executor.handles := by
  intro handle own shared
  rcases (ordered.respects name event fresh below).2.own handle shared with
    before | ⟨number, above, most, rfl⟩
  · exact ordered.handlesApart other name apart handle own before
  · obtain ⟨first, since, past, same⟩ := (ordered.accounted other).issued _ own
    have known : first ≤ ensemble.around.registry.minted := past
    have new : ensemble.around.registry.minted < number := above
    have last : number ≤ limit := Nat.le_trans most below
    have kept := (ordered.accounted name).since
    have kept : start.around.registry.minted ≤ ensemble.around.registry.minted := kept
    rw [Registry.handle_of_base (ordered.accounted name).base number] at same
    have equal := fresh.different number first (by omega) last since (by omega) same
    omega

/-- Every handle that is live behind an event was so at first, or is held by someone. -/
private theorem Ordered.live_step (ordered : Ordered start ensemble) (name : Name)
    (event : Scene.Event) {limit : Nat} (fresh : start.around.registry.Fresh limit)
    (below : (ensemble.step (name, event)).around.registry.minted ≤ limit) {handle : String}
    (listed : handle ∈ (ensemble.step (name, event)).around.registry.handles) :
    handle ∈ start.around.registry.handles ∨
      ∃ other, handle ∈ ((ensemble.step (name, event)).executors other).heldHandles := by
  have ⟨accounted, respects⟩ := ordered.respects name event fresh below
  by_cases own : handle ∈ ((ensemble.scene name).step event).executor.handles
  · refine .inr ⟨name, ?_⟩
    rw [executors_step_self]
    exact (accounted.live handle own).mp listed
  · have before : handle ∈ ensemble.around.registry.handles :=
      (respects.mem_handles own).mp listed
    rcases ordered.live handle before with old | ⟨other, held⟩
    · exact .inl old
    · refine .inr ⟨other, ?_⟩
      rw [executors_step_of_ne]
      · exact held
      · rintro rfl
        exact own (respects.kept handle (Executor.handles_of_held held))

/-- Each event keeps the order, as long as handles are fresh. -/
theorem Ordered.step (ordered : Ordered start ensemble) (name : Name) (event : Scene.Event)
    {limit : Nat} (fresh : start.around.registry.Fresh limit)
    (below : (ensemble.step (name, event)).around.registry.minted ≤ limit) :
    Ordered start (ensemble.step (name, event)) where
  toKempt := ordered.toKempt.step name event
  accounted := by
    have ⟨accounted, respects⟩ := ordered.respects name event fresh below
    have custody : (ensemble.scene name).executor.Custody := ordered.custody name
    have grown := (Scene.step_stewardship fresh custody event).1
    intro other
    by_cases same : other = name
    · subst same
      rw [scene_step_self]
      exact accounted
    · rw [scene_step_of_ne ensemble same event]
      have before : Scene.Accounted start.around.registry
          ⟨ensemble.executors other, (ensemble.scene name).around⟩ := ordered.accounted other
      exact accounted_foreign before accounted grown respects
        (ordered.handles_taken name event fresh below same)
  handlesApart := apart_step Executor.handles name event ordered.handlesApart
    fun _ apart => ordered.handles_taken name event fresh below apart
  live := fun handle listed => ordered.live_step name event fresh below listed
  others := by
    have ⟨accounted, respects⟩ := ordered.respects name event fresh below
    refine Eq.trans ?_ ordered.others
    apply respects.others (start.around.registry.handles.contains ·)
    intro handle own
    obtain ⟨number, above, most, rfl⟩ := accounted.issued handle own
    have unused := fresh.unused number above (Nat.le_trans most below)
    simpa using unused

/-- No handle is given out a second time. -/
private theorem minted_run (custody : ∀ name, (ensemble.executors name).Custody)
    (moments : List (Name × Scene.Event)) :
    ensemble.around.registry.minted ≤ (ensemble.run moments).around.registry.minted := by
  induction moments generalizing ensemble with
  | nil => exact Nat.le_refl _
  | cons moment rest inductionHypothesis =>
      obtain ⟨name, event⟩ := moment
      have none : ensemble.around.registry.Fresh 0 := by
        constructor
        · intro number above below
          omega
        · intro left right above below
          omega
      have own : (ensemble.scene name).executor.Custody := custody name
      exact Nat.le_trans (Scene.step_stewardship none own event).1
        (inductionHypothesis (custody_step custody name event))

/-- A history keeps the order, as long as handles are fresh. -/
theorem Ordered.run (ordered : Ordered start ensemble) (moments : List (Name × Scene.Event))
    (fresh : start.around.registry.Fresh (ensemble.run moments).around.registry.minted) :
    Ordered start (ensemble.run moments) := by
  induction moments generalizing ensemble with
  | nil => exact ordered
  | cons moment rest inductionHypothesis =>
      obtain ⟨name, event⟩ := moment
      have below := minted_run (custody_step ordered.custody name event) rest
      exact inductionHypothesis (ordered.step name event fresh below) fresh

end Step

/-! ## Tidiness -/

/-- The events of one executor in a history. -/
def eventsOf [DecidableEq Name] (name : Name) (moments : List (Name × Scene.Event)) :
    List Scene.Event :=
  (moments.filter (·.1 = name)).map (·.2)

/-- What holds whenever executors have shared a page and a registry for a while. -/
structure Tidy [DecidableEq Name] (start : Ensemble Name) (moments : List (Name × Scene.Event))
    (ensemble : Ensemble Name) : Prop where
  /-- The sessions that were not let go are those that are shown, those of mounts that wait for the
  page, and those that an unmount left to be taken down. -/
  undisposed : ∀ name, ∀ session ∈ (ensemble.executors name).sessions,
    session.disposed = false ↔ (ensemble.executors name).Holds session.version
  present : ∀ name version, (ensemble.executors name).Holds version →
    ∃ session ∈ (ensemble.executors name).sessions, session.version = version
  /-- The handles that are live are those that were before, and those of these sessions. -/
  handles : ∀ handle, handle ∈ ensemble.around.registry.handles ↔
    handle ∈ start.around.registry.handles ∨ ∃ name, ∃ session ∈ (ensemble.executors name).sessions,
      session.disposed = false ∧ handle ∈ session.handles
  /-- No two sessions share a handle, and none has one twice or one that was live before. -/
  handlesApart : ∀ name other, ∀ session ∈ (ensemble.executors name).sessions,
    ∀ rival ∈ (ensemble.executors other).sessions, ∀ handle ∈ session.handles,
      handle ∈ rival.handles → name = other ∧ session = rival
  handlesOnce : ∀ name, ∀ session ∈ (ensemble.executors name).sessions, session.handles.Nodup
  handlesNew : ∀ name, ∀ session ∈ (ensemble.executors name).sessions, ∀ handle ∈ session.handles,
    handle ∉ start.around.registry.handles
  /-- Handles that were live before are live still, in their order and with their content. -/
  otherHandles : ensemble.around.registry.live.filter
      (fun entry => start.around.registry.handles.contains entry.1) =
    start.around.registry.live
  /-- The elements of a session that was not let go hang once in the page, under the host of its
  executor or the shadow root of that. -/
  hung : ∀ name, ∀ session ∈ (ensemble.executors name).sessions, session.disposed = false →
    ∀ node ∈ session.nodes, ∃ place, (ensemble.scene name).Place place ∧
      ∀ id, (ensemble.around.page.get id).children.count node = if id = place then 1 else 0
  /-- The elements of a session that was let go hang nowhere. -/
  gone : ∀ name, ∀ session ∈ (ensemble.executors name).sessions, session.disposed = true →
    ∀ node ∈ session.nodes, ∀ id, node ∉ (ensemble.around.page.get id).children
  /-- Every error in the page is the one that some executor shows at its place, so that there is at
  most one for each. -/
  errors : ∀ id node, start.around.page.nextId ≤ node →
    node ∈ (ensemble.around.page.get id).children →
    isDiagnostic (ensemble.around.page.get node) = true →
    ∃ name, (ensemble.executors name).diagnostic = some node ∧ (ensemble.scene name).Place id
  /-- What is no place of an executor is as it was. -/
  untouched : ∀ id < start.around.page.nextId, (∀ name, ¬ (ensemble.scene name).Place id) →
    ensemble.around.page.get id = start.around.page.get id
  /-- What is no host is as it was, apart from new children, -/
  places : ∀ id < start.around.page.nextId, (∀ name, id ≠ (start.executors name).host) →
    asOf start.around.page.nextId (ensemble.around.page.get id) = start.around.page.get id
  /-- and so is a host, apart from its marker and the making of its shadow root. -/
  hosts : ∀ name, unmarked (asOf start.around.page.nextId
      (ensemble.around.page.get (start.executors name).host)) =
    unmarked (start.around.page.get (start.executors name).host)
  roots : ∀ name root,
    ((start.around.page.get (start.executors name).host).shadowRoot = some root →
      (ensemble.around.page.get (start.executors name).host).shadowRoot = some root) ∧
    ((ensemble.around.page.get (start.executors name).host).shadowRoot = some root →
      (start.around.page.get (start.executors name).host).shadowRoot = some root ∨
        start.around.page.nextId ≤ root)
  /-- With nothing in flight, the handles that are live are those that were before and those of the
  sessions that are current. -/
  idle : (∀ name, (ensemble.executors name).Idle) →
    ∀ handle, handle ∈ ensemble.around.registry.handles ↔
      handle ∈ start.around.registry.handles ∨ ∃ name session,
        (ensemble.executors name).current? = some session ∧ handle ∈ session.handles
  /-- If moreover the last call of each executor was an unmount, or there was none, then the registry
  is as it was, and so is the page, apart from the markers and shadow roots of hosts. -/
  vacated : (∀ name, (ensemble.executors name).Idle ∧
      Scene.lastCall (eventsOf name moments) ≠ some .mount) →
    ensemble.around.registry.live = start.around.registry.live ∧
    (∀ id < start.around.page.nextId,
      unmarked (ensemble.around.page.get id) = unmarked (start.around.page.get id) ∧
      ((∀ name, id ≠ (start.executors name).host) →
        ensemble.around.page.get id = start.around.page.get id)) ∧
    ∀ id node, start.around.page.nextId ≤ node → node ∉ (ensemble.around.page.get id).children

section Tidying

variable {start ensemble : Ensemble Name}

/-- What hangs in the page and is new hangs at the place of the executor that holds it. -/
theorem Kempt.place_of_child (kempt : Kempt start ensemble) {id node : Nat}
    (new : start.around.page.nextId ≤ node)
    (named : node ∈ (ensemble.around.page.get id).children) :
    ∃ name, node ∈ (ensemble.executors name).held ∧ (ensemble.scene name).Place id := by
  have hangs := (kempt.linked.mem_children new).mp named
  obtain ⟨name, held⟩ := kempt.hanging node id new hangs
  obtain ⟨place, here, same⟩ := (kempt.neat name).hung node held
  have hangs : ((ensemble.scene name).around.page.get node).parent = some id := hangs
  rw [hangs] at same
  obtain rfl := Option.some.inj same
  exact ⟨name, held, here⟩

/-- An element without later children is what it was as of the page. -/
theorem asOf_of_old {first : Nat} {element : Element}
    (old : ∀ child ∈ element.children, child < first) : asOf first element = element := by
  unfold asOf
  rw [List.filter_eq_self.mpr (by simpa using old)]

/-- In a page that names none but its own elements, every child is an old one. -/
theorem Opening.asOf_start (opening : start.Opening) (id : Nat) :
    asOf start.around.page.nextId (start.around.page.get id) = start.around.page.get id := by
  apply asOf_of_old
  intro child named
  apply Nat.lt_of_not_le
  intro new
  have hangs := (opening.closed.linked.mem_children new).mp named
  have inside := Page.lt_of_parent hangs
  omega

/-- The sessions that were not let go, told by whether they are held. -/
theorem Ordered.undisposed (ordered : Ordered start ensemble) {name : Name}
    {session : MountSession} (member : session ∈ (ensemble.executors name).sessions) :
    session.disposed = false ↔ (ensemble.executors name).Holds session.version := by
  have custody := ordered.custody name
  rw [← custody.kept, Executor.mem_kept]
  constructor
  · intro alive
    exact ⟨session, member, alive, rfl⟩
  · rintro ⟨other, inside, alive, same⟩
    rw [← Executor.session_unique custody.made inside member same]
    exact alive

theorem Ordered.mem_handles (ordered : Ordered start ensemble) (handle : String) :
    handle ∈ ensemble.around.registry.handles ↔
      handle ∈ start.around.registry.handles ∨
        ∃ name, handle ∈ (ensemble.executors name).heldHandles := by
  constructor
  · exact ordered.live handle
  · rintro (old | ⟨name, held⟩)
    · obtain ⟨entry, listed, rfl⟩ := List.mem_map.mp old
      rw [← ordered.others] at listed
      exact List.mem_map_of_mem (List.mem_of_mem_filter listed)
    · exact ((ordered.accounted name).live handle (Executor.handles_of_held held)).mpr held

/-- The elements of a session that was let go are held by none. -/
theorem Ordered.not_held (ordered : Ordered start ensemble) {name : Name}
    {session : MountSession} (member : session ∈ (ensemble.executors name).sessions)
    (disposed : session.disposed = true) {node : Nat} (own : node ∈ session.nodes) :
    node ∉ (ensemble.executors name).held := by
  have neat := ordered.neat name
  intro held
  rcases Executor.mem_held.mp held with shown | ⟨other, inside, alive, shared⟩
  · exact neat.error_apart shown member own
  · have same := neat.session_of_node inside member shared own
    rw [same, disposed] at alive
    cases alive

/-- What is no place of an executor has no new children. -/
theorem Ordered.old_children (ordered : Ordered start ensemble) {id : Nat}
    (foreign : ∀ name, (ensemble.executors name).held = [] ∨ ¬ (ensemble.scene name).Place id) :
    ∀ child ∈ (ensemble.around.page.get id).children, child < start.around.page.nextId := by
  intro child named
  apply Nat.lt_of_not_le
  intro new
  obtain ⟨name, held, here⟩ := ordered.place_of_child new named
  rcases foreign name with nothing | apart
  · rw [nothing] at held
    cases held
  · exact apart here

/-- What is held with nothing in flight is of the current session. -/
theorem Ordered.mem_heldHandles_of_idle (ordered : Ordered start ensemble) {name : Name}
    (idle : (ensemble.executors name).Idle) (handle : String) :
    handle ∈ (ensemble.executors name).heldHandles ↔
      ∃ session, (ensemble.executors name).current? = some session ∧ handle ∈ session.handles := by
  have custody := ordered.custody name
  rw [Executor.mem_heldHandles]
  constructor
  · rintro ⟨session, member, alive, own⟩
    have shown := (idle.holds_iff _).mp ((ordered.undisposed member).mp alive)
    refine ⟨session, ?_, own⟩
    rw [Executor.current?, shown]
    exact Executor.session?_of_mem custody.made member
  · rintro ⟨session, current, own⟩
    obtain ⟨version, shown, found⟩ := Option.bind_eq_some_iff.mp current
    obtain ⟨member, rfl⟩ := Executor.session?_mem found
    exact ⟨session, member, (ordered.undisposed member).mpr (.inl shown), own⟩

/-- An executor that is idle and was unmounted holds nothing and shows nothing. -/
theorem Ordered.nothing_held (ordered : Ordered start ensemble) {name : Name}
    (idle : (ensemble.executors name).Idle)
    (unmounted : (ensemble.executors name).phase? (ensemble.executors name).version = none) :
    (ensemble.executors name).held = [] ∧ (ensemble.executors name).heldHandles = [] := by
  have ⟨shown, clear⟩ := (ordered.custody name).absent unmounted
  have none : (ensemble.executors name).sessions.filter (fun session => !session.disposed) = [] := by
    rw [List.filter_eq_nil_iff]
    intro session member alive
    have held := (ordered.undisposed member).mp (by simpa using alive)
    rw [idle.holds_iff, shown] at held
    cases held
  unfold Executor.held Executor.heldHandles
  rw [none, clear idle.2]
  exact ⟨rfl, rfl⟩

/-- Is the newest version of an executor one of a mount? The last of its own calls decides that. -/
theorem newest_begun_run [DecidableEq Name] (custody : ∀ name, (start.executors name).Custody)
    (moments : List (Name × Scene.Event)) (name : Name) :
    (((start.run moments).executors name).phase?
        ((start.run moments).executors name).version).isSome =
      mountIsNewest (Scene.lastCall (eventsOf name moments))
        ((start.executors name).phase? (start.executors name).version).isSome := by
  induction moments generalizing start with
  | nil => rfl
  | cons moment rest inductionHypothesis =>
      obtain ⟨who, event⟩ := moment
      rw [show start.run ((who, event) :: rest) = (start.step (who, event)).run rest from rfl,
        inductionHypothesis (custody_step custody who event)]
      by_cases own : who = name
      · subst own
        have events : eventsOf who ((who, event) :: rest) = event :: eventsOf who rest := by
          simp [eventsOf]
        have move := ((start.scene who).step_move event).newest_begun (custody who)
        rw [executors_step_self, events, Scene.lastCall_cons]
        cases Scene.lastCall (eventsOf who rest) with
        | some call => cases call <;> rfl
        | none => exact move
      · have events : eventsOf name ((who, event) :: rest) = eventsOf name rest := by
          simp [eventsOf, own]
        rw [executors_step_of_ne start (Ne.symm own), events]

/-- However the events of executors on a page follow each other, each accounts for exactly what it
holds, and whatever belongs to none of them stays as it was. Their hosts need be neither distinct nor
apart. -/
theorem tidy_run [DecidableEq Name] (opening : start.Opening)
    (moments : List (Name × Scene.Event))
    (fresh : start.around.registry.Fresh (start.run moments).around.registry.minted) :
    Tidy start moments (start.run moments) := by
  have ordered := opening.ordered.run moments fresh
  have calls := newest_begun_run opening.ordered.custody moments
  generalize start.run moments = ensemble at ordered calls fresh
  have linked := ordered.linked
  constructor
  case undisposed => exact fun name session member => ordered.undisposed member
  case present =>
    intro name version held
    obtain ⟨session, member, -, same⟩ :=
      Executor.mem_kept.mp (((ordered.custody name).kept version).mpr held)
    exact ⟨session, member, same⟩
  case handles =>
    intro handle
    simp only [ordered.mem_handles, Executor.mem_heldHandles]
  case handlesApart =>
    intro name other session member rival inside handle own shared
    by_cases same : name = other
    · subst same
      have distinct := (ordered.accounted name).distinct
      exact ⟨rfl, Executor.session_of_shared (·.handles) distinct member inside own shared⟩
    · refine absurd (List.mem_flatMap.mpr ⟨rival, inside, shared⟩)
        (ordered.handlesApart name other same handle ?_)
      exact List.mem_flatMap.mpr ⟨session, member, own⟩
  case handlesOnce =>
    intro name session member
    have distinct := (ordered.accounted name).distinct
    exact (List.nodup_flatMap.mp distinct).1 session member
  case handlesNew =>
    intro name session member handle own
    obtain ⟨number, above, most, rfl⟩ := (ordered.accounted name).issued handle
      (List.mem_flatMap.mpr ⟨session, member, own⟩)
    exact fresh.unused number above most
  case otherHandles => exact ordered.others
  case hung =>
    intro name session member alive node own
    have mine := Executor.mem_nodes.mpr (.inr ⟨session, member, own⟩)
    have new := ((ordered.neat name).within node mine).1
    obtain ⟨place, here, hangs⟩ := (ordered.neat name).hung node
      (Executor.mem_held.mpr (.inr ⟨session, member, alive, own⟩))
    refine ⟨place, here, ?_⟩
    intro id
    have hangs : (ensemble.around.page.get node).parent = some place := hangs
    rw [linked.named id node new, hangs]
    simp only [Option.some.injEq, eq_comm]
  case gone =>
    intro name session member disposed node own id named
    have mine := Executor.mem_nodes.mpr (.inr ⟨session, member, own⟩)
    have new := ((ordered.neat name).within node mine).1
    have hangs := (linked.mem_children new).mp named
    have loose := (ordered.neat name).loose node mine (ordered.not_held member disposed own)
    have loose : (ensemble.around.page.get node).parent = none := loose
    rw [loose] at hangs
    cases hangs
  case errors =>
    intro id node new named error
    obtain ⟨name, held, here⟩ := ordered.place_of_child new named
    refine ⟨name, ?_, here⟩
    rcases Executor.mem_held.mp held with shown | ⟨session, member, -, own⟩
    · exact shown
    · have lesson := (ordered.neat name).lessons session member node own
      have lesson : isDiagnostic (ensemble.around.page.get node) = false := lesson
      rw [lesson] at error
      cases error
  case untouched =>
    intro id old foreign
    have other : ¬ ∃ name, id = (start.executors name).host := by
      rintro ⟨name, same⟩
      rw [← ordered.host name] at same
      exact foreign name (.inl same)
    have same := ordered.kept.plain id old other
    rw [opening.asOf_start, asOf_of_old] at same
    · exact same
    · exact ordered.old_children fun name => .inr (foreign name)
  case places =>
    intro id old other
    rw [ordered.kept.plain id old (by rintro ⟨name, same⟩; exact other name same),
      opening.asOf_start]
  case hosts =>
    intro name
    rw [ordered.kept.hosted _ (opening.inside name) ⟨name, rfl⟩, opening.asOf_start]
  case roots =>
    intro name root
    exact ⟨ordered.kept.root _ root ⟨name, rfl⟩, ordered.kept.made _ root ⟨name, rfl⟩⟩
  case idle =>
    intro idle handle
    simp only [ordered.mem_handles, fun name => ordered.mem_heldHandles_of_idle (idle name)]
  case vacated =>
    intro vacated
    have unmounted (name : Name) :
        (ensemble.executors name).phase? (ensemble.executors name).version = none := by
      have newest := calls name
      have unknown : (start.executors name).phase? (start.executors name).version = none := by
        rw [opening.new name]
        rfl
      rw [unknown] at newest
      have last := (vacated name).2
      cases called : Scene.lastCall (eventsOf name moments) with
      | none =>
          rw [called] at newest
          simpa [mountIsNewest] using newest
      | some call =>
          rw [called] at newest last
          cases call with
          | mount => exact absurd rfl last
          | unmount => simpa [mountIsNewest] using newest
    have nothing (name : Name) := ordered.nothing_held (vacated name).1 (unmounted name)
    have old (id : Nat) : ∀ child ∈ (ensemble.around.page.get id).children,
        child < start.around.page.nextId :=
      ordered.old_children fun name => .inl (nothing name).1
    refine ⟨?_, ?_, ?_⟩
    · rw [← ordered.others, eq_comm, List.filter_eq_self]
      intro entry listed
      rcases ordered.live entry.1 (List.mem_map_of_mem listed) with before | ⟨name, held⟩
      · exact List.contains_iff_mem.mpr before
      · rw [(nothing name).2] at held
        cases held
    · intro id inside
      have now := asOf_of_old (old id)
      refine ⟨?_, ?_⟩
      · by_cases host : ∃ name, id = (start.executors name).host
        · rw [← now, ordered.kept.hosted id inside host, opening.asOf_start]
        · rw [← now, ordered.kept.plain id inside host, opening.asOf_start]
      · intro other
        rw [← now, ordered.kept.plain id inside (by rintro ⟨name, same⟩; exact other name same),
          opening.asOf_start]
    · intro id node new named
      exact absurd (old id node named) (Nat.not_lt_of_le new)

/-- One mount comes through in a frame, while another is unmounted before its page is there. -/
theorem tidy_run_pair :
    let start : Ensemble Bool := {
      executors := fun second =>
        if second then { host := 2, settings := { isolation := .shadow } }
        else { host := 1, settings := {} }
      around := {
        page := ⟨#[{ tag := "body", children := [1, 2] }, { tag := "div", parent := some 0 },
          { tag := "div", parent := some 0 }]⟩
        registry := .ofBase defaultBase } }
    let bundle : Bundle := { moduleRef := "/lessons/a/module", integrity := Digest.integrity "" }
    let moments : List (Bool × Scene.Event) := [(false, .begin bundle), (true, .begin bundle),
      (false, .fetched 1 (.ok "")), (true, .fetched 1 (.ok "")), (false, .loaded 1 (.ok ())),
      (true, .unmount), (true, .loaded 1 (.ok ()))]
    start.Opening ∧ (start.run moments).around.registry.minted = 3 ∧
      start.around.registry.Fresh (start.run moments).around.registry.minted ∧
      Tidy start moments (start.run moments) := by
  intro start bundle moments
  have opening : start.Opening := {
    new := fun second => by cases second <;> rfl
    inside := fun second => by cases second <;> decide
    closed := by decide }
  have minted : (start.run moments).around.registry.minted = 3 := by decide +kernel
  have fresh : start.around.registry.Fresh (start.run moments).around.registry.minted := by
    rw [minted]
    exact Registry.fresh_of_none rfl (by decide)
  exact ⟨opening, minted, fresh, tidy_run opening moments fresh⟩

end Tidying

end Ensemble

end Lectern.Sandbox
