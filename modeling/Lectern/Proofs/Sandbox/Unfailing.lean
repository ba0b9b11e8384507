/-
Module: Lectern.Proofs.Sandbox.Unfailing
Purpose: To take an element down is to take it from the list of its parent, which fails where that
  does not name it. No event of an executor ever fails so.
Trusted boundary: none
Main exports: Page.detach?, Scene.step?, Scene.step?_eq
-/
import Lectern.Proofs.Sandbox.Upkeep

namespace Lectern

/-- Take an element from its parent, if it has one. This fails if the parent does not name it. -/
def Page.detach? (page : Page) (id : Nat) : Option Page :=
  match (page.get id).parent with
  | none => some page
  | some parent =>
    if (page.get parent).children.contains id then some (page.detach id) else none

namespace Sandbox

/-- Take the elements of a session from the page and revoke its handles, or fail. -/
def Session.release? {Task : Type} (session : Session Task) (around : Surroundings) :
    Option Surroundings := do
  let page ← session.nodes.reverse.foldlM Page.detach? around.page
  return { page, registry := session.handles.foldl Registry.revoke around.registry }

/-- Let go of all that a session holds, or fail. -/
def Session.dispose? {Task : Type} (session : Session Task) (around : Surroundings) :
    Option (Session Task × Surroundings × List Task) := do
  if session.disposed then return (session, around, [])
  else return ({ session with disposed := true }, ← session.release? around, session.afterwards)

namespace Scene

/-! ## Events that may fail -/

/-- Let go of what a mount holds, or fail. -/
def dispose? (scene : Scene) (version : Nat) : Option Scene :=
  match scene.executor.session? version with
  | none => some scene
  | some session => do
    let (session, around, tasks) ← session.dispose? scene.around
    return tasks.foldl (fun scene marker => scene.unmark marker.version)
      { executor := scene.executor.putSession session, around }

/-- Let go of what a mount holds, if there is one, or fail. -/
def disposeAny? (scene : Scene) : Option Nat → Option Scene
  | some version => scene.dispose? version
  | none => some scene

/-- Take the diagnostic from the page, or fail. -/
def clearDiagnostic? (scene : Scene) : Option Scene :=
  match scene.executor.diagnostic with
  | none => some scene
  | some node => do
    let page ← scene.around.page.detach? node
    return {
      executor := { scene.executor with diagnostic := none }
      around := { scene.around with page } }

/-- Show an error in place of the lesson, or fail. What is hung up is new, so it need not be taken
from anywhere first. -/
def showDiagnostic? (scene : Scene) (message : String) : Option Scene := do
  let scene ← scene.clearDiagnostic?
  let host := scene.executor.host
  let target := ((scene.around.page.get host).shadowRoot).getD host
  let (page, node) := scene.around.page.create (diagnosticElement message)
  return {
    executor := { scene.executor with diagnostic := some node }
    around := { scene.around with page := page.append target node } }

/-- A mount has failed, and what is shown gives way to its error; or this fails, too. -/
def contain? (scene : Scene) (version : Nat) (error : MountError) : Option Scene :=
  if version == scene.executor.version then do
    let session := scene.executor.session
    let executor := { scene.executor with lastError := some error, session := none }
    let scene ← { scene with executor }.disposeAny? session
    scene.showDiagnostic? error.message
  else some scene

/-- A mount fails, and so may the handling of that. -/
def fail? (scene : Scene) (version : Nat) (failure : Failure) : Option Scene := do
  let scene ← scene.contain? version (mountError version failure)
  return scene.finish version false

/-- The module of a mount is there, or is not; or this fails. -/
def fetched? (scene : Scene) (version : Nat) (result : Except Failure String) : Option Scene :=
  match scene.executor.phase? version with
  | some (.fetching bundle) =>
    match result with
    | .error failure => scene.fail? version failure
    | .ok moduleText =>
      if version == scene.executor.version then
        match refusal? version moduleText bundle.integrity with
        | some failure => scene.fail? version failure
        | none =>
          let executor := scene.executor
          let (session, around) := acquire executor.settings executor.host
            ⟨moduleText, bundle.styleText⟩ version scene.around
          let sessions := executor.sessions ++ [session]
          let marked := executor.marked ++ session.afterwards.map (·.version)
          some { executor := { executor with sessions, marked }.setPhase version .loading, around }
      else some (scene.finish version false)
  | _ => some scene

/-- What a mount hung into the page has loaded, or has not; or this fails. -/
def loaded? (scene : Scene) (version : Nat) (result : Except Failure Unit) : Option Scene :=
  match scene.executor.phase? version with
  | some .loading =>
    match result with
    | .error failure => do
      let scene ← scene.dispose? version
      scene.fail? version failure
    | .ok () =>
      if version == scene.executor.version then do
        let previous := scene.executor.session
        let executor := { scene.executor with session := some version }
        let scene ← { scene with executor }.disposeAny? previous
        let scene ← scene.clearDiagnostic?
        return { scene with executor := { scene.executor with lastError := none } }.finish version true
      else do
        let scene ← scene.dispose? version
        return scene.finish version false
  | _ => some scene

/-- Take down what the oldest unmount left, or fail. -/
def teardown? (scene : Scene) : Option Scene :=
  match scene.executor.teardowns with
  | [] => some scene
  | session :: rest => do
    let scene ← { scene with executor := { scene.executor with teardowns := rest } }.disposeAny?
      session
    scene.clearDiagnostic?

/-- What an event does, or that it fails. -/
def step? (scene : Scene) : Event → Option Scene
  | .fetched version result => scene.fetched? version result
  | .loaded version result => scene.loaded? version result
  | .teardown => scene.teardown?
  | event => some (scene.step event)

end Scene

end Sandbox

/-! ## No event fails -/

private theorem bind_of_eq {α β : Type} {first : Option α} {result : α}
    (succeeds : first = some result) (next : α → Option β) : (first >>= next) = next result := by
  rw [succeeds]
  rfl

/-- An element that its parent names can be taken down. -/
theorem Page.Linked.detach? {first : Nat} {page : Page} (linked : page.Linked first) {id : Nat}
    (new : first ≤ id) : page.detach? id = some (page.detach id) := by
  unfold Page.detach?
  cases hangs : (page.get id).parent with
  | none =>
      dsimp only
      unfold Page.detach
      rw [hangs]
  | some parent =>
      have named : id ∈ (page.get parent).children := (linked.mem_children new).mpr hangs
      dsimp only
      rw [if_pos (List.contains_iff_mem.mpr named)]

namespace Sandbox

theorem takenDown? {first : Nat} {page : Page} (linked : page.Linked first) (nodes : List Nat)
    (new : ∀ node ∈ nodes, first ≤ node) :
    nodes.foldlM Page.detach? page = some (nodes.foldl Page.detach page) := by
  induction nodes generalizing page with
  | nil => rfl
  | cons node rest inductionHypothesis =>
      rw [List.forall_mem_cons] at new
      rw [List.foldlM_cons, linked.detach? new.1]
      exact inductionHypothesis (linked.detach node) new.2

namespace Scene

variable {first : Nat} {scene : Scene}

theorem dispose?_eq (neat : scene.Neat first) (version : Nat) :
    scene.dispose? version = some (scene.dispose version) := by
  unfold dispose? dispose
  cases found : scene.executor.session? version with
  | none => rfl
  | some session =>
      obtain ⟨member, -⟩ := Executor.session?_mem found
      have new : ∀ node ∈ session.nodes.reverse, first ≤ node := by
        intro node listed
        have own := Executor.mem_nodes.mpr (.inr ⟨session, member, List.mem_reverse.mp listed⟩)
        exact (neat.within node own).1
      dsimp only
      unfold Session.dispose? Session.dispose
      cases gone : session.disposed with
      | true => rfl
      | false =>
          unfold Session.release?
          rw [takenDown? neat.linked _ new]
          rfl

theorem disposeAny?_eq (neat : scene.Neat first) (version : Option Nat) :
    scene.disposeAny? version = some (scene.disposeAny version) := by
  cases version with
  | none => rfl
  | some version => exact dispose?_eq neat version

theorem clearDiagnostic?_eq (neat : scene.Neat first) :
    scene.clearDiagnostic? = some scene.clearDiagnostic := by
  unfold clearDiagnostic? clearDiagnostic
  cases shown : scene.executor.diagnostic with
  | none => rfl
  | some node =>
      have own := Executor.mem_nodes.mpr (.inl shown)
      dsimp only
      rw [neat.linked.detach? (neat.within node own).1]
      rfl

theorem showDiagnostic?_eq (neat : scene.Neat first) (message : String) :
    scene.showDiagnostic? message = some (scene.showDiagnostic message) :=
  bind_of_eq (clearDiagnostic?_eq neat) _

/-- Chores leave the page in order. -/
theorem Chores.neat {after : Scene} (chores : Chores scene after) (neat : scene.Neat first) :
    after.Neat first :=
  (chores.upkeep neat).1

theorem Neat.books (neat : scene.Neat first) {executor : Executor}
    (host : executor.host = scene.executor.host)
    (settings : executor.settings = scene.executor.settings)
    (marked : executor.marked = scene.executor.marked)
    (sessions : executor.sessions = scene.executor.sessions)
    (diagnostic : executor.diagnostic = scene.executor.diagnostic) :
    ({ scene with executor } : Scene).Neat first :=
  Chores.neat (.single (.books scene host settings marked sessions diagnostic)) neat

theorem contain?_eq (neat : scene.Neat first) (version : Nat) (error : MountError) :
    scene.contain? version error = some (scene.contain version error) := by
  unfold contain? contain
  split
  · have booked : Neat first
        { scene with executor := { scene.executor with lastError := some error, session := none } } :=
      neat.books rfl rfl rfl rfl rfl
    exact (bind_of_eq (disposeAny?_eq booked scene.executor.session) _).trans
      (showDiagnostic?_eq (Chores.neat (chores_disposeAny _ _) booked) error.message)
  · rfl

theorem fail?_eq (neat : scene.Neat first) (version : Nat) (failure : Failure) :
    scene.fail? version failure = some (scene.fail version failure) :=
  bind_of_eq (contain?_eq neat version _) _

theorem fetched?_eq (neat : scene.Neat first) (version : Nat) (result : Except Failure String) :
    scene.fetched? version result = some (scene.fetched version result) := by
  unfold fetched? fetched
  rcases phase : scene.executor.phase? version with _ | (bundle | _ | mounted)
  case some.fetching =>
    cases result with
    | error failure => exact fail?_eq neat version failure
    | ok moduleText =>
        dsimp only
        split
        · cases refusal? version moduleText bundle.integrity with
          | some failure => exact fail?_eq neat version failure
          | none => rfl
        · rfl
  all_goals rfl

theorem loaded?_eq (neat : scene.Neat first) (version : Nat) (result : Except Failure Unit) :
    scene.loaded? version result = some (scene.loaded version result) := by
  unfold loaded? loaded
  have disposed : (scene.dispose version).Neat first :=
    Chores.neat (.single (.dispose scene version)) neat
  rcases phase : scene.executor.phase? version with _ | (bundle | _ | mounted)
  case some.loading =>
    cases result with
    | error failure =>
        exact (bind_of_eq (dispose?_eq neat version) _).trans (fail?_eq disposed version failure)
    | ok =>
        dsimp only
        split
        · have booked : Neat first
              { scene with executor := { scene.executor with session := some version } } :=
            neat.books rfl rfl rfl rfl rfl
          have replaced := Chores.neat (chores_disposeAny _ scene.executor.session) booked
          exact (bind_of_eq (disposeAny?_eq booked scene.executor.session) _).trans
            (bind_of_eq (clearDiagnostic?_eq replaced) _)
        · exact bind_of_eq (dispose?_eq neat version) _
  all_goals rfl

theorem teardown?_eq (neat : scene.Neat first) :
    scene.teardown? = some scene.teardown := by
  unfold teardown? teardown
  cases scene.executor.teardowns with
  | nil => rfl
  | cons version rest =>
      have booked : Neat first
          { scene with executor := { scene.executor with teardowns := rest } } :=
        neat.books rfl rfl rfl rfl rfl
      exact (bind_of_eq (disposeAny?_eq booked version) _).trans
        (clearDiagnostic?_eq (Chores.neat (chores_disposeAny _ _) booked))

/-- No event fails where the page is in order. -/
theorem step?_eq (neat : scene.Neat first) (event : Event) :
    scene.step? event = some (scene.step event) := by
  cases event with
  | fetched version result => exact fetched?_eq neat version result
  | loaded version result => exact loaded?_eq neat version result
  | teardown => exact teardown?_eq neat
  | _ => rfl

end Scene

end Sandbox

end Lectern
