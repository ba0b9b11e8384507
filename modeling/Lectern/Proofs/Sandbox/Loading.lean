/-
Module: Lectern.Proofs.Sandbox.Loading
Purpose: A mount whose module is the one that its bundle means, and is safe, goes on to the page. Unless
  it is overtaken it fails only if what it hung into the page does not load.
Trusted boundary: none
Main exports: Scene.refusal?_eq_none, Scene.OnItsWay, Scene.OnItsWay.run, MountsUnrefused,
  mountsUnrefused_of_safe
-/
import Lectern.Proofs.Sandbox.Newest

namespace Lectern.Sandbox

/-- Only calls change which version is the newest. -/
theorem Executor.Move.version {executor after : Executor} (move : executor.Move none after) :
    after.version = executor.version := by
  cases move <;> simp

namespace Scene

variable {scene : Scene} {version : Nat} {bundle : Bundle} {moduleText : String}

/-- A safe module with the integrity value that is asked for is not refused. -/
theorem refusal?_eq_none (version : Nat) {integrity : String}
    (same : Digest.integrity moduleText = integrity) (safe : Safety.check moduleText = []) :
    refusal? version moduleText integrity = none := by
  unfold refusal?
  rw [if_neg (by simpa using same), safe]

/-- The module of the newest mount brings it to the page if nothing is wrong with it. -/
theorem fetched_goesOn (waits : scene.executor.phase? version = some (.fetching bundle))
    (newest : version = scene.executor.version)
    (unrefused : refusal? version moduleText bundle.integrity = none) :
    (scene.fetched version (.ok moduleText)).executor.phase? version = some .loading := by
  have begun : (scene.executor.phase? version).isSome := by rw [waits]; rfl
  unfold fetched
  rw [waits]
  dsimp only
  rw [if_pos (by simpa using newest), unrefused]
  dsimp only
  rw [Executor.setPhase_phase?, if_pos]
  exact ⟨rfl, begun⟩

/-- What the newest mount hung into the page has loaded: the mount has come through. -/
theorem loaded_comesThrough (waits : scene.executor.phase? version = some .loading)
    (newest : version = scene.executor.version) :
    (scene.loaded version (.ok ())).executor.phase? version = some (.finished true) := by
  have stays := Executor.letGoAny_phase?
    { scene.executor with session := some version } scene.executor.session version
  rw [show Executor.phase? { scene.executor with session := some version } version =
    some .loading from waits] at stays
  unfold loaded
  rw [waits]
  dsimp only
  rw [if_pos (by simpa using newest)]
  simp only [finish, Executor.setPhase_phase?, clearDiagnostic_executor, disposeAny_executor]
  have begun : Option.isSome (Executor.phase?
      ({ scene.executor with session := some version }.letGoAny scene.executor.session) version) := by
    rw [stays]
    rfl
  rw [if_pos]
  exact ⟨trivial, begun⟩

/-- A mount waits for its module or for the page, or has come through. -/
def Underway (bundle : Bundle) (phase : Option Phase) : Prop :=
  phase = some (.fetching bundle) ∨ phase = some .loading ∨ phase = some (.finished true)

/-- A mount is under way, or it was overtaken. -/
structure OnItsWay (version : Nat) (bundle : Bundle) (scene : Scene) : Prop where
  begun : version ≤ scene.executor.version
  newest : version = scene.executor.version → Underway bundle (scene.executor.phase? version)

/-- What an event says to a mount does not let it fail: its module comes and is not refused, and it
does not hear that the page has failed. -/
def Event.Favours (version : Nat) (bundle : Bundle) : Event → Prop
  | .fetched asked result => asked = version →
    ∃ moduleText, result = .ok moduleText ∧ refusal? version moduleText bundle.integrity = none
  | .loaded asked result => asked = version → result = .ok ()
  | _ => True

/-- An answer to another mount leaves the newest one where it is. -/
theorem phase?_of_other (event : Event) {other : Nat} (answers : event.mount? = some other)
    (apart : version ≠ other) (newest : version = scene.executor.version) :
    (scene.step event).executor.phase? version = scene.executor.phase? version := by
  rcases answer_late answers (newest ▸ Ne.symm apart) with same | same | same
  · rw [same]
  · rw [same, finish, Executor.setPhase_phase?, if_neg (fun both => apart both.1)]
  · rw [same, finish, Executor.setPhase_phase?, if_neg (fun both => apart both.1),
      dispose_executor, Executor.letGo_phase?]

private theorem underway_fetched (newest : version = scene.executor.version)
    (underway : Underway bundle (scene.executor.phase? version))
    (unrefused : refusal? version moduleText bundle.integrity = none) :
    Underway bundle ((scene.fetched version (.ok moduleText)).executor.phase? version) := by
  rcases underway with waits | phase | phase
  · exact Or.inr (Or.inl (fetched_goesOn waits newest unrefused))
  · unfold fetched
    rw [phase]
    exact Or.inr (Or.inl phase)
  · unfold fetched
    rw [phase]
    exact Or.inr (Or.inr phase)

private theorem underway_loaded (newest : version = scene.executor.version)
    (underway : Underway bundle (scene.executor.phase? version)) :
    Underway bundle ((scene.loaded version (.ok ())).executor.phase? version) := by
  rcases underway with phase | waits | phase
  · unfold loaded
    rw [phase]
    exact Or.inl phase
  · exact Or.inr (Or.inr (loaded_comesThrough waits newest))
  · unfold loaded
    rw [phase]
    exact Or.inr (Or.inr phase)

theorem phase?_teardown (scene : Scene) (version : Nat) :
    scene.teardown.executor.phase? version = scene.executor.phase? version := by
  unfold teardown
  cases scene.executor.teardowns with
  | nil => rfl
  | cons left later =>
      dsimp only
      rw [clearDiagnostic_executor, disposeAny_executor]
      exact Executor.takeDown_phase? scene.executor version left later

theorem phase?_report (scene : Scene) (version : Nat) (asked : Int) (message : String) :
    (scene.report asked message).executor.phase? version = scene.executor.phase? version := by
  unfold report
  split <;> rfl

theorem OnItsWay.step (way : OnItsWay version bundle scene) {event : Event}
    (favours : event.Favours version bundle) : OnItsWay version bundle (scene.step event) := by
  obtain ⟨begun, underway⟩ := way
  have stays (answer : event.call? = none) :
      (scene.step event).executor.version = scene.executor.version :=
    (answer ▸ scene.step_move event).version
  -- Whoever begins or leaves now overtakes the mount.
  have overtaken (later : (scene.step event).executor.version = scene.executor.version + 1) :
      OnItsWay version bundle (scene.step event) :=
    ⟨by omega, fun newest => by omega⟩
  -- Nothing else changes which mount is the newest.
  have keeps (answer : event.call? = none)
      (goes : version = scene.executor.version → Underway bundle (scene.executor.phase? version) →
        Underway bundle ((scene.step event).executor.phase? version)) :
      OnItsWay version bundle (scene.step event) := by
    refine ⟨stays answer ▸ begun, ?_⟩
    intro newest
    rw [stays answer] at newest
    exact goes newest (underway newest)
  cases event with
  | begin other => exact overtaken rfl
  | unmount => exact overtaken rfl
  | teardown => exact keeps rfl fun _ underway => (phase?_teardown scene version).symm ▸ underway
  | report asked message =>
      exact keeps rfl fun _ underway => (phase?_report scene version asked message).symm ▸ underway
  | fetched asked result =>
      refine keeps rfl fun newest underway => ?_
      by_cases own : asked = version
      · obtain ⟨moduleText, rfl, unrefused⟩ := favours own
        subst own
        exact underway_fetched newest underway unrefused
      · rw [phase?_of_other (.fetched asked result) rfl (Ne.symm own) newest]
        exact underway
  | loaded asked result =>
      refine keeps rfl fun newest underway => ?_
      by_cases own : asked = version
      · obtain rfl := favours own
        subst own
        exact underway_loaded newest underway
      · rw [phase?_of_other (.loaded asked result) rfl (Ne.symm own) newest]
        exact underway

theorem OnItsWay.run (way : OnItsWay version bundle scene) {events : List Event}
    (favours : ∀ event ∈ events, event.Favours version bundle) :
    OnItsWay version bundle (scene.run events) := by
  induction events generalizing scene with
  | nil => exact way
  | cons event rest inductionHypothesis =>
      obtain ⟨first, others⟩ := List.forall_mem_cons.mp favours
      exact inductionHypothesis (way.step first) others

/-- A mount that has just begun is on its way. -/
theorem onItsWay_begin (custody : scene.executor.Custody) (bundle : Bundle) :
    OnItsWay (scene.executor.version + 1) bundle (scene.begin bundle) where
  begun := Nat.le_refl _
  newest _ := by
    have added := Executor.addMount_phase? custody bundle (scene.executor.version + 1)
    rw [if_pos rfl] at added
    exact Or.inl added

/-- A scene that has come of an executor that had done nothing. -/
def Reached (scene : Scene) : Prop :=
  ∃ host settings around events, scene = run { executor := { host, settings }, around } events

theorem Reached.custody (reached : scene.Reached) : scene.executor.Custody := by
  obtain ⟨host, settings, around, events, rfl⟩ := reached
  exact custody_run (Executor.custody_fresh host settings) events

end Scene

/-! ## Mounts that are not refused -/

/-- Mounts of a bundle whose module comes as this text pass all checks and go on to the page. One that
ends without a session was overtaken, or its page has failed to load. -/
structure MountsUnrefused (bundle : Bundle) (moduleText : String) : Prop where
  unrefused : ∀ version, Scene.refusal? version moduleText bundle.integrity = none
  goesOn : ∀ (scene : Scene), scene.executor.phase? scene.executor.version = some (.fetching bundle) →
    (scene.fetched scene.executor.version (.ok moduleText)).executor.phase? scene.executor.version =
      some .loading
  fails : ∀ (scene : Scene) (events : List Scene.Event), scene.Reached →
    let version := scene.executor.version + 1
    let after := (scene.begin bundle).run events
    (∀ result, .fetched version result ∈ events → result = .ok moduleText) →
    after.executor.phase? version = some (.finished false) →
    version ≠ after.executor.version ∨ ∃ failure, .loaded version (.error failure) ∈ events

/-- A safe module that is the one that its bundle means is not refused. -/
theorem mountsUnrefused_of_safe {bundle : Bundle} {moduleText : String}
    (same : Digest.integrity moduleText = bundle.integrity)
    (safe : Safety.check moduleText = []) : MountsUnrefused bundle moduleText where
  unrefused version := Scene.refusal?_eq_none version same safe
  goesOn scene waits := Scene.fetched_goesOn waits rfl (Scene.refusal?_eq_none _ same safe)
  fails := by
    intro scene events reached version after comes ended
    by_contra neither
    obtain ⟨newest, spared⟩ := not_or.mp neither
    have favours : ∀ event ∈ events, event.Favours version bundle := by
      intro event member
      cases event with
      | fetched asked result =>
          rintro rfl
          exact ⟨moduleText, comes result member, Scene.refusal?_eq_none _ same safe⟩
      | loaded asked result =>
          rintro rfl
          cases result with
          | ok => rfl
          | error failure => exact absurd ⟨failure, member⟩ spared
      | _ => trivial
    have way := (Scene.onItsWay_begin reached.custody bundle).run favours
    rcases way.newest (not_not.mp newest) with phase | phase | phase
    all_goals
      rw [ended] at phase
      cases phase

end Lectern.Sandbox
