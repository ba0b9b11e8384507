/-
Module: Lectern.Proofs.Sandbox.Diagnostics
Purpose: How long the error of a failed mount can be seen. It goes when another newest mount ends and
  whenever something is taken down, be it what an unmount left that came before the mount.
Trusted boundary: none
Main exports: Scene.Shows, Scene.EndsNewest, Scene.TakesDown, Scene.Undisturbed,
  Scene.shows_run_iff, Scene.failure_shown_until
-/
import Lectern.Proofs.Sandbox.Loading

namespace Lectern.Sandbox.Scene

/-! ## Errors on the page -/

/-- An element shows an error in place of the lesson. It hangs once under the host or the shadow root of
that. -/
structure Shows (scene : Scene) (node : Nat) (message : String) : Prop where
  shown : scene.executor.diagnostic = some node
  content : Page.bare (scene.around.page.get node) = diagnosticElement message
  attached : ∃ place, scene.Place place ∧
    (scene.around.page.get node).parent = some place ∧
    (scene.around.page.get place).children.count node = 1

/-- Does the newest mount end with an event? It gives a session, or it fails. -/
def EndsNewest (scene : Scene) (event : Event) (mounted : Bool) : Prop :=
  scene.executor.phase? scene.executor.version ≠ some (.finished mounted) ∧
    (scene.step event).executor.phase? scene.executor.version = some (.finished mounted)

instance (scene : Scene) (event : Event) (mounted : Bool) :
    Decidable (scene.EndsNewest event mounted) :=
  inferInstanceAs (Decidable (_ ∧ _))

/-- Does an event take down what an unmount left? Then less is due behind it. -/
def TakesDown (scene : Scene) (event : Event) : Prop :=
  (scene.step event).executor.teardowns.length < scene.executor.teardowns.length

instance (scene : Scene) (event : Event) : Decidable (scene.TakesDown event) :=
  inferInstanceAs (Decidable (_ < _))

/-- In a history no newest mount ends, and nothing is taken down but what so many unmounts left that
came before it: they are the oldest, and their turn is first. -/
def Undisturbed : Nat → Scene → List Event → Prop
  | _, _, [] => True
  | owed, scene, event :: rest =>
    (∀ mounted, ¬ scene.EndsNewest event mounted) ∧
      if scene.TakesDown event then 0 < owed ∧ Undisturbed (owed - 1) (scene.step event) rest
      else Undisturbed owed (scene.step event) rest

instance Undisturbed.decidable : ∀ (owed : Nat) (scene : Scene) (events : List Event),
    Decidable (Undisturbed owed scene events)
  | _, _, [] => .isTrue trivial
  | owed, scene, event :: rest =>
    have := Undisturbed.decidable (owed - 1) (scene.step event) rest
    have := Undisturbed.decidable owed (scene.step event) rest
    inferInstanceAs (Decidable (_ ∧ ite _ _ _))

variable {first : Nat} {scene : Scene} {event : Event} {node : Nat} {message : String}

/-- What is shown hangs in its place. -/
theorem Neat.shows (neat : scene.Neat first) (shown : scene.executor.diagnostic = some node)
    (content : Page.bare (scene.around.page.get node) = diagnosticElement message) :
    scene.Shows node message where
  shown := shown
  content := content
  attached := by
    obtain ⟨place, here, hangs⟩ := neat.hung node (Executor.mem_held.mpr (.inl shown))
    have bounds := neat.within node (Executor.mem_nodes.mpr (.inl shown))
    have once := neat.linked.named place node bounds.1
    rw [if_pos hangs] at once
    exact ⟨place, here, hangs, once⟩

/-! ## Mounts that fail -/

/-- An error that is shown gets an element of its own. -/
theorem showDiagnostic_shown (scene : Scene) (message : String) :
    Page.bare ((scene.showDiagnostic message).around.page.get
      scene.clearDiagnostic.around.page.nextId) = diagnosticElement message := by
  unfold showDiagnostic
  dsimp only
  rw [Page.bare_append, Page.get_create, if_pos rfl]
  rfl

/-- The error of the newest mount takes the place of the lesson, in an element that is new. -/
theorem contain_shown (neat : scene.Neat first) (error : MountError) :
    let contained := scene.contain scene.executor.version error
    ∃ node, scene.around.page.nextId ≤ node ∧
      contained.executor = scene.executor.giveWay error node ∧
      Page.bare (contained.around.page.get node) = diagnosticElement error.message := by
  let booked : Scene :=
    { scene with executor := { scene.executor with lastError := some error, session := none } }
  let rid := booked.disposeAny scene.executor.session
  have chores : Chores scene rid.clearDiagnostic := by
    have books : Chore scene booked := .books scene rfl rfl rfl rfl rfl
    exact .head books ((chores_disposeAny booked scene.executor.session).tail (.clear rid))
  have contained : scene.contain scene.executor.version error =
      rid.showDiagnostic error.message := by
    unfold contain
    rw [if_pos (beq_self_eq_true _)]
  refine ⟨rid.clearDiagnostic.around.page.nextId, (chores.upkeep neat).2.kept.grown, ?_, ?_⟩
  · rw [contained, showDiagnostic_executor, disposeAny_executor]
    rfl
  · rw [contained]
    exact rid.showDiagnostic_shown error.message

/-- The newest mount fails at the answer it waited for. -/
private theorem fetched_fails {bundle : Bundle} {result : Except Failure String}
    (waits : scene.executor.phase? scene.executor.version = some (.fetching bundle))
    (ended : (scene.fetched scene.executor.version result).executor.phase?
      scene.executor.version = some (.finished false)) :
    ∃ failure, scene.fetched scene.executor.version result =
      scene.fail scene.executor.version failure := by
  cases result with
  | error failure =>
      refine ⟨failure, ?_⟩
      unfold fetched
      rw [waits]
  | ok moduleText =>
      cases refused : refusal? scene.executor.version moduleText bundle.integrity with
      | none =>
          rw [fetched_goesOn waits rfl refused] at ended
          cases ended
      | some failure =>
          refine ⟨failure, ?_⟩
          unfold fetched
          rw [waits]
          dsimp only
          rw [if_pos (beq_self_eq_true _), refused]

private theorem loaded_fails {result : Except Failure Unit}
    (waits : scene.executor.phase? scene.executor.version = some .loading)
    (ended : (scene.loaded scene.executor.version result).executor.phase?
      scene.executor.version = some (.finished false)) :
    ∃ failure, scene.loaded scene.executor.version result =
      (scene.dispose scene.executor.version).fail scene.executor.version failure := by
  cases result with
  | error failure =>
      refine ⟨failure, ?_⟩
      unfold loaded
      rw [waits]
  | ok =>
      rw [loaded_comesThrough waits rfl] at ended
      cases ended

/-- The newest mount fails once it has let go of what it held. -/
theorem EndsNewest.fails (ends : scene.EndsNewest event false) (custody : scene.executor.Custody) :
    ∃ start failure, Chores scene start ∧
      scene.step event = start.fail start.executor.version failure := by
  have moved (stays : (scene.step event).executor.phase? scene.executor.version =
      scene.executor.phase? scene.executor.version) : False :=
    ends.1 (stays.symm.trans ends.2)
  cases event with
  | begin bundle =>
      have begun := Executor.addMount_phase? custody bundle scene.executor.version
      rw [if_neg (by omega)] at begun
      exact (moved begun).elim
  | unmount => exact (moved rfl).elim
  | teardown => exact (moved (phase?_teardown scene _)).elim
  | report version message => exact (moved (phase?_report scene _ version message)).elim
  | fetched asked result =>
      by_cases newest : asked = scene.executor.version
      · subst newest
        rcases phase : scene.executor.phase? scene.executor.version with
          _ | (bundle | _ | mounted)
        case some.fetching =>
          obtain ⟨failure, failed⟩ := fetched_fails phase ends.2
          exact ⟨scene, failure, .refl, failed⟩
        all_goals
          refine (moved ?_).elim
          unfold step fetched
          simp only [phase]
      · exact (moved (phase?_of_other (.fetched asked result) rfl (Ne.symm newest) rfl)).elim
  | loaded asked result =>
      by_cases newest : asked = scene.executor.version
      · subst newest
        rcases phase : scene.executor.phase? scene.executor.version with
          _ | (bundle | _ | mounted)
        case some.loading =>
          obtain ⟨failure, failed⟩ := loaded_fails phase ends.2
          have same : (scene.dispose scene.executor.version).executor.version =
              scene.executor.version := by
            rw [dispose_executor, Executor.letGo_version]
          refine ⟨scene.dispose scene.executor.version, failure, .single (.dispose _ _), ?_⟩
          rw [same]
          exact failed
        all_goals
          refine (moved ?_).elim
          unfold step loaded
          simp only [phase]
      · exact (moved (phase?_of_other (.loaded asked result) rfl (Ne.symm newest) rfl)).elim

/-- What failed is shown, and the error is kept. -/
theorem EndsNewest.shows (ends : scene.EndsNewest event false) (custody : scene.executor.Custody)
    (neat : scene.Neat first) :
    ∃ node error, scene.around.page.nextId ≤ node ∧
      (scene.step event).executor.lastError = some error ∧
      (scene.step event).Shows node error.message := by
  obtain ⟨start, failure, chores, failed⟩ := ends.fails custody
  have ⟨kempt, minds⟩ := chores.upkeep neat
  have after := (step_upkeep custody event neat).1
  have ⟨node, new, gave, content⟩ :=
    contain_shown kempt (mountError start.executor.version failure)
  rw [failed] at after ⊢
  unfold fail finish at after ⊢
  refine ⟨node, _, Nat.le_trans minds.kept.grown new, ?_, after.shows ?_ content⟩
  · rw [Executor.setPhase_lastError, gave, Executor.giveWay_lastError]
  · rw [Executor.setPhase_diagnostic, gave, Executor.giveWay_diagnostic]

/-! ## What becomes of an error -/

/-- If no newest mount ends and nothing is taken down, the same error is shown as before. -/
theorem diagnostic_step (goesOn : ∀ mounted, ¬ scene.EndsNewest event mounted)
    (stays : ¬ scene.TakesDown event) :
    (scene.step event).executor.diagnostic = scene.executor.diagnostic := by
  have move := scene.step_move event
  unfold EndsNewest TakesDown at *
  generalize (scene.step event).executor = after at *
  generalize event.call? = call at move
  cases move with
  | refused error node waits => exact absurd ⟨by simp [waits], by simp [waits]⟩ (goesOn false)
  | crashes error node waits => exact absurd ⟨by simp [waits], by simp [waits]⟩ (goesOn false)
  | arrives waits => exact absurd ⟨by simp [waits], by simp [waits]⟩ (goesOn true)
  | takesDown due => exact absurd (by simp [due]) stays
  | abandoned waits late => simp
  | _ => rfl

/-- A mount that comes through takes away the error that is shown. -/
theorem EndsNewest.clears (ends : scene.EndsNewest event true) (custody : scene.executor.Custody) :
    (scene.step event).executor.diagnostic = none := by
  have move := scene.step_move event
  unfold EndsNewest at ends
  generalize (scene.step event).executor = after at *
  generalize event.call? = call at move
  cases move with
  | arrives waits => rfl
  | begins bundle =>
      rw [Executor.addMount_phase? custody, if_neg (by omega)] at ends
      exact absurd ends.2 ends.1
  | idle => exact absurd ends.2 ends.1
  | reports error => exact absurd ends.2 ends.1
  | unmounts => exact absurd ends.2 ends.1
  | _ =>
      -- The other moves end no newest mount, or end it without a session.
      simp only [Executor.setPhase_phase?, Executor.letGo_phase?, Executor.giveWay_phase?,
        Executor.takeIn_phase?, Executor.takeDown_phase?] at ends
      grind

/-- Whatever is taken down, the error that is shown goes with it. -/
theorem TakesDown.clears (takesDown : scene.TakesDown event) :
    (scene.step event).executor.diagnostic = none := by
  have move := scene.step_move event
  unfold TakesDown at takesDown
  generalize (scene.step event).executor = after at *
  generalize event.call? = call at move
  cases move with
  | takesDown due => rfl
  | unmounts =>
      rw [Executor.leave_teardowns, List.length_append] at takesDown
      omega
  | _ => simp [Executor.addMount, Executor.takeIn] at takesDown

theorem Shows.bounds (shows : scene.Shows node message) (neat : scene.Neat first) :
    first ≤ node ∧ node < scene.around.page.nextId :=
  neat.within node (Executor.mem_nodes.mpr (.inl shows.shown))

/-- An error that is shown has the same contents behind each event. -/
theorem Shows.content_step (shows : scene.Shows node message) (custody : scene.executor.Custody)
    (neat : scene.Neat first) (event : Event) :
    Page.bare ((scene.step event).around.page.get node) = diagnosticElement message := by
  have ⟨new, inside⟩ := shows.bounds neat
  rw [(step_upkeep custody event neat).2.kept.later node new inside]
  exact shows.content

/-- What shows an error is not shown any more once a newest mount ends, or something is taken down. -/
theorem Shows.displaced (shows : scene.Shows node message) (custody : scene.executor.Custody)
    (neat : scene.Neat first)
    (displaced : (∃ mounted, scene.EndsNewest event mounted) ∨ scene.TakesDown event) :
    (scene.step event).executor.diagnostic ≠ some node := by
  have inside := (shows.bounds neat).2
  rcases displaced with ⟨_ | _, ends⟩ | takesDown
  · obtain ⟨other, error, new, -, shown⟩ := ends.shows custody neat
    rw [shown.shown]
    rintro ⟨⟩
    omega
  · rw [ends.clears custody]
    simp
  · rw [takesDown.clears]
    simp

/-- What shows no error any more hangs nowhere, and stays so. -/
theorem Shows.gone (shows : scene.Shows node message) (custody : scene.executor.Custody)
    (neat : scene.Neat first) (dropped : (scene.step event).executor.diagnostic ≠ some node)
    (rest : List Event) :
    (((scene.step event).run rest).around.page.get node).parent = none := by
  have ⟨after, minds⟩ := step_upkeep custody event neat
  have content := shows.content_step custody neat event
  -- It is no lesson's either: lessons have no element that shows an error.
  have foreign : node ∉ (scene.step event).executor.nodes := by
    intro own
    rcases Executor.mem_nodes.mp own with shown | ⟨session, member, mine⟩
    · exact dropped shown
    · have lesson := after.lessons session member node mine
      rw [content] at lesson
      simp [OfLesson, isDiagnostic, Element.attribute?, diagnosticElement] at lesson
  have parent := minds.dropped node (.inl (Executor.mem_nodes.mpr (.inl shows.shown))) foreign
  have inside := Nat.lt_of_lt_of_le (shows.bounds neat).2 minds.kept.grown
  have later := (upkeep_run ((scene.step_move event).custody custody) rest after).2
  rw [later.others node inside foreign]
  exact parent

/-- An error stays on the page exactly as long as no newest mount ends and nothing is taken down, and
behind that it hangs nowhere. -/
theorem shows_run_iff (custody : scene.executor.Custody) (neat : scene.Neat first)
    (shows : scene.Shows node message) (later : List Event) :
    ((scene.run later).Shows node message ↔ Undisturbed 0 scene later) ∧
      (¬ Undisturbed 0 scene later →
        ((scene.run later).around.page.get node).parent = none) := by
  induction later generalizing scene with
  | nil => exact ⟨iff_of_true shows trivial, fun disturbed => absurd trivial disturbed⟩
  | cons event rest inductionHypothesis =>
      have moved := (scene.step_move event).custody custody
      have kempt := (step_upkeep custody event neat).1
      have content := shows.content_step custody neat event
      by_cases calm : (∀ mounted, ¬ scene.EndsNewest event mounted) ∧ ¬ scene.TakesDown event
      · have shown := (diagnostic_step calm.1 calm.2).trans shows.shown
        have same : Undisturbed 0 scene (event :: rest) ↔ Undisturbed 0 (scene.step event) rest := by
          simp [Undisturbed, calm]
        rw [same]
        exact inductionHypothesis moved kempt (kempt.shows shown content)
      · have displaced : (∃ mounted, scene.EndsNewest event mounted) ∨ scene.TakesDown event := by
          by_contra neither
          simp only [not_or, not_exists] at neither
          exact calm neither
        have disturbed : ¬ Undisturbed 0 scene (event :: rest) := by
          rintro ⟨goesOn, stays⟩
          refine calm ⟨goesOn, fun takesDown => ?_⟩
          rw [if_pos takesDown] at stays
          exact Nat.lt_irrefl 0 stays.1
        have gone := shows.gone custody neat (shows.displaced custody neat displaced) rest
        refine ⟨iff_of_false ?_ disturbed, fun _ => gone⟩
        intro still
        obtain ⟨place, -, hangs, -⟩ := still.attached
        cases gone.symm.trans hangs

/-- When a newest mount fails, its error is kept and shown once, under the host or the shadow root of
that. It stays there exactly until a newest mount ends, or something is taken down: what an unmount left
that came behind the mount, but just as well what one left that came before. -/
theorem failure_shown_until {page : Page} (closed : page.Closed) {host : Nat}
    (inside : host < page.nextId) (settings : SandboxSettings) (registry : Registry)
    (earlier : List Event) (event : Event)
    (fails : (run { executor := { host, settings }, around := { page, registry } }
      earlier).EndsNewest event false) :
    let scene := run { executor := { host, settings }, around := { page, registry } } earlier
    let failed := scene.step event
    ∃ node error, failed.executor.lastError = some error ∧ failed.Shows node error.message ∧
      ∀ later, ((failed.run later).Shows node error.message ↔ Undisturbed 0 failed later) ∧
        (¬ Undisturbed 0 failed later →
          ((failed.run later).around.page.get node).parent = none) := by
  intro scene failed
  have fresh := Executor.custody_fresh host settings
  have opening := neat_fresh closed inside settings registry
  have custody : scene.executor.Custody := custody_run fresh earlier
  have neat : scene.Neat page.nextId := neat_run fresh opening earlier
  obtain ⟨node, error, -, kept, shows⟩ := EndsNewest.shows fails custody neat
  refine ⟨node, error, kept, shows, ?_⟩
  intro later
  exact shows_run_iff ((scene.step_move event).custody custody)
    (step_upkeep custody event neat).1 shows later

/-- The module of the first mount does not come. -/
theorem failure_shown_until_offline :
    let page : Page :=
      ⟨#[{ tag := "body", children := [1] }, { tag := "div", parent := some 0 }]⟩
    let start : Scene :=
      { executor := { host := 1, settings := {} }
        around := { page, registry := .ofBase defaultBase } }
    let bundle : Bundle := { moduleRef := "/lessons/a/module", integrity := "" }
    let event : Event := .fetched 1 (.error (.general "offline"))
    let failed := (start.run [.begin bundle]).step event
    page.Closed ∧ 1 < page.nextId ∧ (start.run [.begin bundle]).EndsNewest event false ∧
      ∃ node error, failed.executor.lastError = some error ∧ failed.Shows node error.message ∧
        ∀ later, ((failed.run later).Shows node error.message ↔ Undisturbed 0 failed later) ∧
          (¬ Undisturbed 0 failed later →
            ((failed.run later).around.page.get node).parent = none) := by
  intro page start bundle event failed
  have closed : page.Closed := by decide
  have inside : 1 < page.nextId := by decide
  have fails : (start.run [.begin bundle]).EndsNewest event false := by decide
  exact ⟨closed, inside, fails, failure_shown_until closed inside {} (.ofBase defaultBase)
    [.begin bundle] event fails⟩

/-- What an unmount left is taken down behind the failure of the mount that came next, and takes the
error of that mount with it. -/
theorem failure_taken_down :
    ¬ ∀ (page : Page) (host : Nat) (settings : SandboxSettings) (registry : Registry)
      (earlier : List Event) (event : Event) (later : List Event) (node : Nat), page.Closed →
      host < page.nextId →
      let scene := run { executor := { host, settings }, around := { page, registry } } earlier
      let failed := scene.step event
      scene.EndsNewest event false → failed.executor.diagnostic = some node →
      Undisturbed failed.executor.teardowns.length failed later →
        ((failed.run later).around.page.get node).parent.isSome := by
  intro always
  let page : Page :=
    ⟨#[{ tag := "body", children := [1] }, { tag := "div", parent := some 0 }]⟩
  let bundle : Bundle := { moduleRef := "/lessons/a/module", integrity := "" }
  have stays := always page 1 {} (.ofBase defaultBase) [.unmount, .begin bundle]
    (.fetched 2 (.error (.general "offline"))) [.teardown] 2 (by decide) (by decide)
    (by decide) (by decide) (by decide)
  exact absurd stays (by decide)

end Lectern.Sandbox.Scene
