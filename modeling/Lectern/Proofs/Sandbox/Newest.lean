/-
Module: Lectern.Proofs.Sandbox.Newest
Purpose: Whatever mounts and unmounts overlap on a host, none of them fails, only the newest mount
  counts, and what is shown in the end is what the last call asked for.
Trusted boundary: none
Main exports: Scene.Reliable, Scene.reliable_run
-/
import Lectern.Proofs.Sandbox.Unfailing

namespace Lectern.Sandbox

/-! ## The last call -/

/-- Is the newest version one of a mount? A call decides that, and nothing else changes it. -/
def mountIsNewest (call : Option Call) (before : Bool) : Bool :=
  match call with
  | some .mount => true
  | some .unmount => false
  | none => before

namespace Scene

theorem lastCall_cons (event : Event) (events : List Event) :
    lastCall (event :: events) = (lastCall events).or event.call? := by
  unfold lastCall
  rw [List.filterMap_cons]
  cases event.call? with
  | none => simp
  | some call =>
      rw [List.getLast?_cons]
      cases (events.filterMap Event.call?).getLast? <;> simp

end Scene

namespace Executor

variable {executor after : Executor} {call : Option Call}

theorem Move.newest_begun (move : executor.Move call after) (custody : executor.Custody) :
    (after.phase? after.version).isSome =
      mountIsNewest call (executor.phase? executor.version).isSome := by
  have unknown := custody.next_unknown
  cases move with
  | idle => rfl
  | begins bundle => simp [addMount_phase? custody, mountIsNewest]
  | unwanted waits late => simp [late.symm, mountIsNewest]
  | refused error node waits => simp [waits, mountIsNewest]
  | acquires session marked waits own fresh => simp [waits, mountIsNewest]
  | abandoned waits late => simp [late.symm, mountIsNewest]
  | crashes error node waits => simp [waits, mountIsNewest]
  | arrives waits => simp [waits, mountIsNewest]
  | unmounts => simp [unknown, mountIsNewest]
  | takesDown due => simp [mountIsNewest]
  | reports error => rfl

/-- What is current was not let go. -/
theorem Custody.current (custody : executor.Custody) {version : Nat}
    (shown : executor.session = some version) :
    ∃ session, executor.current? = some session ∧ session.version = version ∧
      session.disposed = false := by
  have kept := (custody.kept version).mpr (.inl shown)
  obtain ⟨session, member, undisposed, rfl⟩ := mem_kept.mp kept
  refine ⟨session, ?_, rfl, undisposed⟩
  rw [current?, shown]
  exact session?_of_mem custody.made member

/-- A mount that ends with a session is the newest, and its session is the one that is shown. -/
theorem Move.shown_of_mounted (move : executor.Move call after) (custody : executor.Custody)
    {version : Nat} (before : executor.phase? version ≠ some (.finished true))
    (ended : after.phase? version = some (.finished true)) :
    version = executor.version ∧ after.session = some version := by
  cases move with
  | arrives waits =>
      simp only [setPhase_phase?, takePlace_phase?] at ended
      by_cases newest : version = executor.version
      · rw [setPhase_session, takePlace_session, newest]
        exact ⟨rfl, rfl⟩
      · rw [if_neg (fun both => newest both.1)] at ended
        exact absurd ended before
  | begins bundle =>
      rw [addMount_phase? custody] at ended
      split at ended
      · cases ended
      · exact absurd ended before
  | idle => exact absurd ended before
  | reports error => exact absurd ended before
  | _ =>
      -- The other moves end no mount, or end one without a session.
      simp only [setPhase_phase?, letGo_phase?, giveWay_phase?, takeIn_phase?, leave_phase?,
        takeDown_phase?] at ended
      grind

end Executor

namespace Scene

/-! ## Answers -/

/-- The mount that an answer is meant for. -/
def Event.mount? : Event → Option Nat
  | .fetched version _ => some version
  | .loaded version _ => some version
  | _ => none

/-- An answer to a mount that is not the newest ends that mount, and lets go of what it held. -/
theorem answer_late {scene : Scene} {event : Event} {version : Nat}
    (answers : event.mount? = some version) (late : version ≠ scene.executor.version) :
    scene.step event = scene ∨ scene.step event = scene.finish version false ∨
      scene.step event = (scene.dispose version).finish version false := by
  cases event with
  | fetched asked result =>
      obtain rfl := Option.some.inj answers
      unfold step fetched
      dsimp only
      split
      · refine .inr (.inl ?_)
        cases result with
        | error failure => exact fail_late late failure
        | ok moduleText =>
            dsimp only
            rw [if_neg (by simpa using late)]
      · exact .inl rfl
  | loaded asked result =>
      obtain rfl := Option.some.inj answers
      unfold step loaded
      dsimp only
      split
      · refine .inr (.inr ?_)
        cases result with
        | error failure =>
            refine fail_late ?_ failure
            rw [dispose_executor, Executor.letGo_version]
            exact late
        | ok =>
            dsimp only
            rw [if_neg (by simpa using late)]
      · exact .inl rfl
  | _ => cases answers

/-- An answer to a mount that is not the newest changes nothing that counts. -/
theorem executor_of_late {scene : Scene} {event : Event} {version : Nat}
    (answers : event.mount? = some version) (late : version ≠ scene.executor.version) :
    (scene.step event).executor.session = scene.executor.session ∧
      (scene.step event).executor.lastError = scene.executor.lastError ∧
      (scene.step event).executor.diagnostic = scene.executor.diagnostic := by
  rcases answer_late answers late with same | same | same
  · rw [same]
    exact ⟨rfl, rfl, rfl⟩
  · rw [same]
    exact ⟨rfl, rfl, rfl⟩
  · rw [same]
    simp [finish, dispose_executor]

private theorem finish_ends {scene : Scene} {version : Nat}
    (begun : (scene.executor.phase? version).isSome) (mounted : Bool) :
    (scene.finish version mounted).executor.phase? version = some (.finished mounted) := by
  simp [finish, begun]

private theorem fail_ends {scene : Scene} {version : Nat}
    (begun : (scene.executor.phase? version).isSome) (failure : Failure) :
    (scene.fail version failure).executor.phase? version = some (.finished false) := by
  by_cases newest : version = scene.executor.version
  · subst newest
    obtain ⟨error, node, failed⟩ := fail_newest scene failure
    rw [failed]
    simp [begun]
  · rw [fail_late newest]
    exact finish_ends begun false

/-- The error that is shown stays where it is while a session is let go. -/
private theorem diagnostic_stays {first : Nat} {scene : Scene} (neat : scene.Neat first)
    {node : Nat} (shown : scene.executor.diagnostic = some node) (version : Nat) :
    ((scene.dispose version).around.page.get node).parent =
      (scene.around.page.get node).parent := by
  apply parent_dispose scene
  intro session member _
  exact neat.error_apart shown member

/-- A mount whose module was awaited is at the page behind the answer, or is done. -/
theorem fetched_answered {scene : Scene} {version : Nat} {bundle : Bundle}
    (waits : scene.executor.phase? version = some (.fetching bundle))
    (result : Except Failure String) :
    (scene.fetched version result).executor.phase? version = some .loading ∨
      ∃ mounted, (scene.fetched version result).executor.phase? version =
        some (.finished mounted) := by
  have begun : (scene.executor.phase? version).isSome := by rw [waits]; rfl
  unfold fetched
  rw [waits]
  cases result with
  | error failure => exact .inr ⟨false, fail_ends begun failure⟩
  | ok moduleText =>
      dsimp only
      split
      · split
        · exact .inr ⟨false, fail_ends begun _⟩
        · refine .inl ?_
          rw [Executor.setPhase_phase?, if_pos]
          exact ⟨rfl, begun⟩
      · exact .inr ⟨false, finish_ends begun false⟩

/-- A mount that waited for the page is done behind the answer. -/
theorem loaded_answered {scene : Scene} {version : Nat}
    (waits : scene.executor.phase? version = some .loading) (result : Except Failure Unit) :
    ∃ mounted, (scene.loaded version result).executor.phase? version =
      some (.finished mounted) := by
  have disposed : ((scene.dispose version).executor.phase? version).isSome := by
    rw [dispose_executor, Executor.letGo_phase?, waits]
    rfl
  unfold loaded
  rw [waits]
  cases result with
  | error failure => exact ⟨false, fail_ends disposed failure⟩
  | ok =>
      dsimp only
      split
      · refine ⟨true, finish_ends ?_ true⟩
        simp only [clearDiagnostic_executor, disposeAny_executor]
        have same := Executor.letGoAny_phase?
          { scene.executor with session := some version } scene.executor.session version
        rw [show Executor.phase? { scene.executor with session := some version } version =
          some .loading from waits] at same
        exact Option.isSome_iff_exists.mpr ⟨_, same⟩
      · exact ⟨false, finish_ends disposed false⟩

/-! ## What can be relied on -/

/-- What the callers of an executor can rely on after a history of events. -/
structure Reliable (events : List Event) (scene : Scene) : Prop where
  /-- Whatever happens next, nothing fails. -/
  unfailing : ∀ event, scene.step? event = some (scene.step event)
  /-- A mount that is answered goes on to the page, or is done. -/
  goesOn : ∀ version bundle result, scene.executor.phase? version = some (.fetching bundle) →
    (scene.fetched version result).executor.phase? version = some .loading ∨
      ∃ mounted, (scene.fetched version result).executor.phase? version =
        some (.finished mounted)
  ends : ∀ version result, scene.executor.phase? version = some .loading →
    ∃ mounted, (scene.loaded version result).executor.phase? version = some (.finished mounted)
  /-- A mount gives a session only if it is the newest at that moment, and then that session is the
  one that is current; every other mount that is done gives none. -/
  mounts : ∀ event version, scene.executor.phase? version ≠ some (.finished true) →
    (scene.step event).executor.phase? version = some (.finished true) →
    version = scene.executor.version ∧ ∃ session,
      (scene.step event).executor.current? = some session ∧ session.version = version ∧
        session.disposed = false
  /-- An answer to a mount that is not the newest changes neither what is current nor the last error
  nor the error that is shown, and that stays where it is. -/
  late : ∀ event version, event.mount? = some version → version ≠ scene.executor.version →
    (scene.step event).executor.session = scene.executor.session ∧
    (scene.step event).executor.lastError = scene.executor.lastError ∧
    (scene.step event).executor.diagnostic = scene.executor.diagnostic ∧
    ∀ node, scene.executor.diagnostic = some node →
      Page.bare ((scene.step event).around.page.get node) =
        Page.bare (scene.around.page.get node) ∧
      ((scene.step event).around.page.get node).parent = (scene.around.page.get node).parent
  /-- Once all mounts are done, the last call decides: if it was a mount that came through, its
  session is current and was not let go; else nothing is. -/
  outcome : (∀ entry ∈ scene.executor.mounts, ∃ mounted, entry.2 = .finished mounted) →
    match lastCall events with
    | some .mount => ∃ mounted,
        scene.executor.phase? scene.executor.version = some (.finished mounted) ∧
        if mounted then
          ∃ session, scene.executor.current? = some session ∧
            session.version = scene.executor.version ∧ session.disposed = false
        else scene.executor.current? = none
    | _ => scene.executor.current? = none

/-- The newest version behind a history is one of a mount if the last call was one. -/
theorem newest_begun_run {scene : Scene} (custody : scene.executor.Custody)
    (events : List Event) :
    ((scene.run events).executor.phase? (scene.run events).executor.version).isSome =
      mountIsNewest (lastCall events) (scene.executor.phase? scene.executor.version).isSome := by
  induction events generalizing scene with
  | nil => rfl
  | cons event rest inductionHypothesis =>
      have move := scene.step_move event
      rw [show scene.run (event :: rest) = (scene.step event).run rest from rfl,
        inductionHypothesis (move.custody custody), lastCall_cons]
      cases lastCall rest with
      | some call => cases call <;> rfl
      | none => exact move.newest_begun custody

/-- An executor that has done nothing has nothing on the page. -/
theorem neat_fresh {page : Page} (closed : page.Closed) {host : Nat} (inside : host < page.nextId)
    (settings : SandboxSettings) (registry : Registry) :
    Neat page.nextId { executor := { host, settings }, around := { page, registry } } where
  linked := closed.linked
  host := inside
  first_le := Nat.le_refl _
  versions := List.nodup_nil
  distinct := List.nodup_nil
  within := by simp [Executor.nodes]
  hung := by simp [Executor.held]
  loose := by simp [Executor.nodes]
  lessons := by simp

/-- However calls and answers follow each other on a host, no event fails, only the newest mount
counts, and the last call decides what is current in the end. -/
theorem reliable_run {page : Page} (closed : page.Closed) {host : Nat}
    (inside : host < page.nextId) (settings : SandboxSettings) (registry : Registry)
    (events : List Event) :
    Reliable events
      (run { executor := { host, settings }, around := { page, registry } } events) := by
  let opening : Scene := { executor := { host, settings }, around := { page, registry } }
  have order : opening.executor.Custody := Executor.custody_fresh host settings
  have neat := neat_run order (neat_fresh closed inside settings registry) events
  have custody := custody_run order events
  have last := newest_begun_run order events
  show Reliable events (opening.run events)
  generalize opening.run events = scene at neat custody last
  exact {
    unfailing := step?_eq neat
    goesOn := fun version bundle result waits => fetched_answered waits result
    ends := fun version result waits => loaded_answered waits result
    mounts := by
      intro event version before ended
      have move := scene.step_move event
      obtain ⟨newest, shown⟩ := move.shown_of_mounted custody before ended
      exact ⟨newest, (move.custody custody).current shown⟩
    late := by
      intro event version answers late
      obtain ⟨session, lastError, diagnostic⟩ := executor_of_late answers late
      refine ⟨session, lastError, diagnostic, ?_⟩
      intro node shown
      have bounds := neat.within node (Executor.mem_nodes.mpr (.inl shown))
      have minds := (step_upkeep custody event neat).2
      refine ⟨minds.kept.later node bounds.1 bounds.2, ?_⟩
      rcases answer_late answers late with same | same | same
      · rw [same]
      · rw [same]
        rfl
      · rw [same]
        exact diagnostic_stays neat shown version
    outcome := by
      intro done
      have nothing (empty : scene.executor.session = none) :
          scene.executor.current? = none := by
        unfold Executor.current?
        rw [empty]
        rfl
      have unmounted (missing : (scene.executor.phase? scene.executor.version).isSome = false) :
          scene.executor.current? = none :=
        nothing (custody.absent (by simpa using missing)).1
      cases called : lastCall events with
      | none =>
          rw [called] at last
          exact unmounted last
      | some call =>
          rw [called] at last
          cases call with
          | unmount => exact unmounted last
          | mount =>
              obtain ⟨phase, found⟩ := Option.isSome_iff_exists.mp last
              have entry : ∃ entry ∈ scene.executor.mounts, entry.2 = phase := by
                obtain ⟨entry, listed, same⟩ := Option.map_eq_some_iff.mp found
                exact ⟨entry, List.mem_of_find?_eq_some listed, same⟩
              obtain ⟨entry, listed, rfl⟩ := entry
              obtain ⟨mounted, ended⟩ := done entry listed
              rw [ended] at found
              have decided := custody.outcome mounted found
              refine ⟨mounted, found, ?_⟩
              cases mounted with
              | true => exact custody.current decided
              | false => exact nothing decided }

/-- A mount that is overtaken fails, then the newest one does, and then it is unmounted. -/
theorem reliable_run_overtaken :
    let page : Page :=
      ⟨#[{ tag := "body", children := [1] }, { tag := "div", parent := some 0 }]⟩
    let bundle : Bundle := { moduleRef := "/lessons/a/module", integrity := "" }
    let events : List Event := [.begin bundle, .begin bundle,
      .fetched 1 (.error (.general "offline")), .fetched 2 (.error (.general "offline")), .unmount]
    page.Closed ∧ 1 < page.nextId ∧
      Reliable events
        (run { executor := { host := 1, settings := {} }
               around := { page, registry := .ofBase defaultBase } } events) := by
  intro page bundle events
  have closed : page.Closed := by decide
  have inside : 1 < page.nextId := by decide
  exact ⟨closed, inside, reliable_run closed inside {} (.ofBase defaultBase) events⟩

end Scene

end Lectern.Sandbox
