/-
Module: Lectern.Proofs.Sandbox.Moves
Purpose: What each event does to the executor of a scene, apart from the page and the registry.
Trusted boundary: none
Main exports: Executor.made, Executor.kept, Executor.letGo, Executor.Move, Scene.step_move
-/
import Lectern.Proofs.Keyed
import Lectern.Sandbox.Executor

namespace Lectern.Sandbox

namespace Executor

/-! ## Sessions by their versions -/

/-- The versions of the mounts that came to the page. -/
def made (executor : Executor) : List Nat := executor.sessions.map (·.version)

/-- The versions of the mounts whose sessions were not let go. -/
def kept (executor : Executor) : List Nat :=
  (executor.sessions.filter fun session => !session.disposed).map (·.version)

theorem mem_kept {executor : Executor} {version : Nat} :
    version ∈ executor.kept ↔
      ∃ session ∈ executor.sessions, session.disposed = false ∧ session.version = version := by
  simp only [kept, List.mem_map, List.mem_filter, Bool.not_eq_true', and_assoc]

theorem made_of_kept {executor : Executor} {version : Nat} (member : version ∈ executor.kept) :
    version ∈ executor.made := by
  obtain ⟨session, inside, -, rfl⟩ := mem_kept.mp member
  exact List.mem_map.mpr ⟨session, inside, rfl⟩

/-- A session is found by its version. -/
theorem session?_of_mem {executor : Executor} (distinct : executor.made.Nodup)
    {session : MountSession} (member : session ∈ executor.sessions) :
    executor.session? session.version = some session :=
  Keyed.find?_of_mem (fun session : MountSession => session.version) distinct member

theorem session?_eq_none {executor : Executor} {version : Nat} :
    executor.session? version = none ↔ version ∉ executor.made := by
  simp only [session?, made, List.find?_eq_none, List.mem_map, beq_iff_eq, not_exists, not_and]

theorem session?_mem {executor : Executor} {version : Nat} {session : MountSession}
    (found : executor.session? version = some session) :
    session ∈ executor.sessions ∧ session.version = version :=
  ⟨List.mem_of_find?_eq_some found, by simpa using List.find?_some found⟩

/-- Two sessions with one version are the same. -/
theorem session_unique {executor : Executor} (distinct : executor.made.Nodup)
    {first second : MountSession} (left : first ∈ executor.sessions)
    (right : second ∈ executor.sessions) (same : first.version = second.version) :
    first = second := by
  have found := session?_of_mem distinct left
  rw [same, session?_of_mem distinct right] at found
  exact (Option.some.inj found).symm

/-! ## Phases -/

@[simp] theorem setPhase_phase? (executor : Executor) (version asked : Nat) (phase : Phase) :
    (executor.setPhase version phase).phase? asked =
      if asked = version ∧ (executor.phase? version).isSome then some phase
      else executor.phase? asked := by
  have found := Keyed.find?_replaced Prod.fst (version, phase) executor.mounts asked
  simp only [phase?, setPhase, found]
  by_cases same : asked = version
  · subst asked
    rcases Option.eq_none_or_eq_some (executor.mounts.find? (·.1 == version)) with
      known | ⟨entry, known⟩
    · have absent : executor.mounts.any (·.1 == version) = false := by
        rw [List.any_eq_false]
        exact List.find?_eq_none.mp known
      simp [known, absent]
    · have here := @List.find?_some _ (fun entry : Nat × Phase => entry.1 == version) _ _ known
      have present : executor.mounts.any (·.1 == version) = true :=
        List.any_eq_true.mpr ⟨entry, List.mem_of_find?_eq_some known, here⟩
      simp [known, present]
  · simp [same]

/-- The versions of the mounts. -/
def begun (executor : Executor) : List Nat := executor.mounts.map (·.1)

@[simp] theorem setPhase_begun (executor : Executor) (version : Nat) (phase : Phase) :
    (executor.setPhase version phase).begun = executor.begun :=
  Keyed.map_replaced Prod.fst (version, phase) executor.mounts

section SettingPhases

variable (executor : Executor) (version : Nat) (phase : Phase)

@[simp] theorem setPhase_kept : (executor.setPhase version phase).kept = executor.kept := rfl

@[simp] theorem setPhase_made : (executor.setPhase version phase).made = executor.made := rfl

@[simp] theorem setPhase_version :
    (executor.setPhase version phase).version = executor.version := rfl

@[simp] theorem setPhase_session :
    (executor.setPhase version phase).session = executor.session := rfl

@[simp] theorem setPhase_lastError :
    (executor.setPhase version phase).lastError = executor.lastError := rfl

@[simp] theorem setPhase_diagnostic :
    (executor.setPhase version phase).diagnostic = executor.diagnostic := rfl

@[simp] theorem setPhase_teardowns :
    (executor.setPhase version phase).teardowns = executor.teardowns := rfl

end SettingPhases

theorem phase?_eq_none {executor : Executor} {version : Nat} :
    executor.phase? version = none ↔ version ∉ executor.begun := by
  simp only [phase?, begun, Option.map_eq_none_iff, List.find?_eq_none, List.mem_map, beq_iff_eq,
    not_exists, not_and]

/-! ## Letting go -/

/-- An executor whose mount with a version has let go of what it held. -/
def letGo (executor : Executor) (version : Nat) : Executor :=
  match executor.session? version with
  | none => executor
  | some session =>
    { executor with
      sessions := (executor.putSession { session with disposed := true }).sessions
      marked := if session.disposed then executor.marked
        else session.afterwards.foldl (fun marked marker => marked.filter (· != marker.version))
          executor.marked }

/-- Letting go of what a mount held, if there is one. -/
def letGoAny (executor : Executor) : Option Nat → Executor
  | some version => executor.letGo version
  | none => executor

section LettingGo

variable (executor : Executor) (version : Nat) (given : Option Nat)

@[simp] theorem letGo_version : (executor.letGo version).version = executor.version := by
  unfold letGo; split <;> rfl

@[simp] theorem letGo_session : (executor.letGo version).session = executor.session := by
  unfold letGo; split <;> rfl

@[simp] theorem letGo_diagnostic :
    (executor.letGo version).diagnostic = executor.diagnostic := by
  unfold letGo; split <;> rfl

@[simp] theorem letGo_lastError : (executor.letGo version).lastError = executor.lastError := by
  unfold letGo; split <;> rfl

@[simp] theorem letGo_mounts : (executor.letGo version).mounts = executor.mounts := by
  unfold letGo; split <;> rfl

@[simp] theorem letGo_teardowns : (executor.letGo version).teardowns = executor.teardowns := by
  unfold letGo; split <;> rfl

@[simp] theorem letGo_made : (executor.letGo version).made = executor.made := by
  unfold letGo
  cases executor.session? version with
  | none => rfl
  | some session =>
      exact Keyed.map_replaced (fun session : MountSession => session.version)
        { session with disposed := true } executor.sessions

@[simp] theorem letGoAny_version : (executor.letGoAny given).version = executor.version := by
  cases given <;> simp [letGoAny]

@[simp] theorem letGoAny_session : (executor.letGoAny given).session = executor.session := by
  cases given <;> simp [letGoAny]

@[simp] theorem letGoAny_lastError :
    (executor.letGoAny given).lastError = executor.lastError := by
  cases given <;> simp [letGoAny]

@[simp] theorem letGoAny_mounts : (executor.letGoAny given).mounts = executor.mounts := by
  cases given <;> simp [letGoAny]

@[simp] theorem letGoAny_teardowns :
    (executor.letGoAny given).teardowns = executor.teardowns := by
  cases given <;> simp [letGoAny]

@[simp] theorem letGoAny_made : (executor.letGoAny given).made = executor.made := by
  cases given <;> simp [letGoAny]

@[simp] theorem letGo_phase? (asked : Nat) :
    (executor.letGo version).phase? asked = executor.phase? asked := by
  simp [phase?]

@[simp] theorem letGoAny_phase? (asked : Nat) :
    (executor.letGoAny given).phase? asked = executor.phase? asked := by
  simp [phase?]

@[simp] theorem letGo_begun : (executor.letGo version).begun = executor.begun := by
  simp [begun]

@[simp] theorem letGoAny_begun : (executor.letGoAny given).begun = executor.begun := by
  simp [begun]

end LettingGo

/-- The session that is let go is the only one that is no longer kept. -/
theorem mem_kept_letGo (executor : Executor) (version other : Nat) :
    other ∈ (executor.letGo version).kept ↔ other ∈ executor.kept ∧ other ≠ version := by
  cases found : executor.session? version with
  | none =>
      have absent := session?_eq_none.mp found
      have same : executor.letGo version = executor := by
        unfold letGo
        rw [found]
      rw [same]
      constructor
      · intro member
        refine ⟨member, ?_⟩
        rintro rfl
        exact absent (made_of_kept member)
      · exact And.left
  | some session =>
      obtain ⟨inside, rfl⟩ := session?_mem found
      have sessions : (executor.letGo session.version).sessions =
          (executor.putSession { session with disposed := true }).sessions := by
        unfold letGo
        rw [found]
      rw [mem_kept, mem_kept, sessions]
      simp only [putSession, List.mem_map]
      constructor
      · rintro ⟨_, ⟨entry, member, rfl⟩, undisposed, rfl⟩
        by_cases same : entry.version = session.version
        · simp [same] at undisposed
        · have apart : (entry.version == session.version) = false := by simpa using same
          rw [apart] at undisposed ⊢
          exact ⟨⟨entry, member, undisposed, rfl⟩, same⟩
      · rintro ⟨⟨entry, member, undisposed, rfl⟩, apart⟩
        have kept : (entry.version == session.version) = false := by simpa using apart
        refine ⟨entry, ⟨entry, member, ?_⟩, undisposed, rfl⟩
        rw [kept]
        rfl

theorem mem_kept_letGoAny (executor : Executor) (given : Option Nat) (other : Nat) :
    other ∈ (executor.letGoAny given).kept ↔
      other ∈ executor.kept ∧ given ≠ some other := by
  cases given with
  | none => simp [letGoAny]
  | some version =>
      rw [letGoAny, mem_kept_letGo]
      simp [eq_comm]

end Executor

namespace Scene

/-- Taking back markers changes nothing about the executor but its list of them. -/
private theorem unmarks_executor (scene : Scene) (tasks : List Marker) :
    (tasks.foldl (fun scene marker => scene.unmark marker.version) scene).executor =
      { scene.executor with
        marked := tasks.foldl (fun marked marker => marked.filter (· != marker.version))
          scene.executor.marked } := by
  induction tasks generalizing scene with
  | nil => rfl
  | cons marker rest inductionHypothesis =>
      rw [List.foldl_cons, List.foldl_cons, inductionHypothesis]
      rfl

theorem dispose_executor (scene : Scene) (version : Nat) :
    (scene.dispose version).executor = scene.executor.letGo version := by
  unfold dispose Executor.letGo
  cases found : scene.executor.session? version with
  | none => rfl
  | some session =>
      dsimp only
      rw [unmarks_executor]
      by_cases gone : session.disposed = true
      · have same : { session with disposed := true } = session := by rw [← gone]
        simp only [Session.dispose, gone, if_true, same, List.foldl_nil]
        rfl
      · simp only [Session.dispose, gone, Bool.false_eq_true, if_false]
        rfl

theorem disposeAny_executor (scene : Scene) (version : Option Nat) :
    (scene.disposeAny version).executor = scene.executor.letGoAny version := by
  cases version with
  | none => rfl
  | some version => exact dispose_executor scene version

theorem clearDiagnostic_executor (scene : Scene) :
    scene.clearDiagnostic.executor = { scene.executor with diagnostic := none } := by
  unfold clearDiagnostic
  cases shown : scene.executor.diagnostic with
  | none =>
      dsimp only
      rw [← shown]
  | some node => rfl

theorem showDiagnostic_executor (scene : Scene) (message : String) :
    (scene.showDiagnostic message).executor =
      { scene.executor with diagnostic := some scene.clearDiagnostic.around.page.nextId } := by
  unfold showDiagnostic
  simp only [Page.create, clearDiagnostic_executor]

end Scene

/-! ## The moves of an executor -/

/-- What a caller can ask of an executor. -/
inductive Call where
  | mount
  | unmount
  deriving DecidableEq, Repr

namespace Scene

/-- The call that an event is, if it is one. -/
def Event.call? : Event → Option Call
  | .begin _ => some .mount
  | .unmount => some .unmount
  | _ => none

/-- The last call in a history. -/
def lastCall (events : List Event) : Option Call := (events.filterMap Event.call?).getLast?

end Scene

namespace Executor

/-- The newest mount has failed: what is shown gives way to an error. -/
def giveWay (executor : Executor) (error : MountError) (node : Nat) : Executor :=
  { { executor with lastError := some error, session := none }.letGoAny executor.session with
    diagnostic := some node }

/-- The newest mount has come through: it takes the place of what is shown. -/
def takePlace (executor : Executor) (version : Nat) : Executor :=
  { { executor with session := some version }.letGoAny executor.session with
    diagnostic := none, lastError := none }

/-- A mount begins. -/
def addMount (executor : Executor) (bundle : Bundle) : Executor :=
  { executor with
    version := executor.version + 1
    mounts := executor.mounts ++ [(executor.version + 1, .fetching bundle)] }

/-- The newest mount has come to the page. -/
def takeIn (executor : Executor) (session : MountSession) (marked : List Nat) : Executor :=
  { executor with sessions := executor.sessions ++ [session], marked }

/-- What is shown is no longer wanted. -/
def leave (executor : Executor) : Executor :=
  { executor with
    version := executor.version + 1
    session := none
    teardowns := executor.teardowns ++ [executor.session] }

/-- What an unmount left goes, and the others stay for later. -/
def takeDown (executor : Executor) (version : Option Nat) (later : List (Option Nat)) : Executor :=
  { { executor with teardowns := later }.letGoAny version with diagnostic := none }

section Fields

variable (executor : Executor) (version asked node : Nat) (error : MountError) (bundle : Bundle)
  (session : MountSession) (marked : List Nat) (given : Option Nat) (later : List (Option Nat))

@[simp] theorem giveWay_version :
    (executor.giveWay error node).version = executor.version := by
  simp [giveWay]

@[simp] theorem giveWay_session : (executor.giveWay error node).session = none := by
  simp [giveWay]

@[simp] theorem giveWay_lastError :
    (executor.giveWay error node).lastError = some error := by
  simp [giveWay]

@[simp] theorem giveWay_diagnostic : (executor.giveWay error node).diagnostic = some node := rfl

@[simp] theorem giveWay_teardowns :
    (executor.giveWay error node).teardowns = executor.teardowns := by
  simp [giveWay]

@[simp] theorem giveWay_made : (executor.giveWay error node).made = executor.made :=
  letGoAny_made _ _

@[simp] theorem giveWay_begun : (executor.giveWay error node).begun = executor.begun :=
  letGoAny_begun _ _

@[simp] theorem giveWay_phase? :
    (executor.giveWay error node).phase? asked = executor.phase? asked :=
  letGoAny_phase? _ _ _

theorem mem_kept_giveWay :
    asked ∈ (executor.giveWay error node).kept ↔
      asked ∈ executor.kept ∧ executor.session ≠ some asked :=
  mem_kept_letGoAny _ _ _

@[simp] theorem takePlace_version : (executor.takePlace version).version = executor.version := by
  simp [takePlace]

@[simp] theorem takePlace_session : (executor.takePlace version).session = some version := by
  simp [takePlace]

@[simp] theorem takePlace_teardowns :
    (executor.takePlace version).teardowns = executor.teardowns := by
  simp [takePlace]

@[simp] theorem takePlace_made : (executor.takePlace version).made = executor.made :=
  letGoAny_made _ _

@[simp] theorem takePlace_begun : (executor.takePlace version).begun = executor.begun :=
  letGoAny_begun _ _

@[simp] theorem takePlace_phase? :
    (executor.takePlace version).phase? asked = executor.phase? asked :=
  letGoAny_phase? _ _ _

theorem mem_kept_takePlace :
    asked ∈ (executor.takePlace version).kept ↔
      asked ∈ executor.kept ∧ executor.session ≠ some asked :=
  mem_kept_letGoAny _ _ _

@[simp] theorem addMount_version :
    (executor.addMount bundle).version = executor.version + 1 := rfl

@[simp] theorem addMount_session : (executor.addMount bundle).session = executor.session := rfl

@[simp] theorem addMount_teardowns :
    (executor.addMount bundle).teardowns = executor.teardowns := rfl

@[simp] theorem addMount_kept : (executor.addMount bundle).kept = executor.kept := rfl

@[simp] theorem addMount_begun :
    (executor.addMount bundle).begun = executor.begun ++ [executor.version + 1] := by
  simp [addMount, begun]

@[simp] theorem takeIn_version : (executor.takeIn session marked).version = executor.version := rfl

@[simp] theorem takeIn_session : (executor.takeIn session marked).session = executor.session := rfl

@[simp] theorem takeIn_teardowns :
    (executor.takeIn session marked).teardowns = executor.teardowns := rfl

@[simp] theorem takeIn_made :
    (executor.takeIn session marked).made = executor.made ++ [session.version] := by
  simp [takeIn, made]

@[simp] theorem takeIn_begun : (executor.takeIn session marked).begun = executor.begun := rfl

@[simp] theorem takeIn_phase? :
    (executor.takeIn session marked).phase? asked = executor.phase? asked := rfl

theorem mem_kept_takeIn (fresh : session.disposed = false) :
    asked ∈ (executor.takeIn session marked).kept ↔
      asked ∈ executor.kept ∨ asked = session.version := by
  simp [takeIn, kept, fresh]

@[simp] theorem leave_version : executor.leave.version = executor.version + 1 := rfl

@[simp] theorem leave_session : executor.leave.session = none := rfl

@[simp] theorem leave_teardowns :
    executor.leave.teardowns = executor.teardowns ++ [executor.session] := rfl

@[simp] theorem leave_kept : executor.leave.kept = executor.kept := rfl

@[simp] theorem leave_phase? : executor.leave.phase? asked = executor.phase? asked := rfl

@[simp] theorem takeDown_version :
    (executor.takeDown given later).version = executor.version := by
  simp [takeDown]

@[simp] theorem takeDown_session :
    (executor.takeDown given later).session = executor.session := by
  simp [takeDown]

@[simp] theorem takeDown_diagnostic : (executor.takeDown given later).diagnostic = none := rfl

@[simp] theorem takeDown_teardowns : (executor.takeDown given later).teardowns = later := by
  simp [takeDown]

@[simp] theorem takeDown_made : (executor.takeDown given later).made = executor.made :=
  letGoAny_made _ _

@[simp] theorem takeDown_begun : (executor.takeDown given later).begun = executor.begun :=
  letGoAny_begun _ _

@[simp] theorem takeDown_phase? :
    (executor.takeDown given later).phase? asked = executor.phase? asked :=
  letGoAny_phase? _ _ _

theorem mem_kept_takeDown :
    asked ∈ (executor.takeDown given later).kept ↔
      asked ∈ executor.kept ∧ given ≠ some asked :=
  mem_kept_letGoAny _ _ _

end Fields

/-- What one event can do to an executor, with the call that it is. The answers that a mount waits
for are told apart by whether the mount is still the newest one. -/
inductive Move (executor : Executor) : Option Call → Executor → Prop where
  | idle : Move executor none executor
  | begins (bundle : Bundle) : Move executor (some .mount) (executor.addMount bundle)
  | unwanted {version : Nat} {bundle : Bundle}
      (waits : executor.phase? version = some (.fetching bundle))
      (late : version ≠ executor.version) :
      Move executor none (executor.setPhase version (.finished false))
  | refused {bundle : Bundle} (error : MountError) (node : Nat)
      (waits : executor.phase? executor.version = some (.fetching bundle)) :
      Move executor none
        ((executor.giveWay error node).setPhase executor.version (.finished false))
  | acquires {bundle : Bundle} (session : MountSession) (marked : List Nat)
      (waits : executor.phase? executor.version = some (.fetching bundle))
      (own : session.version = executor.version) (fresh : session.disposed = false) :
      Move executor none ((executor.takeIn session marked).setPhase executor.version .loading)
  | abandoned {version : Nat} (waits : executor.phase? version = some .loading)
      (late : version ≠ executor.version) :
      Move executor none ((executor.letGo version).setPhase version (.finished false))
  | crashes (error : MountError) (node : Nat)
      (waits : executor.phase? executor.version = some .loading) :
      Move executor none (((executor.letGo executor.version).giveWay error node).setPhase
        executor.version (.finished false))
  | arrives (waits : executor.phase? executor.version = some .loading) :
      Move executor none ((executor.takePlace executor.version).setPhase executor.version
        (.finished true))
  | unmounts : Move executor (some .unmount) executor.leave
  | takesDown {version : Option Nat} {later : List (Option Nat)}
      (due : executor.teardowns = version :: later) :
      Move executor none (executor.takeDown version later)
  | reports (error : MountError) :
      Move executor none { executor with lastError := some error }

end Executor

namespace Scene

theorem acquire_own (settings : SandboxSettings) (host : Nat) (content : LoadedModule)
    (version : Nat) (around : Surroundings) :
    (acquire settings host content version around).1.version = version ∧
      (acquire settings host content version around).1.disposed = false := by
  unfold acquire
  cases settings.isolation with
  | frame => exact ⟨rfl, rfl⟩
  | shadow => exact ⟨rfl, rfl⟩

theorem contain_late {scene : Scene} {version : Nat} (late : version ≠ scene.executor.version)
    (error : MountError) : scene.contain version error = scene := by
  unfold contain
  rw [if_neg (by simpa using late)]

theorem contain_newest (scene : Scene) (error : MountError) :
    ∃ node, (scene.contain scene.executor.version error).executor =
      scene.executor.giveWay error node := by
  unfold contain
  rw [if_pos (beq_self_eq_true _), showDiagnostic_executor, disposeAny_executor]
  exact ⟨_, rfl⟩

theorem fail_late {scene : Scene} {version : Nat} (late : version ≠ scene.executor.version)
    (failure : Failure) : scene.fail version failure = scene.finish version false := by
  unfold fail
  rw [contain_late late]

theorem fail_newest (scene : Scene) (failure : Failure) :
    ∃ error node, (scene.fail scene.executor.version failure).executor =
      (scene.executor.giveWay error node).setPhase scene.executor.version (.finished false) := by
  have ⟨node, shown⟩ := contain_newest scene (mountError scene.executor.version failure)
  refine ⟨mountError scene.executor.version failure, node, ?_⟩
  unfold fail finish
  rw [shown]

theorem fetched_move (scene : Scene) (version : Nat) (result : Except Failure String) :
    scene.executor.Move none (scene.fetched version result).executor := by
  rcases phase : scene.executor.phase? version with _ | (bundle | _ | mounted)
  case some.fetching =>
    unfold fetched
    rw [phase]
    by_cases newest : version = scene.executor.version
    · subst newest
      have fails (failure : Failure) :
          scene.executor.Move none (scene.fail scene.executor.version failure).executor := by
        obtain ⟨error, node, failed⟩ := fail_newest scene failure
        rw [failed]
        exact .refused error node phase
      cases result with
      | error failure => exact fails failure
      | ok moduleText =>
          dsimp only
          rw [if_pos (beq_self_eq_true _)]
          cases refusal? scene.executor.version moduleText bundle.integrity with
          | some failure => exact fails failure
          | none =>
              obtain ⟨own, fresh⟩ := acquire_own scene.executor.settings scene.executor.host
                ⟨moduleText, bundle.styleText⟩ scene.executor.version scene.around
              exact .acquires _ _ phase own fresh
    · cases result with
      | error failure =>
          dsimp only
          rw [fail_late newest]
          exact .unwanted phase newest
      | ok moduleText =>
          dsimp only
          rw [if_neg (by simpa using newest)]
          exact .unwanted phase newest
  all_goals
    have same : scene.fetched version result = scene := by
      unfold fetched
      rw [phase]
    rw [same]
    exact .idle

theorem loaded_move (scene : Scene) (version : Nat) (result : Except Failure Unit) :
    scene.executor.Move none (scene.loaded version result).executor := by
  rcases phase : scene.executor.phase? version with _ | (bundle | _ | mounted)
  case some.loading =>
    unfold loaded
    rw [phase]
    have letsGo := dispose_executor scene version
    have same : (scene.dispose version).executor.version = scene.executor.version := by
      rw [letsGo, Executor.letGo_version]
    by_cases newest : version = scene.executor.version
    · subst newest
      cases result with
      | error failure =>
          have ⟨error, node, failed⟩ :=
            fail_newest (scene.dispose scene.executor.version) failure
          rw [same, letsGo] at failed
          dsimp only
          rw [failed]
          exact .crashes error node phase
      | ok =>
          dsimp only
          rw [if_pos (beq_self_eq_true _), finish, clearDiagnostic_executor, disposeAny_executor]
          exact .arrives phase
    · have gone : (scene.executor.letGo version).setPhase version (.finished false) =
          ((scene.dispose version).finish version false).executor := by
        rw [finish, letsGo]
      cases result with
      | error failure =>
          dsimp only
          rw [fail_late (by rw [same]; exact newest), ← gone]
          exact .abandoned phase newest
      | ok =>
          dsimp only
          rw [if_neg (by simpa using newest), ← gone]
          exact .abandoned phase newest
  all_goals
    have same : scene.loaded version result = scene := by
      unfold loaded
      rw [phase]
    rw [same]
    exact .idle

/-- Each event makes a move of the executor. -/
theorem step_move (scene : Scene) (event : Event) :
    scene.executor.Move event.call? (scene.step event).executor := by
  cases event with
  | begin bundle => exact .begins bundle
  | fetched version result => exact fetched_move scene version result
  | loaded version result => exact loaded_move scene version result
  | unmount => exact .unmounts
  | teardown =>
      unfold step teardown
      cases due : scene.executor.teardowns with
      | nil => exact .idle
      | cons version rest =>
          dsimp only
          rw [clearDiagnostic_executor, disposeAny_executor]
          exact .takesDown due
  | report version message =>
      unfold step report
      dsimp only
      split
      · exact .reports _
      · exact .idle

end Scene

end Lectern.Sandbox
