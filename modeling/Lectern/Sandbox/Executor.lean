/-
Module: Lectern.Sandbox.Executor
Purpose: Mounting lessons on a host element, one after the other. A mount waits twice, for its
  module and for what it hung into the page; in between others may begin, and only the newest
  counts.
Main exports: Executor, Scene, Scene.begin, Scene.fetched, Scene.loaded, Scene.unmount,
  Scene.teardown, Scene.report, Scene.step
-/
import Lectern.Digest.Encoding
import Lectern.Digest.Sha384
import Lectern.Lesson.Failure
import Lectern.Lesson.Record
import Lectern.Safety.Check
import Lectern.Sandbox.Isolation

namespace Lectern.Sandbox

/-- What went wrong with a mount: which one, if that is known, and the kind of the cause. -/
structure MountError where
  message : String
  mount : Option Int := none
  cause : Option String := none
  deriving DecidableEq, Repr, Inhabited

/-- What went wrong with a mount as JSON. -/
def MountError.toJson (error : MountError) : Json :=
  .obj [("message", .str error.message), ("version", (error.mount.map Json.int).getD .null),
    ("cause", Json.optionalText error.cause)]

/-- A session as JSON. -/
def MountSession.toJson (session : MountSession) : Json :=
  .obj [("version", .nat session.version), ("handles", Json.textArray session.handles),
    ("disposed", .bool session.disposed)]

/-- How far a mount is. -/
inductive Phase where
  | fetching (bundle : Bundle)
  /-- What the mount holds is in the page. -/
  | loading
  /-- Done: did the mount give a session? -/
  | finished (mounted : Bool)
  deriving DecidableEq, Repr, Inhabited

/-- The mounts of one host. -/
structure Executor where
  host : Nat
  settings : SandboxSettings
  /-- The version of the newest mount, or of the unmount that followed it. -/
  version : Nat := 0
  /-- All that the mounts ever held, as it is now. -/
  sessions : List MountSession := []
  /-- The version of the mount whose lesson is shown. -/
  session : Option Nat := none
  lastError : Option MountError := none
  diagnostic : Option Nat := none
  /-- The versions of the live mounts that set the marker of the host. -/
  marked : List Nat := []
  mounts : List (Nat × Phase) := []
  /-- What is still to be taken down, the oldest first. -/
  teardowns : List (Option Nat) := []
  deriving DecidableEq, Repr, Inhabited

namespace Executor

/-- How far the mount with a version is. -/
def phase? (executor : Executor) (version : Nat) : Option Phase :=
  (executor.mounts.find? (·.1 == version)).map (·.2)

/-- An executor whose mount with a version is so far. -/
def setPhase (executor : Executor) (version : Nat) (phase : Phase) : Executor :=
  { executor with mounts := executor.mounts.map fun entry =>
      if entry.1 == version then (version, phase) else entry }

/-- What the mount with a version holds, or held. -/
def session? (executor : Executor) (version : Nat) : Option MountSession :=
  executor.sessions.find? (·.version == version)

/-- An executor for which a session is as it is now. -/
def putSession (executor : Executor) (session : MountSession) : Executor :=
  { executor with sessions := executor.sessions.map fun entry =>
      if entry.version == session.version then session else entry }

/-- The session that is current. -/
def current? (executor : Executor) : Option MountSession := executor.session.bind executor.session?

end Executor

/-- An executor and what is around it. -/
structure Scene where
  executor : Executor
  around : Surroundings
  deriving DecidableEq, Repr, Inhabited

namespace Scene

/-- Change the page. -/
def modifyPage (scene : Scene) (change : Page → Page) : Scene :=
  { scene with around := { scene.around with page := change scene.around.page } }

/-- The marker of the host names the newest live mount, and goes with the last one. -/
def unmark (scene : Scene) (version : Nat) : Scene :=
  let marked := scene.executor.marked.filter (· != version)
  let change (element : Element) := match marked.max? with
    | some newest => element.setAttribute markerName (toString newest)
    | none => element.removeAttribute markerName
  let scene := { scene with executor := { scene.executor with marked } }
  scene.modifyPage (·.modify scene.executor.host change)

/-- Let go of what a mount holds. -/
def dispose (scene : Scene) (version : Nat) : Scene :=
  match scene.executor.session? version with
  | none => scene
  | some session =>
    let (session, around, tasks) := session.dispose scene.around
    tasks.foldl (fun scene marker => scene.unmark marker.version)
      { executor := scene.executor.putSession session, around }

/-- Let go of what a mount holds, if there is one. -/
def disposeAny (scene : Scene) : Option Nat → Scene
  | some version => scene.dispose version
  | none => scene

/-- Take the diagnostic from the page. -/
def clearDiagnostic (scene : Scene) : Scene :=
  match scene.executor.diagnostic with
  | none => scene
  | some node =>
    { scene with executor := { scene.executor with diagnostic := none } }.modifyPage (·.detach node)

/-- The element that shows an error in place of a lesson. -/
def diagnosticElement (message : String) : Element where
  tag := "div"
  attributes := [("role", "alert"), ("data-lf-diagnostic", "")]
  text := "Generated component error: " ++ message

/-- Show an error in place of the lesson, in the shadow root if the host has one. -/
def showDiagnostic (scene : Scene) (message : String) : Scene :=
  let scene := scene.clearDiagnostic
  let host := scene.executor.host
  let target := ((scene.around.page.get host).shadowRoot).getD host
  let (page, node) := scene.around.page.create (diagnosticElement message)
  { executor := { scene.executor with diagnostic := some node }
    around := { scene.around with page := page.append target node } }

/-- A mount has failed. If it is the newest, its error takes the place of the lesson; else nobody
hears of it. -/
def contain (scene : Scene) (version : Nat) (error : MountError) : Scene :=
  if version == scene.executor.version then
    let session := scene.executor.session
    let executor := { scene.executor with lastError := some error, session := none }
    ({ scene with executor }.disposeAny session).showDiagnostic error.message
  else scene

/-- The error that a failure of a mount makes. -/
def mountError (version : Nat) : Failure → MountError
  | .sandbox message mount cause => ⟨message, mount, cause⟩
  | failure => ⟨"Mount failed: " ++ failure.message, some version, some failure.kind⟩

/-- A mount is done, and gives a session or none. -/
def finish (scene : Scene) (version : Nat) (mounted : Bool) : Scene :=
  { scene with executor := scene.executor.setPhase version (.finished mounted) }

/-- A mount fails. -/
def fail (scene : Scene) (version : Nat) (failure : Failure) : Scene :=
  (scene.contain version (mountError version failure)).finish version false

/-! ## What happens -/

/-- A mount begins; all earlier ones are out of date. -/
def begin (scene : Scene) (bundle : Bundle) : Scene :=
  let version := scene.executor.version + 1
  { scene with executor := { scene.executor with
      version, mounts := scene.executor.mounts ++ [(version, .fetching bundle)] } }

/-- Why a module must not be mounted: it is not the one that was meant, or it is not safe. -/
def refusal? (version : Nat) (moduleText integrity : String) : Option Failure :=
  if Digest.integrity moduleText != integrity then
    some (.sandbox "Module integrity check failed" (some version) none)
  else
    match Safety.check moduleText with
    | [] => none
    | issues =>
      let violation := Failure.violation issues
      some (.sandbox violation.message (some version) (some violation.kind))

/-- The module of a mount is there, or is not. A mount that is the newest is checked and goes on to
the page. -/
def fetched (scene : Scene) (version : Nat) (result : Except Failure String) : Scene :=
  match scene.executor.phase? version with
  | some (.fetching bundle) =>
    match result with
    | .error failure => scene.fail version failure
    | .ok moduleText =>
      if version == scene.executor.version then
        match refusal? version moduleText bundle.integrity with
        | some failure => scene.fail version failure
        | none =>
          let executor := scene.executor
          let (session, around) := acquire executor.settings executor.host
            ⟨moduleText, bundle.styleText⟩ version scene.around
          let sessions := executor.sessions ++ [session]
          let marked := executor.marked ++ session.afterwards.map (·.version)
          { executor := { executor with sessions, marked }.setPhase version .loading, around }
      else scene.finish version false
  | _ => scene

/-- What a mount hung into the page has loaded, or has not. The newest mount takes the place of the
one before it, and every other one lets go of what it holds. -/
def loaded (scene : Scene) (version : Nat) (result : Except Failure Unit) : Scene :=
  match scene.executor.phase? version with
  | some .loading =>
    match result with
    | .error failure => (scene.dispose version).fail version failure
    | .ok () =>
      if version == scene.executor.version then
        let previous := scene.executor.session
        let executor := { scene.executor with session := some version }
        let scene := ({ scene with executor }.disposeAny previous).clearDiagnostic
        { scene with executor := { scene.executor with lastError := none } }.finish version true
      else (scene.dispose version).finish version false
  | _ => scene

/-- The lesson is no longer wanted; what it holds is let go a little later. -/
def unmount (scene : Scene) : Scene :=
  let executor := scene.executor
  { scene with executor := { executor with
      version := executor.version + 1
      session := none
      teardowns := executor.teardowns ++ [executor.session] } }

/-- Take down what the oldest unmount left. -/
def teardown (scene : Scene) : Scene :=
  match scene.executor.teardowns with
  | [] => scene
  | session :: rest =>
    ({ scene with executor := { scene.executor with teardowns := rest } }.disposeAny
      session).clearDiagnostic

/-- The lesson on the page reports an error. It counts if the lesson is the newest. -/
def report (scene : Scene) (version : Int) (message : String) : Scene :=
  if version == scene.executor.version then
    { scene with executor := { scene.executor with
        lastError := some ⟨message, some version, none⟩ } }
  else scene

/-! ## Histories -/

/-- What can happen to an executor. -/
inductive Event where
  | begin (bundle : Bundle)
  | fetched (version : Nat) (result : Except Failure String)
  | loaded (version : Nat) (result : Except Failure Unit)
  | unmount
  | teardown
  | report (version : Int) (message : String)

/-- What an event does. -/
def step (scene : Scene) : Event → Scene
  | .begin bundle => scene.begin bundle
  | .fetched version result => scene.fetched version result
  | .loaded version result => scene.loaded version result
  | .unmount => scene.unmount
  | .teardown => scene.teardown
  | .report version message => scene.report version message

/-- The scene after a history of events. -/
def run (scene : Scene) (events : List Event) : Scene := events.foldl step scene

end Scene

end Lectern.Sandbox
