/-
Module: Lectern.Sandbox.Rehearsal
Purpose: Trying out an executor: each mount comes with what its module and its page will answer, and
  may have to wait for either until that is released.
Main exports: Rehearsal, Rehearsal.Plan, Rehearsal.Step, Rehearsal.take, Rehearsal.toJson
-/
import Lectern.Sandbox.Executor

namespace Lectern.Sandbox

/-- What a mount waits for. -/
inductive Wait where
  | fetch
  | load
  deriving DecidableEq, Repr, Inhabited

namespace Rehearsal

/-- A mount: its bundle, what it is answered and what it is held at. -/
structure Plan where
  bundle : Bundle
  moduleText : Except Failure String
  page : Except Failure Unit := .ok ()
  held : List Wait := []

/-- A step. -/
inductive Step where
  | mount (plan : Plan)
  | release (number : Nat) (wait : Wait)
  | unmount
  | report (version : Int) (message : String)
  | settle

end Rehearsal

/-- An executor that is tried out. Each mount stands with its version. -/
structure Rehearsal where
  scene : Scene
  mounts : List (Nat × Rehearsal.Plan) := []
  released : List (Nat × Wait) := []

namespace Rehearsal

/-- A page whose body holds the host of a lesson. -/
def opening (settings : SandboxSettings) : Rehearsal :=
  let (page, body) := Page.create {} { tag := "body" }
  let (page, host) := page.create { tag := "div", attributes := [("id", "lesson")] }
  { scene := {
      executor := { host, settings }
      around := { page := page.append body host, registry := .ofBase settings.resourceBase } } }

/-- The body of the page. -/
def body : Nat := 0

/-- Must a mount still wait? -/
def waits (rehearsal : Rehearsal) (number : Nat) (plan : Plan) (wait : Wait) : Bool :=
  plan.held.contains wait && !rehearsal.released.contains (number, wait)

/-- Let a mount go on as far as it can. -/
def advance (rehearsal : Rehearsal) (number : Nat) : Rehearsal :=
  match rehearsal.mounts[number - 1]? with
  | none => rehearsal
  | some (version, plan) =>
    if rehearsal.waits number plan .fetch then rehearsal
    else
      let scene := rehearsal.scene.fetched version plan.moduleText
      let scene := if rehearsal.waits number plan .load then scene
        else scene.loaded version plan.page
      { rehearsal with scene }

/-- Take down all that unmounts left. -/
def settle (rehearsal : Rehearsal) : Rehearsal :=
  { rehearsal with scene :=
      rehearsal.scene.executor.teardowns.foldl (fun scene _ => scene.teardown) rehearsal.scene }

/-- Take a step, and let all go on that can. An unmount alone leaves its teardown for later. -/
def take (rehearsal : Rehearsal) : Step → Rehearsal
  | .mount plan =>
    let rehearsal := rehearsal.settle
    let scene := rehearsal.scene.begin plan.bundle
    let mounts := rehearsal.mounts ++ [(scene.executor.version, plan)]
    { rehearsal with scene, mounts }.advance mounts.length
  | .release number wait =>
    let rehearsal := rehearsal.settle
    { rehearsal with released := (number, wait) :: rehearsal.released }.advance number
  | .unmount => { rehearsal with scene := rehearsal.scene.unmount }
  | .report version message =>
    { rehearsal with scene := rehearsal.scene.report version message }.settle
  | .settle => rehearsal.settle

/-- What became of a mount: nothing yet, a session or none. -/
def outcome (rehearsal : Rehearsal) (version : Nat) : Option Bool :=
  match rehearsal.scene.executor.phase? version with
  | some (.finished mounted) => some mounted
  | _ => none

/-- What became of a mount as JSON: it is pending, it gave a session of its version, or none. -/
def outcomeJson (rehearsal : Rehearsal) (version : Nat) : Json :=
  match rehearsal.outcome version with
  | none => .str "pending"
  | some true => .nat version
  | some false => .null

/-- The state of a rehearsal. -/
def toJson (rehearsal : Rehearsal) : List (String × Json) :=
  let ⟨executor, around⟩ := rehearsal.scene
  [("version", .nat executor.version),
    ("session", (executor.current?.map MountSession.toJson).getD .null),
    ("last_error", (executor.lastError.map MountError.toJson).getD .null),
    ("live", Json.textArray around.registry.handles),
    ("mounts", .obj (rehearsal.mounts.zipIdx.map fun ((version, _), index) =>
      (toString (index + 1), rehearsal.outcomeJson version))),
    ("tree", (around.page.tree executor.host).toJson)]

end Rehearsal

end Lectern.Sandbox
