/-
Module: Lectern.Sandbox.Isolation
Purpose: What a mount hangs into the page: a frame with a document of its own, or elements in the
  shadow root of the host.
Main exports: LoadedModule, Marker, MountSession, acquire
-/
import Lectern.Sandbox.Document
import Lectern.Sandbox.Session
import Lectern.Settings.Basic

namespace Lectern.Sandbox

/-- A module that may be mounted, and the style that goes with it. -/
structure LoadedModule where
  moduleText : String
  styleText : String
  deriving DecidableEq, Repr, Inhabited

/-- That the host of a mount names its version. -/
structure Marker where
  version : Nat
  deriving DecidableEq, Repr, Inhabited

/-- What a mount on the page holds. A marker it set is taken back with it. -/
abbrev MountSession := Session Marker

/-- The attribute of a host that names its newest live mount. -/
def markerName : String := "data-lf-mount"

/-- What a frame may do: run scripts, and see what is of its own origin. -/
def framePermissions : String := "allow-scripts allow-same-origin"

/-- The frame of a mount. -/
def frameElement (settings : SandboxSettings) (documentHandle : String) (version : Nat) :
    Element where
  tag := "iframe"
  attributes := [
    ("src", documentHandle),
    ("sandbox", framePermissions),
    ("referrerpolicy", "no-referrer"),
    ("title", "Interactive lesson"),
    (markerName, toString version),
    ("style", "width:100%;height:" ++ toString settings.frameHeightPx ++ "px;border:0")]

/-- Mount a module in a frame of its own. -/
def acquireFrame (settings : SandboxSettings) (host : Nat) (content : LoadedModule)
    (version : Nat) (around : Surroundings) : MountSession × Surroundings :=
  let session : MountSession := { version }
  let (session, around, moduleHandle) := session.mint around content.moduleText "text/javascript"
  let document : FrameDocument := {
    runtimeScriptUrl := settings.runtimeScriptUrl
    domScriptUrl := settings.domScriptUrl
    styleText := content.styleText
    moduleHandle
    mountVersion := version }
  let (session, around, documentHandle) := session.mint around document.render "text/html"
  let (session, around, _) :=
    session.attach around host (frameElement settings documentHandle version)
  (session, around)

/-- The elements of a mount in a shadow root that stand before its script. -/
def shadowElements (styleText : String) (version : Nat) : List Element := [
  { tag := "style", attributes := [("data-lf-preset", presetVersion)], text := presetStyle },
  { tag := "style", attributes := [("data-lf-bundle", "")], text := styleText },
  { tag := "div", attributes := [("id", "lf-host"), ("data-lf-version", toString version)] },
  { tag := "div", attributes := [("id", "lf-portal-root"), ("data-lf-version", toString version)] }]

/-- Mount a module in the shadow root of its host, which is made if there is none. -/
def acquireShadow (host : Nat) (content : LoadedModule) (version : Nat) (around : Surroundings) :
    MountSession × Surroundings :=
  let (page, root) := around.page.attachShadow host
  let around := { around with page }
  let session : MountSession := { version }
  let (session, around, moduleHandle) := session.mint around content.moduleText "text/javascript"
  let (session, around) := (shadowElements content.styleText version).foldl
    (fun (session, around) element =>
      let (session, around, _) := session.attach around root element
      (session, around)) (session, around)
  let page := around.page.modify host (·.setAttribute markerName (toString version))
  let session := session.onDispose ⟨version⟩
  let script : Element := {
    tag := "script"
    attributes := [("type", "module")]
    text := bootstrapScript moduleHandle version }
  let (session, around, _) := session.attach { around with page } root script
  (session, around)

/-- Mount a module on its host, as the settings say. -/
def acquire (settings : SandboxSettings) (host : Nat) (content : LoadedModule) (version : Nat)
    (around : Surroundings) : MountSession × Surroundings :=
  match settings.isolation with
  | .frame => acquireFrame settings host content version around
  | .shadow => acquireShadow host content version around

end Lectern.Sandbox
