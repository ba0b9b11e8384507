/-
Module: Lectern.Sandbox.Session
Purpose: Handles for content that is held in memory, and what one mount holds: the elements it hung
  into the page and the handles it was given. A handle gives its content until it is revoked, and no
  handle is given out twice. All that a mount holds is let go at once.
Main exports: Registry, Registry.create, Registry.resource?, Registry.revoke, Surroundings, Session,
  Session.mint, Session.attach, Session.dispose
-/
import Lectern.Page.Basic
import Lectern.Text.Blank
import Lectern.Text.Identifier

namespace Lectern.Sandbox

/-! ## Handles -/

/-- Content that is held in memory, and its media type. -/
structure Resource where
  content : String
  mediaType : String
  deriving DecidableEq, Repr, Inhabited

/-- The live handles with their resources, and how many handles were given out. -/
structure Registry where
  base : String
  live : List (String × Resource) := []
  minted : Nat := 0
  deriving DecidableEq, Repr, Inhabited

/-- What handles start with if nothing else is asked for. -/
def defaultBase : String := "blob:lessonforge"

namespace Registry

/-- An empty registry whose handles start with a base; slashes at the end of the base do not
count. -/
def ofBase (base : String) : Registry where
  base := String.ofList (Text.dropEndWhile (· == '/') base.toList)

/-- The handle with a number. -/
def handle (registry : Registry) (number : Nat) : String :=
  registry.base ++ "/" ++ Identifier.grouped number

/-- Hold content under a new handle. -/
def create (registry : Registry) (content mediaType : String) : Registry × String :=
  let number := registry.minted + 1
  let handle := registry.handle number
  ({ registry with live := registry.live ++ [(handle, ⟨content, mediaType⟩)], minted := number },
    handle)

/-- What is held under a handle. -/
def resource? (registry : Registry) (handle : String) : Option Resource :=
  (registry.live.find? (·.1 == handle)).map (·.2)

/-- Is a handle live? -/
def isLive (registry : Registry) (handle : String) : Bool := registry.live.any (·.1 == handle)

/-- Let a handle go. One that is not live stays so. -/
def revoke (registry : Registry) (handle : String) : Registry :=
  { registry with live := registry.live.filter (·.1 != handle) }

/-- The live handles in the order they were given out. -/
def handles (registry : Registry) : List String := registry.live.map (·.1)

/-- How many handles are live. -/
def size (registry : Registry) : Nat := registry.live.length

end Registry

/-! ## Mounts -/

/-- What mounts share: the page and the registry of handles. -/
structure Surroundings where
  page : Page := {}
  registry : Registry
  deriving DecidableEq, Repr, Inhabited

/-- What one mount holds, and what is to be done once that is let go. -/
structure Session (Task : Type) where
  version : Nat
  handles : List String := []
  nodes : List Nat := []
  afterwards : List Task := []
  disposed : Bool := false
  deriving DecidableEq, Repr, Inhabited

namespace Session

variable {Task : Type}

/-- Hold content under a new handle of the session. -/
def mint (session : Session Task) (around : Surroundings) (content mediaType : String) :
    Session Task × Surroundings × String :=
  let (registry, handle) := around.registry.create content mediaType
  ({ session with handles := session.handles ++ [handle] }, { around with registry }, handle)

/-- Hang a new element of the session under an element of the page. -/
def attach (session : Session Task) (around : Surroundings) (parent : Nat) (element : Element) :
    Session Task × Surroundings × Nat :=
  let (page, node) := around.page.create element
  ({ session with nodes := session.nodes ++ [node] },
    { around with page := page.append parent node }, node)

/-- Remember what is to be done once the session is let go. -/
def onDispose (session : Session Task) (task : Task) : Session Task :=
  { session with afterwards := session.afterwards ++ [task] }

/-- Take the elements of the session from the page, the last one first, and revoke its handles. -/
def release (session : Session Task) (around : Surroundings) : Surroundings where
  page := session.nodes.reverse.foldl Page.detach around.page
  registry := session.handles.foldl Registry.revoke around.registry

/-- Let go of all that the session holds. The tasks that are due come with the result; a session
that was let go before has none. -/
def dispose (session : Session Task) (around : Surroundings) :
    Session Task × Surroundings × List Task :=
  if session.disposed then (session, around, [])
  else ({ session with disposed := true }, session.release around, session.afterwards)

end Session

end Lectern.Sandbox
