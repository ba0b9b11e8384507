/-
Module: Lectern.Page.Basic
Purpose: The elements of a page. Elements are held by the page and name each other, so an element
  that moves keeps its place in every list that names it.
Main exports: Element, Page, Page.append, Page.detach, Page.attachShadow, Page.subtree, Page.find
-/

namespace Lectern

/-- An element: its tag, attributes and text, and the elements around it. -/
structure Element where
  tag : String
  attributes : List (String × String) := []
  text : String := ""
  children : List Nat := []
  parent : Option Nat := none
  shadowRoot : Option Nat := none
  deriving DecidableEq, Repr, Inhabited

namespace Element

/-- The value of an attribute. -/
def attribute? (element : Element) (name : String) : Option String :=
  (element.attributes.find? (·.1 == name)).map (·.2)

/-- An element with an attribute. A new attribute comes last, an old one keeps its place. -/
def setAttribute (element : Element) (name value : String) : Element :=
  { element with attributes :=
      if element.attributes.any (·.1 == name) then
        element.attributes.map fun entry => if entry.1 == name then (name, value) else entry
      else element.attributes ++ [(name, value)] }

/-- An element without an attribute. -/
def removeAttribute (element : Element) (name : String) : Element :=
  { element with attributes := element.attributes.filter (·.1 != name) }

end Element

/-- A page: its elements in the order they were made. An element is named by its place. -/
structure Page where
  elements : Array Element := #[]
  deriving DecidableEq, Repr, Inhabited

namespace Page

/-- The element with a name. -/
def get (page : Page) (id : Nat) : Element := page.elements[id]?.getD default

/-- Change the element with a name. -/
def modify (page : Page) (id : Nat) (change : Element → Element) : Page :=
  ⟨page.elements.modify id change⟩

/-- The name that the next new element gets. -/
def nextId (page : Page) : Nat := page.elements.size

/-- Add an element that hangs nowhere. -/
def create (page : Page) (element : Element) : Page × Nat :=
  (⟨page.elements.push element⟩, page.nextId)

/-- Does an element hang under another one? -/
def isConnected (page : Page) (id : Nat) : Bool := (page.get id).parent.isSome

/-- Take an element from its parent, if it has one. -/
def detach (page : Page) (id : Nat) : Page :=
  match (page.get id).parent with
  | none => page
  | some parent =>
    (page.modify parent fun element =>
      { element with children := element.children.erase id }).modify
      id fun element => { element with parent := none }

/-- Hang an element under another one, behind its other children. -/
def append (page : Page) (parent child : Nat) : Page :=
  ((page.detach child).modify child fun element => { element with parent := some parent }).modify
    parent fun element => { element with children := element.children ++ [child] }

/-- The tag of every shadow root. -/
def shadowTag : String := "#shadow-root"

/-- The shadow root of an element, which is made when it is first asked for. -/
def attachShadow (page : Page) (host : Nat) : Page × Nat :=
  match (page.get host).shadowRoot with
  | some root => (page, root)
  | none =>
    let (page, root) := page.create { tag := shadowTag }
    (page.modify host fun element => { element with shadowRoot := some root }, root)

/-- An element and all below it to some depth: shadow trees come before children. -/
def descend (page : Page) : Nat → Nat → List Nat
  | 0, _ => []
  | depth + 1, id =>
    let element := page.get id
    id :: ((element.shadowRoot.toList ++ element.children).flatMap (page.descend depth))

/-- An element and all below it. No path is longer than there are elements. A page is gone through
however deep it is: the limit that the stack of the interpreter sets is left out. -/
def subtree (page : Page) (id : Nat) : List Nat := page.descend page.elements.size id

/-- The elements of a subtree with a tag. -/
def findAll (page : Page) (id : Nat) (tag : String) : List Nat :=
  (page.subtree id).filter fun found => (page.get found).tag == tag

/-- The first element of a subtree with a tag and some attributes. -/
def find (page : Page) (id : Nat) (tag : String) (attributes : List (String × String)) :
    Option Nat :=
  (page.findAll id tag).find? fun found =>
    attributes.all fun (name, value) => (page.get found).attribute? name == some value

end Page

end Lectern
