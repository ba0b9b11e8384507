/-
Module: Lectern.Page.Tree
Purpose: A subtree of a page as a value of its own, and its text as HTML or JSON.
Main exports: Tree, Tree.render, Tree.toJson, Page.tree, Page.render
-/
import Lectern.Json.Basic
import Lectern.Page.Basic

namespace Lectern

/-- An element with all below it. Of a shadow root only the children are kept. -/
inductive Tree where
  | node (tag : String) (attributes : List (String × String)) (text : String)
      (shadow : Option (List Tree)) (children : List Tree)
  deriving Repr, Inhabited

/-! ## Text -/

namespace Markup

/-- A character of text or of an attribute value. -/
def escapeChar : Char → List Char
  | '&' => "&amp;".toList
  | '<' => "&lt;".toList
  | '>' => "&gt;".toList
  | '\x22' => "&#34;".toList
  | '\'' => "&#39;".toList
  | c => [c]

/-- Text whose special characters are written as references. -/
def escape (text : String) : String := String.ofList (text.toList.flatMap escapeChar)

/-- The text of a script or a style in which no end tag stands: a backslash parts each `<` from the
slash that follows it. -/
def withoutEndTags (text : String) : String :=
  let step := fun (written, last) c =>
    (if last == '<' && c == '/' then '/' :: '\\' :: written else c :: written, c)
  String.ofList (text.toList.foldl step ([], ' ')).1.reverse

/-- The elements whose text is no markup. -/
def rawTextTags : List String := ["script", "style"]

/-- An attribute; one with an empty value is just named. -/
def renderAttribute : String × String → String
  | (name, value) =>
    " " ++ name ++ (if value.isEmpty then "" else "=\x22" ++ escape value ++ "\x22")

/-- The text of an element. -/
def textOf (tag text : String) : String :=
  if rawTextTags.contains tag then withoutEndTags text else escape text

end Markup

/-! ## Trees as text -/

namespace Tree

mutual

/-- A tree as HTML. The shadow tree is a template that comes first. -/
def render : Tree → String
  | .node tag attributes text shadow children =>
    "<" ++ tag ++ String.join (attributes.map Markup.renderAttribute) ++ ">" ++
      renderShadow shadow ++ Markup.textOf tag text ++ renderAll children ++ "</" ++ tag ++ ">"

/-- Trees as HTML, one after the other. -/
def renderAll : List Tree → String
  | [] => ""
  | first :: rest => render first ++ renderAll rest

/-- A shadow tree as a template. -/
def renderShadow : Option (List Tree) → String
  | none => ""
  | some trees =>
    "<template shadowrootmode=\x22open\x22>" ++ renderAll trees ++ "</template>"

end

/-! ## Trees as JSON -/

/-- What an element itself is. Scripts and styles do not show their text. -/
def ownMembers (tag : String) (attributes : List (String × String)) (text : String) :
    List (String × Json) :=
  [("tag", .str tag),
    ("attributes", .obj (attributes.map fun (key, value) => (key, .str value)))] ++
    (if text.isEmpty || Markup.rawTextTags.contains tag then [] else [("text", .str text)])

mutual

/-- A tree as JSON. -/
def toJson : Tree → Json
  | .node tag attributes text shadow children =>
    .obj (ownMembers tag attributes text ++ shadowMembers shadow ++
      [("children", .arr (toJsonAll children))])

/-- Trees as JSON. -/
def toJsonAll : List Tree → List Json
  | [] => []
  | first :: rest => toJson first :: toJsonAll rest

/-- A shadow tree, where there is one. -/
def shadowMembers : Option (List Tree) → List (String × Json)
  | none => []
  | some trees => [("shadow", .arr (toJsonAll trees))]

end

end Tree

namespace Page

/-- The tree below an element to some depth. -/
def treeTo (page : Page) : Nat → Nat → Tree
  | 0, _ => default
  | depth + 1, id =>
    let element := page.get id
    .node element.tag element.attributes element.text
      (element.shadowRoot.map fun root => (page.get root).children.map (page.treeTo depth))
      (element.children.map (page.treeTo depth))

/-- The tree of an element and all below it. -/
def tree (page : Page) (id : Nat) : Tree := page.treeTo (page.elements.size + 1) id

/-- An element and all below it as HTML. -/
def render (page : Page) (id : Nat) : String := (page.tree id).render

end Page

end Lectern
