/-
Module: Lectern.Module.Lowering
Purpose: Turning a typed module with markup into plain JavaScript. What a browser can run is copied
  byte for byte; type syntax is erased and markup becomes calls of the UI library. The lowering is
  a fold: what becomes of a node is computed from what becomes of its children by one rule.
Main exports: isErased, Rendering, render, lowerTree, lower
-/
import Lectern.Module.Diagnostic
import Lectern.Module.MarkupText
import Lectern.Text.LowerCase

namespace Lectern.Module

open Lectern.Syntax Lectern.Text

/-! ## What is erased and what is refused -/

/-- The categories that are erased with everything below them. -/
def erasedKinds : List Kind :=
  [.typeMark, .typeParameters, .typeArguments, .typePredicateMark, .assertsMark,
    .interfaceDeclaration, .typeAliasDeclaration, .ambientDeclaration, .functionSignature,
    .methodSignature, .abstractMethodSignature, .indexSignature, .implementsClause,
    .accessibilityModifier, .overrideModifier]

/-- The parents under which a token is erased. -/
def erasedTokenParents : String → List Kind
  | "?" => [.optionalParameter, .publicFieldDefinition, .methodDefinition]
  | "!" => [.variableDeclarator, .publicFieldDefinition]
  | "readonly" => [.publicFieldDefinition]
  | "declare" => [.publicFieldDefinition]
  | "abstract" => [.abstractClassDeclaration, .publicFieldDefinition]
  | _ => []

/-- Is a child erased under a parent of a category? -/
def isErased (parent : Kind) (child : Node) : Bool :=
  erasedKinds.contains child.kind ||
    (!child.named && (erasedTokenParents child.kind.name).contains parent)

/-- Where no token of its name is erased, a node is erased exactly if its category is. -/
theorem isErased_of_kind {parent : Kind} {node : Node}
    (free : erasedTokenParents node.kind.name = []) :
    isErased parent node = erasedKinds.contains node.kind := by
  simp [isErased, free]

/-- Declarations that only exist for types. -/
def typeOnlyKinds : List Kind :=
  [.interfaceDeclaration, .typeAliasDeclaration, .ambientDeclaration, .functionSignature]

/-- Does an export statement export types alone? -/
def isTypeOnlyExport (node : Node) : Bool :=
  ((node.child? .declaration).any fun inner => typeOnlyKinds.contains inner.kind) ||
    node.children.any fun child => child.kind == .lexeme "type" && !child.named

/-- The construct a category stands for, when it is one that cannot be lowered. -/
def unsupportedConstruct : Kind → Option Construct
  | .enumDeclaration => some .enumeration
  | .namespaceDeclaration => some .namespaceBlock
  | .moduleDeclaration => some .moduleBlock
  | .decorator => some .decorator
  | _ => none

/-- Does a part of a parameter make it a property of its class? -/
def isParameterModifier (kind : Kind) : Bool :=
  kind == .accessibilityModifier || kind == .overrideModifier || kind == .lexeme "readonly"

/-- Elements, which become calls. -/
def isElement (kind : Kind) : Bool :=
  kind == .jsxElement || kind == .jsxSelfClosingElement || kind == .jsxFragment

/-! ## Rendering -/

/-- Code, or why there is none. -/
abbrev Code := Except LoweringFault ByteArray

/-- What becomes of a node in the places where it can stand. -/
structure Rendering where
  /-- As code. -/
  code : Code
  /-- Of a container in markup, the expression in it; of an attribute, its property. -/
  entry : Except LoweringFault (Option ByteArray)
  /-- Of a tag, the properties it gives. -/
  properties : Code

/-- A node with what becomes of it. -/
structure Rendered where
  node : Node
  rendering : Rendering

/-- ASCII text as bytes. -/
def ascii (text : String) : ByteArray := text.toUTF8

/-- Byte strings with a separator between. -/
def joinBytes (separator : ByteArray) : List ByteArray → ByteArray
  | [] => ByteArray.empty
  | [piece] => piece
  | piece :: rest => piece ++ separator ++ joinBytes separator rest

/-- Copy a node from an offset on, with its children replaced by what becomes of them. -/
def copyFrom (source : ByteArray) (parent : Node) : Nat → List Rendered → Code
  | cursor, [] => .ok (Utf8.slice source cursor parent.stop)
  | cursor, child :: rest => do
    let gap := Utf8.slice source cursor child.node.start
    let code ← if isErased parent.kind child.node then pure ByteArray.empty
      else child.rendering.code
    let tail ← copyFrom source parent child.node.stop rest
    return gap ++ code ++ tail

/-- Copy a node with its children replaced by what becomes of them. -/
def copy (source : ByteArray) (node : Node) (children : List Rendered) : Code :=
  copyFrom source node node.start children

/-- The function that makes an element. -/
def elementFactory : String := hostObject ++ ".createElement"

/-- The type of an element without a tag name. -/
def fragmentType : String := hostObject ++ ".Fragment"

/-- The type a tag name stands for: the name of a built-in element as a string, else the name. -/
def elementType (source : ByteArray) (name : Node) : ByteArray :=
  let text := name.text source
  let isPlain := match text.toList with
    | first :: _ => isLowerCase first || text.toList.contains '-'
    | [] => false
  if name.kind == .jsxNamespaceName || (name.kind == .identifier && isPlain) then
    (Quoted.ascii text.toList).toUTF8
  else name.bytes source

/-- Can a text stand as a property name without quotes? -/
def isPlainKey : List Char → Bool
  | [] => false
  | first :: rest =>
    let isStart := fun c =>
      ('a' ≤ c && c ≤ 'z') || ('A' ≤ c && c ≤ 'Z') || c == '_' || c == '$'
    isStart first && rest.all fun c => isStart c || ('0' ≤ c && c ≤ '9')

/-- The name of a property as it stands in an object. -/
def propertyKey (text : String) : String :=
  if isPlainKey text.toList then text else Quoted.ascii text.toList

/-- The expression of a container in markup; a sequence gets parentheses of its own. -/
def containerEntry (children : List Rendered) : Except LoweringFault (Option ByteArray) :=
  match children.find? fun child => child.node.named && child.node.kind != .comment with
  | none => .ok none
  | some inner => do
    let code ← inner.rendering.code
    if inner.node.kind == .sequenceExpression then return some (ascii "(" ++ code ++ ascii ")")
    else return some code

/-- The text of a string between quotes, with its references replaced. -/
def quotedText (source : ByteArray) (string : Node) : Except LoweringFault (List Char) :=
  match References.unescape ((string.text source).toList.drop 1).dropLast with
  | .ok text => .ok text
  | .error overlong => .error (.overlongReference overlong)

/-- The property an attribute gives. -/
def attributeEntry (source : ByteArray) (children : List Rendered) :
    Except LoweringFault (Option ByteArray) :=
  match children.filter fun child => child.node.named && child.node.kind != .comment with
  | [] => .ok none
  | [name] => .ok (some (ascii (propertyKey (name.node.text source) ++ ": true")))
  | name :: value :: _ => do
    let front := ascii (propertyKey (name.node.text source) ++ ": ")
    if value.node.kind == .stringLiteral then
      return some (front ++ (Quoted.ascii (← quotedText source value.node)).toUTF8)
    else if value.node.kind == .jsxExpression then
      match ← value.rendering.entry with
      | some code => return some (front ++ code)
      | none => .error (.emptyAttribute (value.node.position source))
    else return some (front ++ (← value.rendering.code))

/-- The properties a tag gives, in order. -/
def tagEntries : List Rendered → Except LoweringFault (List ByteArray)
  | [] => .ok []
  | child :: rest => do
    if child.node.named &&
        (child.node.kind == .jsxAttribute || child.node.kind == .jsxExpression) then
      let entry ← child.rendering.entry
      return entry.toList ++ (← tagEntries rest)
    else tagEntries rest

/-- The properties a tag gives, as an object. -/
def tagProperties (children : List Rendered) : Code := do
  match ← tagEntries children with
  | [] => return ascii "null"
  | entries => return ascii "\x7b" ++ joinBytes (ascii ", ") entries ++ ascii "\x7d"

/-- The literal for the text between two offsets, where there is one. -/
def gapLiteral (source : ByteArray) (start stop : Nat) : Except LoweringFault (List ByteArray) :=
  match MarkupText.literal? (Utf8.read (Utf8.slice source start stop)).toList with
  | .ok (some literal) => .ok [literal.toUTF8]
  | .ok none => .ok []
  | .error overlong => .error (.overlongReference overlong)

/-- The children of an element in order: text in the gaps, nested elements and expressions. -/
def elementChildren (source : ByteArray) (stop : Nat) :
    Nat → List Rendered → Except LoweringFault (List ByteArray)
  | cursor, [] => gapLiteral source cursor stop
  | cursor, child :: rest => do
    if isElement child.node.kind then
      let literal ← gapLiteral source cursor child.node.start
      let code ← child.rendering.code
      let tail ← elementChildren source stop child.node.stop rest
      return literal ++ code :: tail
    else if child.node.kind == .jsxExpression then
      let literal ← gapLiteral source cursor child.node.start
      let entry ← child.rendering.entry
      let tail ← elementChildren source stop child.node.stop rest
      return literal ++ entry.toList ++ tail
    else elementChildren source stop cursor rest

/-- A call that makes an element. -/
def elementCall (type properties : ByteArray) (children : List ByteArray) : ByteArray :=
  ascii (elementFactory ++ "(") ++ joinBytes (ascii ", ") (type :: properties :: children) ++
    ascii ")"

/-- The call that a tag and the children of its element make. -/
def tagCall (source : ByteArray) (tag : Node) (properties : Code) (children : List ByteArray) :
    Code := do
  let type := match tag.child? .name with
    | some name => elementType source name
    | none => ascii fragmentType
  return elementCall type (← properties) children

/-- The call an element becomes. -/
def elementCode (source : ByteArray) (node : Node) (children : List Rendered) : Code :=
  match node.kind with
  | .jsxSelfClosingElement => tagCall source node (tagProperties children) []
  | .jsxFragment => do
    -- Five tokens surround the children of a fragment: two in front and three behind.
    let start := (children[1]?.map (·.node.stop)).getD node.start
    let stop := (children[children.length - 3]?.map (·.node.start)).getD node.stop
    let inner ← elementChildren source stop start ((children.drop 2).take (children.length - 5))
    return elementCall (ascii fragmentType) (ascii "null") inner
  | _ =>
    match children.head?, children.getLast? with
    | some opening, some closing => do
      let inner ← elementChildren source closing.node.start opening.node.stop
        (children.drop 1).dropLast
      tagCall source opening.node opening.rendering.properties inner
    | _, _ => copy source node children

/-- The code a node becomes. -/
def nodeCode (source : ByteArray) (node : Node) (children : List Rendered) : Code :=
  match unsupportedConstruct node.kind with
  | some construct => .error (.unsupported (node.position source) construct)
  | none =>
    match node.kind with
    | .exportStatement =>
      if isTypeOnlyExport node then .ok ByteArray.empty else copy source node children
    | .requiredParameter | .optionalParameter =>
      if node.children.any fun child => isParameterModifier child.kind then
        .error (.parameterProperty (node.position source))
      else copy source node children
    | .asExpression | .satisfiesExpression | .nonNullExpression =>
      match children.find? (·.node.named) with
      | some inner => inner.rendering.code
      | none => .ok ByteArray.empty
    | .jsxElement | .jsxSelfClosingElement | .jsxFragment => elementCode source node children
    | _ => copy source node children

/-- What becomes of a node whose children have been rendered. -/
def assemble (source : ByteArray) (node : Node) (children : List Rendered) : Rendering where
  code := nodeCode source node children
  entry :=
    if node.kind == .jsxExpression then containerEntry children
    else if node.kind == .jsxAttribute then attributeEntry source children
    else .ok none
  properties := tagProperties children

/-- What becomes of a node that lies too deep. -/
def Rendering.tooDeep : Rendering :=
  ⟨.error .nestedTooDeeply, .error .nestedTooDeeply, .error .nestedTooDeeply⟩

mutual

/-- What becomes of a node that may hold `depth` further levels of nodes. -/
def render (source : ByteArray) (depth : Nat) : Node → Rendering
  | ⟨kind, named, start, stop, field, missing, children⟩ =>
    match depth with
    | 0 => .tooDeep
    | depth + 1 =>
      assemble source ⟨kind, named, start, stop, field, missing, children⟩
        (renderAll source depth children)

/-- What becomes of some nodes. -/
def renderAll (source : ByteArray) (depth : Nat) : List Node → List Rendered
  | [] => []
  | child :: rest => ⟨child, render source depth child⟩ :: renderAll source depth rest

end

/-! ## Modules -/

/-- How many levels of nodes are lowered at most. The number stands for the limit of a thousand frames
that the interpreter sets: a level takes two of them, and the caller has some, so that the true limit
moves with the depth from which a lowering is called. -/
def maxDepth : Nat := 480

/-- The module a tree over a source becomes. -/
def lowerTree (source : ByteArray) (root : Node) : Code := do
  let body ← (render source maxDepth root).code
  return Utf8.slice source 0 root.start ++ body ++ Utf8.slice source root.stop source.size

/-- The module a tree over a source becomes, once it is known to be one. -/
def lower (source : ByteArray) (root : Node) : Code := do
  let output ← lowerTree source root
  match parse output with
  | .ok _ => return output
  | .error offset => .error (.unreadOutput [unreadDiagnostic output offset])

end Lectern.Module
