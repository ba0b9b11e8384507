/-
Module: Lectern.Module.Names
Purpose: The names a module binds and the names it refers to, read off its syntax tree.
Main exports: boundNames, declaredNames, topLevelNames, nameSet, unresolvedNames, hasDefaultExport
-/
import Lectern.Module.Host
import Lectern.Syntax.Node

namespace Lectern.Module

open Lectern.Syntax

/-! ## Patterns -/

/-- The leaves of a pattern that introduce a name. -/
def isBindingLeaf (kind : Kind) : Bool :=
  kind == .identifier || kind == .shorthandPropertyIdentifierPattern

/-- A part of a pattern that binds nothing: a default value, or the key of a property. -/
def isPatternAside (parent : Kind) (field : Option Field) : Bool :=
  field == some .right || (field == some .key && parent == .pairPattern)

/-- The parts of a pattern that may introduce names. -/
def bindingParts (pattern : Node) : List Node :=
  pattern.children.filter fun child => !isPatternAside pattern.kind child.field

/-- The leaves that introduce names in the patterns on a stack. The parts of a pattern are pushed from
the first to the last, and what lies below a leaf is not looked at. -/
def leavesFrom : List Node → List Node
  | [] => []
  | node :: later =>
    if isBindingLeaf node.kind then node :: leavesFrom later
    else leavesFrom (pushAll later (bindingParts node))
termination_by stack => Node.sizeAll stack
decreasing_by
  · rw [Node.sizeAll, Node.size_eq]
    omega
  · have fewer : Node.sizeAll (bindingParts node) ≤ Node.sizeAll node.children :=
      Node.sizeAll_filter_le _ _
    rw [pushAll_eq, Node.sizeAll_append, Node.sizeAll_reverse, Node.sizeAll, Node.size_eq]
    omega

/-- The names a binding pattern introduces. -/
def boundNames (source : ByteArray) (pattern : Node) : List String :=
  (leavesFrom [pattern]).map (·.text source)

/-! ## Declarations -/

/-- The categories whose `name` is a binding. -/
def isNamedDeclaration (kind : Kind) : Bool :=
  [Kind.functionDeclaration, .generatorFunctionDeclaration, .functionExpression,
    .classDeclaration, .classExpression, .abstractClassDeclaration].contains kind

/-- The role that holds the pattern a node binds. -/
def patternField : Kind → Option Field
  | .variableDeclarator => some .name
  | .requiredParameter => some .pattern
  | .optionalParameter => some .pattern
  | .catchClause => some .parameter
  | .forInStatement => some .left
  | _ => none

/-- The names that a node by itself introduces. -/
def namesOf (source : ByteArray) (node : Node) : List String :=
  if isNamedDeclaration node.kind then
    ((node.child? .name).map (·.text source)).toList
  else
    match patternField node.kind with
    | some field => ((node.child? field).map (boundNames source)).getD []
    | none =>
      if node.kind = .arrowFunction then
        ((node.child? .parameter).map (·.text source)).toList
      else []

/-- All names bound anywhere in a module, whatever their scope. Imports are not counted: they do
not reach the compiled module. -/
def declaredNames (source : ByteArray) (root : Node) : List String :=
  root.walk.flatMap fun visit => namesOf source visit.1

/-- The categories of declarations that bind at module level. -/
def isTopLevelDeclaration (kind : Kind) : Bool :=
  [Kind.functionDeclaration, .generatorFunctionDeclaration, .classDeclaration,
    .abstractClassDeclaration, .lexicalDeclaration, .variableDeclaration].contains kind

/-- The names that a declaration at module level introduces. -/
def declarationNames (source : ByteArray) (node : Node) : List String :=
  if !isTopLevelDeclaration node.kind then []
  else
    match node.child? .name with
    | some name => [name.text source]
    | none => node.namedChildren.flatMap fun declarator =>
        if declarator.kind = .variableDeclarator then
          ((declarator.child? .name).map (boundNames source)).getD []
        else []

/-- The names declared directly at module level, exported or not. -/
def topLevelNames (source : ByteArray) (root : Node) : List String :=
  root.namedChildren.flatMap fun node =>
    if node.kind = .exportStatement then
      ((node.child? .declaration).map (declarationNames source)).getD []
    else declarationNames source node

/-- Names as a set: each once, in the order of their characters. -/
def nameSet (names : List String) : List String :=
  (names.mergeSort fun a b => !(b < a)).eraseReps

/-! ## References -/

/-- Does this leaf refer to a name? -/
def isReference (node : Node) : Bool :=
  node.kind == .identifier || node.kind == .shorthandPropertyIdentifier

/-- Does a node lie in one of a category, with some nodes around it? -/
def liesInside (kind : Kind) (around : List Node) : Bool :=
  around.any (·.kind == kind)

/-- The first reference to each unbound member, imports aside, that nothing declares; `seen` are the
members that have been reported before. -/
def reportUnresolved (source : ByteArray) (declared : List String) :
    List String → List (Node × List Node) → List (Node × String)
  | _, [] => []
  | seen, (node, around) :: later =>
    let name := node.text source
    if isReference node && isUnboundMember name && !declared.contains name && !seen.contains name &&
        !liesInside .importStatement around then
      (node, name) :: reportUnresolved source declared (name :: seen) later
    else reportUnresolved source declared seen later

/-- The members of the UI library that a module refers to and that nothing binds, each with its
first reference. -/
def unresolvedNames (source : ByteArray) (root : Node) : List (Node × String) :=
  reportUnresolved source (declaredNames source root) [] root.walk

/-! ## Exports -/

/-- Does a specifier export something as the default? -/
def exportsAsDefault (source : ByteArray) (specifier : Node) : Bool :=
  match specifier.child? .alias with
  | some name => name.text source == "default"
  | none => false

/-- Does a statement export a default? -/
def isDefaultExport (source : ByteArray) (node : Node) : Bool :=
  node.kind == .exportStatement &&
    (node.children.any (·.kind == .lexeme "default") ||
      node.namedChildren.any fun clause =>
        clause.kind == .exportClause && clause.namedChildren.any (exportsAsDefault source))

/-- Does a module have a default export? -/
def hasDefaultExport (source : ByteArray) (root : Node) : Bool :=
  root.namedChildren.any (isDefaultExport source)

end Lectern.Module
