/-
Module: Lectern.Syntax.Node
Purpose: Concrete syntax trees over UTF-8 source text, the walks over them, and where a node stands.
Main exports: Node, Node.child?, Node.hasError, Node.flawed, pushAll, Node.walk, Node.text, Node.position
-/
import Lectern.Syntax.Kind
import Lectern.Text.Utf8

namespace Lectern.Syntax

open Lectern.Text

/--
A node of a concrete syntax tree. Offsets count bytes of the source. Every token of the source is
a node, so the text between two neighbouring children is white space.
-/
structure Node where
  kind : Kind
  /-- Tokens are anonymous; everything else is named. -/
  named : Bool := true
  start : Nat
  stop : Nat
  /-- The role of the node in its parent. -/
  field : Option Field := none
  /-- The grammar required this node and the source does not have it. -/
  missing : Bool := false
  children : List Node := []
  deriving Repr, Inhabited

namespace Node

/-- A named node with nothing below it. -/
def leaf (kind : Kind) (start stop : Nat) : Node :=
  { kind, start, stop }

/-- The children that are not tokens. -/
def namedChildren (node : Node) : List Node :=
  node.children.filter (·.named)

/-- The first child with a role. -/
def child? (node : Node) (field : Field) : Option Node :=
  node.children.find? fun child => child.field == some field

/-- The same node in a role of its new parent. -/
def as (node : Node) (field : Field) : Node :=
  { node with field := some field }

/-- Is this node itself what the reading of the source could not account for? -/
def isFault (node : Node) : Bool :=
  node.missing || node.kind == .error

mutual

/-- Does the tree hold a fault? -/
def hasError : Node → Bool
  | ⟨kind, _, _, _, _, missing, children⟩ => missing || kind == .error || anyError children

/-- Does one of the trees hold a fault? -/
def anyError : List Node → Bool
  | [] => false
  | child :: rest => hasError child || anyError rest

end

/-- The children that hold a fault. -/
def flawed (node : Node) : List Node :=
  node.children.filter (·.hasError)

mutual

/-- How many nodes a tree has. -/
def size : Node → Nat
  | ⟨_, _, _, _, _, _, children⟩ => sizeAll children + 1

/-- How many nodes some trees have. -/
def sizeAll : List Node → Nat
  | [] => 0
  | child :: rest => size child + sizeAll rest

end

theorem size_eq (node : Node) : node.size = sizeAll node.children + 1 := by
  cases node
  rfl

theorem sizeAll_append (front back : List Node) :
    sizeAll (front ++ back) = sizeAll front + sizeAll back := by
  induction front with
  | nil => simp [sizeAll]
  | cons first rest inductionHypothesis => simp [sizeAll, inductionHypothesis, Nat.add_assoc]

@[simp]
theorem sizeAll_reverse (nodes : List Node) : sizeAll nodes.reverse = sizeAll nodes := by
  induction nodes with
  | nil => rfl
  | cons first rest inductionHypothesis =>
      rw [List.reverse_cons, sizeAll_append, inductionHypothesis]
      simp only [sizeAll]
      omega

theorem sizeAll_filter_le (keeps : Node → Bool) (nodes : List Node) :
    sizeAll (nodes.filter keeps) ≤ sizeAll nodes := by
  induction nodes with
  | nil => exact Nat.le_refl _
  | cons first rest inductionHypothesis =>
      rw [List.filter_cons]
      split <;> simp only [sizeAll] <;> omega

end Node

/-- A stack with some entries pushed onto it one after the other: the last one comes to lie on top. -/
def pushAll {α : Type} (stack entries : List α) : List α := entries.reverseAux stack

theorem pushAll_eq {α : Type} (stack entries : List α) :
    pushAll stack entries = entries.reverse ++ stack :=
  List.reverseAux_eq

namespace Node

/-- The children of a node, each with the nodes that it lies in when `around` are those around their
parent. -/
def childVisits (node : Node) (around : List Node) : List (Node × List Node) :=
  node.children.map fun child => (child, node :: around)

/-- The nodes that a walk comes to with a stack of those to come to next, each with the nodes that it
lies in, the innermost first. The children of a node are pushed from the last to the first. -/
def walkFrom : List (Node × List Node) → List (Node × List Node)
  | [] => []
  | (node, around) :: later =>
    (node, around) :: walkFrom (pushAll later (node.childVisits around).reverse)
termination_by stack => sizeAll (stack.map (·.1))
decreasing_by
  have below : (node.childVisits around).map (·.1) = node.children := by
    simp [childVisits, Function.comp_def]
  have here := node.size_eq
  rw [pushAll_eq, List.reverse_reverse, List.map_append, below, sizeAll_append, List.map_cons, sizeAll]
  dsimp only
  omega

/-- All nodes of a tree in the order of a walk, each with the nodes that it lies in. -/
def walk (root : Node) : List (Node × List Node) := walkFrom [(root, [])]

/-- The bytes a node covers. -/
def bytes (source : ByteArray) (node : Node) : ByteArray :=
  Utf8.slice source node.start node.stop

/-- The text a node covers. -/
def text (source : ByteArray) (node : Node) : String :=
  Utf8.read (node.bytes source)

end Node

/-- A place in the source: line and column count from one, and a column counts bytes. -/
structure Position where
  line : Nat
  column : Nat
  deriving DecidableEq, Repr, Inhabited

namespace Position

/-- The place after walking over some bytes. -/
def advance : Position → List UInt8 → Position
  | place, [] => place
  | place, byte :: rest =>
    if byte == 0x0A then advance ⟨place.line + 1, 1⟩ rest
    else advance ⟨place.line, place.column + 1⟩ rest

/-- The place of a byte offset. -/
def ofOffset (source : ByteArray) (offset : Nat) : Position :=
  advance ⟨1, 1⟩ (Utf8.slice source 0 offset).toList

/-- How a diagnostic names a place. -/
def label (place : Position) : String :=
  "Line " ++ toString place.line ++ ":" ++ toString place.column

end Position

/-- The place where a node starts. -/
def Node.position (source : ByteArray) (node : Node) : Position :=
  Position.ofOffset source node.start

end Lectern.Syntax
