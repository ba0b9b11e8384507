/-
Module: Lectern.Module.Imports
Purpose: Taking imports and re-exports out of a module, since the compiled module is fetched alone
  and nothing resolves a dependency for it.
Main exports: isDependency, elisionRanges, elideImports
-/
import Lectern.Syntax.Node

namespace Lectern.Module

open Lectern.Syntax Lectern.Text

/-- Does a statement depend on another module? -/
def isDependency (node : Node) : Bool :=
  node.kind == .importStatement ||
    (node.kind == .exportStatement && (node.child? .source).isSome)

/-- Past one line break at an offset, where there is one. -/
def afterLineBreak (source : ByteArray) (stop : Nat) : Nat :=
  if Utf8.byteAt source stop == 0x0D && Utf8.byteAt source (stop + 1) == 0x0A then stop + 2
  else if Utf8.byteAt source stop == 0x0A then stop + 1
  else stop

/-- The byte ranges of the statements that depend on other modules, each with the line break behind
it. -/
def elisionRanges (source : ByteArray) (root : Node) : List (Nat × Nat) :=
  (root.children.filter isDependency).map fun node =>
    (node.start, afterLineBreak source node.stop)

/-- The bytes from an offset on that lie in none of the ranges. -/
def keepOutside (source : ByteArray) : Nat → List (Nat × Nat) → ByteArray
  | cursor, [] => Utf8.slice source cursor source.size
  | cursor, (start, stop) :: rest =>
    Utf8.slice source cursor start ++ keepOutside source stop rest

/-- The source without its imports and re-exports. -/
def elideImports (source : ByteArray) (root : Node) : ByteArray :=
  keepOutside source 0 (elisionRanges source root)

end Lectern.Module
