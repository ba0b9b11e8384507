/-
Module: Lectern.Module.Analysis
Purpose: What is known of a source that parses: the names it binds, those that nothing binds, and
  what taking its imports out leaves.
Main exports: Analysis, Analysis.ofTree, Analysis.toJson
-/
import Lectern.Json.Basic
import Lectern.Module.Compile

namespace Lectern.Module

open Lectern.Syntax

/-- What is known of a source. -/
structure Analysis where
  /-- All names it binds, in order. -/
  declared : List String
  /-- The names it binds outside of all functions and blocks, in order. -/
  topLevel : List String
  unresolved : List Diagnostic
  hasDefaultExport : Bool
  /-- Where its imports stand, by byte offsets. -/
  elision : List (Nat × Nat)
  /-- The source without them. -/
  elided : String

namespace Analysis

/-- What is known of a source with some tree. -/
def ofTree (source : ByteArray) (root : Node) : Analysis where
  declared := nameSet (declaredNames source root)
  topLevel := nameSet (topLevelNames source root)
  unresolved := unresolvedDiagnostics source root
  hasDefaultExport := Module.hasDefaultExport source root
  elision := elisionRanges source root
  elided := Text.Utf8.read (elideImports source root)

/-- An analysis as JSON, with the banner that its module gets. -/
def toJson (analysis : Analysis) : Json :=
  .obj [("declared", Json.textArray analysis.declared),
    ("top_level", Json.textArray analysis.topLevel),
    ("unresolved", Json.textArray (analysis.unresolved.map (·.message))),
    ("default_export", .bool analysis.hasDefaultExport),
    ("elision", .arr (analysis.elision.map fun (start, stop) => .arr [.nat start, .nat stop])),
    ("elided", .str analysis.elided), ("banner", .str (banner analysis.topLevel))]

end Analysis

end Lectern.Module
