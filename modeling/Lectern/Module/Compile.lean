/-
Module: Lectern.Module.Compile
Purpose: Compiling a source into a module that a browser loads on its own. First the source is
  checked and its imports are removed; then types are erased and markup is lowered.
Main exports: Artifact, checkTree, check, compile
-/
import Lectern.Digest.Encoding
import Lectern.Module.Imports
import Lectern.Module.Lowering

namespace Lectern.Module

open Lectern.Syntax Lectern.Text

/-- A compiled module and the hash of the source it was made from. -/
structure Artifact where
  sourceHash : String
  moduleText : String
  deriving DecidableEq, Repr, Inhabited

/-- The word that marks the first line of a compiled module. -/
def headerLabel : String := "lessonforge-module"

/-- The problems of a tree that parses: names that nothing binds and a missing default export. -/
def resolutionDiagnostics (source : ByteArray) (root : Node) : List Diagnostic :=
  unresolvedDiagnostics source root ++
    (if hasDefaultExport source root then [] else [.noDefaultExport])

/-- Check the tree of a source and take its imports out. Where something does not parse, nothing else
is reported. -/
def checkTree (source : ByteArray) (root : Node) : Except CompileFault ByteArray :=
  match treeDiagnostics source root with
  | [] =>
    match resolutionDiagnostics source root with
    | [] => .ok (elideImports source root)
    | diagnostics => .error (.rejected diagnostics)
  | diagnostics => .error (.rejected diagnostics)

/-- Check a source and take its imports out. -/
def check (source : String) : Except CompileFault ByteArray :=
  let bytes := source.toUTF8
  match parse bytes with
  | .error offset => .error (.rejected [unreadDiagnostic bytes offset])
  | .ok root => checkTree bytes root

/-- The first line of a compiled module. -/
def header (digest : String) : String := "// " ++ headerLabel ++ " sha256=" ++ digest

/-- A module text: the header, the banner and the body, which keeps no line breaks at its edges. -/
def moduleText (digest : String) (declared : List String) (body : String) : String :=
  let body := String.ofList (trimWhile (· == '\n') body.toList)
  "\n".intercalate [header digest, banner declared, body] ++ "\n"

/-- Compile a source. The result depends on the source alone. -/
def compile (source : String) : Except CompileFault Artifact := do
  let elided ← check source
  match parse elided with
  | .error _ => .error (.unlowerable .unreadAfterElision)
  | .ok root =>
    match lower elided root with
    | .error fault => .error (.unlowerable fault)
    | .ok body =>
      let digest := Digest.sourceHash source
      .ok ⟨digest, moduleText digest (topLevelNames elided root) (Utf8.read body)⟩

end Lectern.Module
