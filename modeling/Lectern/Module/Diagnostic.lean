/-
Module: Lectern.Module.Diagnostic
Purpose: What can be wrong with a source, and how it is said.
Main exports: Diagnostic, Diagnostic.message, treeDiagnostics, unresolvedDiagnostics, LoweringFault,
  CompileFault, CompileFault.breaksOff
-/
import Lectern.Module.Names
import Lectern.Number.Binary
import Lectern.Syntax.Parse
import Lectern.Text.Blank

namespace Lectern.Module

open Lectern.Syntax Lectern.Text

/-- A problem found before a source is lowered. -/
inductive Diagnostic where
  /-- The grammar requires something here that the source does not have. -/
  | missing (place : Position) (what : String)
  /-- The grammar has no place for this. -/
  | unexpected (place : Position) (token : String)
  /-- A member of the UI library is used and nothing binds it. -/
  | unresolved (place : Position) (name : String)
  /-- Nothing is exported as the default. -/
  | noDefaultExport
  deriving DecidableEq, Repr, Inhabited

/-- The text of a diagnostic. -/
def Diagnostic.message : Diagnostic → String
  | .missing place what => place.label ++ ": Missing '" ++ what ++ "'"
  | .unexpected place token => place.label ++ ": Unexpected token '" ++ token ++ "'"
  | .unresolved place name => place.label ++ ": Cannot find name '" ++ name ++ "'."
  | .noDefaultExport => "Module has no default export."

/-- How many syntax problems are reported at most. -/
def maxSyntaxErrors : Nat := 10

/-- The part of some text that a diagnostic quotes: the start of its first line. -/
def quotedToken (text : String) : String :=
  String.ofList (((trim text.toList).takeWhile (· != '\n')).take 20)

/-- What is wrong at a fault of a tree. -/
def faultDiagnostic (source : ByteArray) (node : Node) : Diagnostic :=
  if node.missing then .missing (node.position source) node.kind.name
  else .unexpected (node.position source) (quotedToken (node.text source))

/-- The problems found so far and those of the nodes that are still to be looked at, the next one
first. A fault is reported and not gone into, and the search ends once enough is found. -/
def searchFaults (source : ByteArray) (found : List Diagnostic) : List Node → List Diagnostic
  | [] => found
  | node :: later =>
    if found.length < maxSyntaxErrors then
      if node.isFault then searchFaults source (found ++ [faultDiagnostic source node]) later
      else searchFaults source found (node.flawed ++ later)
    else found
termination_by later => Node.sizeAll later
decreasing_by
  · rw [Node.sizeAll, Node.size_eq]
    omega
  · have fewer : Node.sizeAll node.flawed ≤ Node.sizeAll node.children :=
      Node.sizeAll_filter_le _ _
    rw [Node.sizeAll_append, Node.sizeAll, Node.size_eq]
    omega

/-- The first problems of a tree. -/
def treeDiagnostics (source : ByteArray) (root : Node) : List Diagnostic :=
  searchFaults source [] [root]

/-- What is wrong with the members of the UI library that nothing binds, one problem for each. -/
def unresolvedDiagnostics (source : ByteArray) (root : Node) : List Diagnostic :=
  (unresolvedNames source root).map fun (node, name) => .unresolved (node.position source) name

/-- What is wrong with a source that the grammar could not be read into. -/
def unreadDiagnostic (source : ByteArray) (offset : Nat) : Diagnostic :=
  .unexpected (Position.ofOffset source offset)
    (quotedToken (Utf8.read (Utf8.slice source offset source.size)))

/-- A construct that has no counterpart in plain JavaScript. -/
inductive Construct where
  | enumeration
  | namespaceBlock
  | moduleBlock
  | decorator
  deriving DecidableEq, Repr, Inhabited

/-- How a construct is called. -/
def Construct.label : Construct → String
  | .enumeration => "enum declarations"
  | .namespaceBlock => "namespace declarations"
  | .moduleBlock => "module declarations"
  | .decorator => "decorators"

/-- Why a module cannot be lowered. -/
inductive LoweringFault where
  | unsupported (place : Position) (construct : Construct)
  | parameterProperty (place : Position)
  | emptyAttribute (place : Position)
  | nestedTooDeeply
  /-- A reference in text or in an attribute names its character by a number too long to be read. -/
  | overlongReference (overlong : Number.Overlong)
  /-- Without its imports the source is no module any more. -/
  | unreadAfterElision
  /-- What the lowering made of the source is no module. -/
  | unreadOutput (diagnostics : List Diagnostic)
  deriving DecidableEq, Repr, Inhabited

/-- The texts of a lowering fault. -/
def LoweringFault.messages : LoweringFault → List String
  | .unsupported place construct => [place.label ++ ": " ++ construct.label ++ " are not supported"]
  | .parameterProperty place =>
    [place.label ++ ": constructor parameter properties are not supported"]
  | .emptyAttribute place =>
    [place.label ++ ": JSX attributes must be assigned a non-empty expression"]
  | .nestedTooDeeply => ["Source is nested too deeply to transform"]
  | .overlongReference overlong => [overlong.message]
  | .unreadAfterElision => ["Source does not parse after import elision"]
  | .unreadOutput diagnostics => "Lowered module does not parse" :: diagnostics.map (·.message)

/-- Why a source does not compile. -/
inductive CompileFault where
  /-- The source does not parse or does not resolve. -/
  | rejected (diagnostics : List Diagnostic)
  /-- The source uses something that cannot be lowered. -/
  | unlowerable (fault : LoweringFault)
  deriving DecidableEq, Repr, Inhabited

/-- Is it no diagnostic, but a failure in the middle of the lowering? Whoever asks for a module is not
told of a fault then: the compiler breaks off. -/
def CompileFault.breaksOff : CompileFault → Bool
  | .unlowerable (.overlongReference _) => true
  | _ => false

/-- The texts of a compile fault. -/
def CompileFault.messages : CompileFault → List String
  | .rejected diagnostics => diagnostics.map (·.message)
  | .unlowerable fault => fault.messages

end Lectern.Module
