/-
Module: Lectern.Proofs.Module.Scope
Purpose: What a module binds in its own scope: what its declarations at the top level introduce, form by
  form, and the variables that the runtime hoists out of statements inside of others. The names that the
  compiler collects are those of the declarations.
Trusted boundary: none
Main exports: identifierName, Introduces, Declares, Hoists, Outer, Declared, Lexical, Hoisted,
  BoundInModule, mem_topLevelNames
-/
import Lectern.Json.Parser
import Lectern.Proofs.Module.Names
import Lectern.Proofs.Module.Output

namespace Lectern.Module

open Lectern.Syntax Lectern.Text

/-! ## Names -/

/-- A name with its Unicode escapes resolved. In braces, `code` is what their digits give so far. -/
def resolveEscapes : (code : Option Nat) → List Char → List Char
  | _, [] => []
  | none, '\\' :: 'u' :: '{' :: rest => resolveEscapes (some 0) rest
  | none, '\\' :: 'u' :: a :: b :: c :: d :: rest =>
    Char.ofNat ((Json.Parser.hexUnit a b c d).getD 0) :: resolveEscapes none rest
  | none, c :: rest => c :: resolveEscapes none rest
  | some code, '}' :: rest => Char.ofNat code :: resolveEscapes none rest
  | some code, c :: rest => resolveEscapes (some (code * 16 + (Json.Parser.hexValue c).getD 0)) rest

/-- The name that a spelling stands for. -/
def nameOfSpelling (text : String) : String := String.ofList (resolveEscapes none text.toList)

/-- The name that an identifier stands for, which may be spelled with escapes. -/
def identifierName (source : ByteArray) (leaf : Node) : String := nameOfSpelling (leaf.text source)

/-! ## Patterns -/

/-- A pattern introduces the name at a leaf, with one case for each form of destructuring. -/
inductive Introduces : Node → Node → Prop
  | name {leaf : Node} (kind : leaf.kind = .identifier) : Introduces leaf leaf
  | shorthand {leaf : Node} (kind : leaf.kind = .shorthandPropertyIdentifierPattern) :
      Introduces leaf leaf
  | item {pattern part leaf : Node}
      (kind : pattern.kind = .objectPattern ∨ pattern.kind = .arrayPattern)
      (member : part ∈ pattern.children) (plain : part.field = none)
      (introduces : Introduces part leaf) : Introduces pattern leaf
  | rest {pattern part leaf : Node} (kind : pattern.kind = .restPattern)
      (member : part ∈ pattern.children) (plain : part.field = none)
      (introduces : Introduces part leaf) : Introduces pattern leaf
  | value {pattern part leaf : Node} (kind : pattern.kind = .pairPattern)
      (member : part ∈ pattern.children) (role : part.field = some .value)
      (introduces : Introduces part leaf) : Introduces pattern leaf
  | default {pattern part leaf : Node}
      (kind : pattern.kind = .assignmentPattern ∨ pattern.kind = .objectAssignmentPattern)
      (member : part ∈ pattern.children) (role : part.field = some .left)
      (introduces : Introduces part leaf) : Introduces pattern leaf

/-- The names of every form of destructuring are found. -/
theorem Introduces.mem_bindingLeaves {pattern leaf : Node} (introduces : Introduces pattern leaf) :
    leaf ∈ bindingLeaves pattern := by
  induction introduces with
  | name kind => simp [bindingLeaves_eq, isBindingLeaf, kind]
  | shorthand kind => simp [bindingLeaves_eq, isBindingLeaf, kind]
  | item kind member plain _ inside =>
      refine mem_bindingLeaves_of_part ?_ member ?_ inside
      · rcases kind with kind | kind <;> rw [kind] <;> rfl
      · simp [isPatternAside, plain]
  | rest kind member plain _ inside =>
      refine mem_bindingLeaves_of_part (by rw [kind]; rfl) member ?_ inside
      simp [isPatternAside, plain]
  | value kind member role _ inside =>
      refine mem_bindingLeaves_of_part (by rw [kind]; rfl) member ?_ inside
      simp [isPatternAside, role]
  | default kind member role _ inside =>
      refine mem_bindingLeaves_of_part ?_ member ?_ inside
      · rcases kind with kind | kind <;> rw [kind] <;> rfl
      · simp [isPatternAside, role]

/-! ## Declarations at the top level -/

/-- A declaration introduces the name at a leaf: that of a function or a class, or one in the pattern
of a constant or a variable. -/
inductive Declares (declaration : Node) : Node → Prop
  | ofFunction {name : Node}
      (kind : declaration.kind = .functionDeclaration ∨
        declaration.kind = .generatorFunctionDeclaration)
      (found : declaration.child? .name = some name) : Declares declaration name
  | ofClass {name : Node}
      (kind : declaration.kind = .classDeclaration ∨ declaration.kind = .abstractClassDeclaration)
      (found : declaration.child? .name = some name) : Declares declaration name
  | ofValues {declarator pattern leaf : Node}
      (kind : declaration.kind = .lexicalDeclaration ∨ declaration.kind = .variableDeclaration)
      (nameless : declaration.child? .name = none) (member : declarator ∈ declaration.namedChildren)
      (declares : declarator.kind = .variableDeclarator)
      (found : declarator.child? .name = some pattern) (introduces : Introduces pattern leaf) :
      Declares declaration leaf

/-- A declaration at the top level that is written introduces the name at a leaf. -/
def Declared (root leaf : Node) : Prop :=
  ∃ declaration, TopLevel root declaration ∧ Emitted root .code declaration ∧
    Declares declaration leaf

/-- Does a declaration of some category leave its names without a value until it has run? -/
def isLexical (kind : Kind) : Bool :=
  [Kind.lexicalDeclaration, .classDeclaration, .abstractClassDeclaration].contains kind

/-- The name at a leaf is one that has no value until a declaration at the top level has run. -/
def Lexical (root leaf : Node) : Prop :=
  ∃ declaration, TopLevel root declaration ∧ Emitted root .code declaration ∧
    Declares declaration leaf ∧ isLexical declaration.kind = true

theorem Lexical.declared {root leaf : Node} (lexical : Lexical root leaf) : Declared root leaf := by
  obtain ⟨declaration, top, emitted, declares, _⟩ := lexical
  exact ⟨declaration, top, emitted, declares⟩

variable {source : ByteArray} {root leaf : Node}

theorem Declares.mem_declarationNames {declaration : Node} (declares : Declares declaration leaf) :
    leaf.text source ∈ declarationNames source declaration := by
  unfold declarationNames
  cases declares with
  | ofFunction kind found =>
      rcases kind with kind | kind
      all_goals simp [kind, isTopLevelDeclaration, found]
  | ofClass kind found =>
      rcases kind with kind | kind
      all_goals simp [kind, isTopLevelDeclaration, found]
  | @ofValues declarator pattern _ kind nameless member declares found introduces =>
      have top : isTopLevelDeclaration declaration.kind = true := by
        rcases kind with kind | kind <;> rw [kind] <;> rfl
      rw [top, nameless]
      refine List.mem_flatMap.mpr ⟨declarator, member, ?_⟩
      rw [if_pos declares, found]
      exact mem_boundNames.mpr ⟨leaf, introduces.mem_bindingLeaves, rfl⟩

/-- All names that declarations at the top level introduce are collected, as they are spelled. -/
theorem mem_topLevelNames (declared : Declared root leaf) :
    leaf.text source ∈ topLevelNames source root := by
  obtain ⟨declaration, top, _, declares⟩ := declared
  exact mem_topLevelNames_iff.mpr ⟨declaration, top, declares.mem_declarationNames⟩

/-! ## Hoisted variables -/

/-- Do the variables inside of a node of some category belong to it? -/
def holdsVariables (kind : Kind) : Bool :=
  [Kind.functionDeclaration, .generatorFunctionDeclaration, .functionExpression, .generatorFunction,
    .arrowFunction, .methodDefinition, .classStaticBlock].contains kind

/-- The nodes that are written outside of functions, methods and static blocks. -/
inductive Outer (root : Node) : Manner → Node → Prop
  | root : Outer root .code root
  | part {manner partManner : Manner} {node part : Node} (outer : Outer root manner node)
      (shared : holdsVariables node.kind = false)
      (written : (partManner, part) ∈ writtenParts manner node) : Outer root partManner part

/-- A statement introduces a variable: a declaration, or the head of a loop over some values. -/
inductive Hoists (node : Node) : Node → Prop
  | declaration {declarator pattern leaf : Node} (kind : node.kind = .variableDeclaration)
      (member : declarator ∈ node.namedChildren) (declares : declarator.kind = .variableDeclarator)
      (found : declarator.child? .name = some pattern) (introduces : Introduces pattern leaf) :
      Hoists node leaf
  | loop {word pattern leaf : Node} (kind : node.kind = .forInStatement)
      (member : word ∈ node.children) (declares : word.kind = .lexeme "var")
      (found : node.child? .left = some pattern) (introduces : Introduces pattern leaf) :
      Hoists node leaf

/-- The name at a leaf is a variable of the module: its statement stands in no function, however deep
inside of other statements. -/
def Hoisted (root leaf : Node) : Prop := ∃ manner node, Outer root manner node ∧ Hoists node leaf

/-- The module scope binds a name. -/
def BoundInModule (source : ByteArray) (root : Node) (name : String) : Prop :=
  ∃ leaf, (Declared root leaf ∨ Hoisted root leaf) ∧ identifierName source leaf = name

end Lectern.Module
