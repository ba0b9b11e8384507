/-
Module: Lectern.Proofs.Module.DefaultExport
Purpose: What becomes of the default exports of a source on the way to a compiled module. One that
  has something behind it at run time is kept by the elision of imports and by the lowering; the
  check also counts re-exports and exports of types alone, of which nothing is left.
Trusted boundary: none
Main exports: Holds, keepOutside_holds, Copied, Copied.code, defaultMarks, Lasting,
  DefaultsKept, default_export_kept, default_export_lost
-/
import Mathlib.Logic.Basic
import Lectern.Module.Compile
import Lectern.Proofs.Module.Erasure

namespace Lectern.Module

open Lectern.Syntax Lectern.Text

/-! ## Byte strings inside of others -/

/-- Does a byte string hold another one as one stretch? -/
def Holds (outer inner : ByteArray) : Prop := ∃ front back, outer = front ++ inner ++ back

namespace Holds

theorem refl (bytes : ByteArray) : Holds bytes bytes :=
  ⟨ByteArray.empty, ByteArray.empty, by rw [ByteArray.empty_append, ByteArray.append_empty]⟩

theorem trans {outer middle inner : ByteArray} (first : Holds outer middle)
    (second : Holds middle inner) : Holds outer inner := by
  obtain ⟨front, back, rfl⟩ := first
  obtain ⟨before, behind, rfl⟩ := second
  exact ⟨front ++ before, behind ++ back, by simp only [ByteArray.append_assoc]⟩

theorem append_left {outer inner : ByteArray} (holds : Holds outer inner) (front : ByteArray) :
    Holds (front ++ outer) inner := by
  obtain ⟨before, behind, rfl⟩ := holds
  exact ⟨front ++ before, behind, by simp only [ByteArray.append_assoc]⟩

theorem append_right {outer inner : ByteArray} (holds : Holds outer inner) (back : ByteArray) :
    Holds (outer ++ back) inner := by
  obtain ⟨before, behind, rfl⟩ := holds
  exact ⟨before, behind ++ back, by simp only [ByteArray.append_assoc]⟩

theorem slice {source : ByteArray} {start first last stop : Nat} (before : start ≤ first)
    (inside : first ≤ last) (behind : last ≤ stop) :
    Holds (Utf8.slice source start stop) (Utf8.slice source first last) := by
  refine ⟨Utf8.slice source start first, Utf8.slice source last stop, ?_⟩
  unfold Utf8.slice
  rw [← ByteArray.extract_eq_extract_append_extract first before inside,
    ← ByteArray.extract_eq_extract_append_extract last (Nat.le_trans before inside) behind]

end Holds

/-! ## The elision of imports -/

variable {source : ByteArray}

/-- A stretch that no range touches stays in one piece. -/
theorem keepOutside_holds {ranges : List (Nat × Nat)} {cursor start stop : Nat}
    (ahead : cursor ≤ start) (extent : start ≤ stop) (covered : stop ≤ source.size)
    (apart : ∀ range ∈ ranges, range.2 ≤ start ∨ stop ≤ range.1) :
    Holds (keepOutside source cursor ranges) (Utf8.slice source start stop) := by
  induction ranges generalizing cursor with
  | nil => exact Holds.slice ahead extent covered
  | cons range rest inductionHypothesis =>
      rw [keepOutside]
      rcases apart range List.mem_cons_self with before | behind
      · exact (inductionHypothesis before fun other member =>
          apart other (List.mem_cons_of_mem _ member)).append_left _
      · exact (Holds.slice ahead extent behind).append_right _

/-- Past a line break is not past what starts behind it with another byte. -/
theorem afterLineBreak_le {stop start : Nat} (behind : stop ≤ start)
    (text : Utf8.byteAt source start ≠ 0x0A ∧ Utf8.byteAt source start ≠ 0x0D) :
    afterLineBreak source stop ≤ start := by
  obtain ⟨noFeed, noReturn⟩ := text
  unfold afterLineBreak
  split
  next both =>
    simp only [Bool.and_eq_true, beq_iff_eq] at both
    have first : start ≠ stop := fun same => noReturn (same ▸ both.1)
    have second : start ≠ stop + 1 := fun same => noFeed (same ▸ both.2)
    omega
  next =>
    split
    next feed =>
      have : start ≠ stop := fun same => noFeed (same ▸ beq_iff_eq.mp feed)
      omega
    next => exact behind

/-- A statement that depends on no other module keeps its text when the imports around it go. -/
theorem elideImports_holds {root node : Node} (covered : root.stop ≤ source.size)
    (follows : Node.Follows root.start root.stop root.children) (member : node ∈ root.children)
    (stays : isDependency node = false)
    (text : Utf8.byteAt source node.start ≠ 0x0A ∧ Utf8.byteAt source node.start ≠ 0x0D) :
    Holds (elideImports source root) (node.bytes source) := by
  have between := follows.between member
  apply keepOutside_holds (Nat.zero_le _) between.2.1 (Nat.le_trans between.2.2 covered)
  intro range taken
  obtain ⟨other, goes, rfl⟩ := List.mem_map.mp taken
  obtain ⟨neighbour, depends⟩ := List.mem_filter.mp goes
  rcases follows.apart neighbour member with rfl | before | behind
  · rw [stays] at depends
    cases depends
  · exact Or.inl (afterLineBreak_le before text)
  · exact Or.inr behind

/-! ## What the lowering copies -/

/-- Is a node copied, with its children replaced by what becomes of them? -/
def isCopied (node : Node) : Bool :=
  !isElement node.kind && !isAssertion node.kind && !exportsTypesOnly node

/-- The lowering comes to `inner` from `outer` through nodes that it copies. -/
inductive Copied : Node → Node → Prop
  | here (node : Node) : Copied node node
  | part {outer child inner : Node} (copied : isCopied outer = true)
      (member : child ∈ outer.children) (kept : isErased outer.kind child = false)
      (inside : Copied child inner) : Copied outer inner

/-- What becomes of a child that its parent keeps is part of what becomes of the parent. -/
theorem copyFrom_holds {parent : Node} {cursor : Nat} {children : List Rendered} {output : ByteArray}
    (made : copyFrom source parent cursor children = .ok output) {child : Rendered}
    (member : child ∈ children) (kept : isErased parent.kind child.node = false) :
    ∃ code, child.rendering.code = .ok code ∧ Holds output code := by
  induction children generalizing cursor output with
  | nil => cases member
  | cons first rest inductionHypothesis =>
      rw [copyFrom_cons] at made
      cases own : (if isErased parent.kind first.node then .ok ByteArray.empty
          else first.rendering.code : Code) with
      | error fault => rw [own] at made; cases made
      | ok code =>
          cases others : copyFrom source parent first.node.stop rest with
          | error fault => rw [own, others] at made; cases made
          | ok tail =>
              rw [own, others] at made
              cases made
              rcases List.mem_cons.mp member with rfl | inside
              · rw [kept, if_neg Bool.false_ne_true] at own
                exact ⟨code, own, ((Holds.refl code).append_left _).append_right _⟩
              · obtain ⟨inner, becomes, holds⟩ := inductionHypothesis others inside
                exact ⟨inner, becomes, holds.append_left _⟩

/-- A copied node that is not refused becomes its copy. -/
theorem copy_of_nodeCode {node : Node} {children : List Rendered} {output : ByteArray}
    (copied : isCopied node = true) (made : nodeCode source node children = .ok output) :
    copy source node children = .ok output := by
  simp only [isCopied, isElement, isAssertion, exportsTypesOnly, Bool.and_eq_true,
    Bool.not_eq_true', Bool.or_eq_false_iff, beq_eq_false_iff_ne, Bool.and_eq_false_iff] at copied
  obtain ⟨⟨⟨⟨noElement, noClosed⟩, noFragment⟩, ⟨noAs, noSatisfies⟩, noNonNull⟩, shown⟩ := copied
  unfold nodeCode at made
  split at made
  next => cases made
  next =>
    split at made
    next kind =>
      split at made
      next hidden => simp [kind, hidden] at shown
      next => exact made
    next =>
      split at made
      next => cases made
      next => exact made
    next =>
      split at made
      next => cases made
      next => exact made
    next kind => exact absurd kind noAs
    next kind => exact absurd kind noSatisfies
    next kind => exact absurd kind noNonNull
    next kind => exact absurd kind noElement
    next kind => exact absurd kind noClosed
    next kind => exact absurd kind noFragment
    next => exact made

/-- What becomes of a node that the lowering comes to by copying is part of what becomes of the node
it started from. -/
theorem Copied.code {outer inner : Node} (comes : Copied outer inner) {depth : Nat}
    {output : ByteArray} (made : (render source depth outer).code = .ok output) :
    ∃ left code, (render source left inner).code = .ok code ∧ Holds output code := by
  induction comes generalizing depth output with
  | here node => exact ⟨depth, output, made, Holds.refl output⟩
  | @part outer child inner copied member kept inside inductionHypothesis =>
      cases depth with
      | zero => cases outer; cases made
      | succ depth =>
          rw [render_succ] at made
          have copies := copy_of_nodeCode copied made
          obtain ⟨code, becomes, holds⟩ :=
            copyFrom_holds copies (List.mem_map_of_mem member) kept
          obtain ⟨left, own, made, within⟩ := inductionHypothesis becomes
          exact ⟨left, own, made, holds.trans within⟩

/-- A node without parts that the lowering comes to by copying keeps its text. -/
theorem Copied.leaf {outer inner : Node} (comes : Copied outer inner)
    (copied : isCopied inner = true) (whole : inner.children = []) {depth : Nat}
    {output : ByteArray} (made : (render source depth outer).code = .ok output) :
    Holds output (inner.bytes source) := by
  obtain ⟨left, code, becomes, holds⟩ := comes.code made
  cases left with
  | zero => cases inner; cases becomes
  | succ left =>
      rw [render_succ, whole] at becomes
      have copies := copy_of_nodeCode copied becomes
      cases copies
      exact holds

/-! ## Default exports -/

/-- What makes a statement export a default: the word behind `export`, and the names in a list under
which something is exported as the default. -/
def defaultMarks (source : ByteArray) (node : Node) : List Node :=
  node.children.filter (·.kind == .lexeme "default") ++
    (node.namedChildren.filter (·.kind == .exportClause)).flatMap fun clause =>
      clause.namedChildren.filterMap fun specifier =>
        (specifier.child? .alias).filter (·.text source == "default")

theorem isDefaultExport_iff {node : Node} :
    isDefaultExport source node = true ↔
      node.kind = .exportStatement ∧ ∃ mark, mark ∈ defaultMarks source node := by
  have aliased (specifier : Node) : exportsAsDefault source specifier = true ↔
      ∃ mark, (specifier.child? .alias).filter (·.text source == "default") = some mark := by
    unfold exportsAsDefault
    cases specifier.child? .alias with
    | none => simp
    | some name => simp [Option.filter_eq_some_iff]
  simp only [isDefaultExport, Bool.and_eq_true, beq_iff_eq, Bool.or_eq_true, List.any_eq_true,
    aliased, defaultMarks, List.mem_append, List.mem_filter, List.mem_flatMap, List.mem_filterMap]
  grind

/-- In a reading of a source the marks of a default export are words, and the names in a list stand
in its specifiers. -/
structure Worded (source : ByteArray) (node : Node) : Prop where
  word : ∀ mark ∈ defaultMarks source node, mark.children = [] ∧
    (mark.kind = .lexeme "default" ∨ mark.kind = .identifier)
  specifier : ∀ clause ∈ node.namedChildren, clause.kind = .exportClause →
    ∀ specifier ∈ clause.namedChildren, (specifier.child? .alias).isSome = true →
      specifier.kind = .exportSpecifier

/-- A default export with something behind it at run time: it is no re-export, and it does not export
types alone. -/
def Lasting (source : ByteArray) (node : Node) : Prop :=
  isDefaultExport source node = true ∧ node.child? .source = none ∧ isTypeOnlyExport node = false

/-- The lowering comes to the marks of a default export that exports more than types. -/
theorem copied_of_mark {node mark : Node} (statement : node.kind = .exportStatement)
    (shown : isTypeOnlyExport node = false) (worded : Worded source node)
    (marks : mark ∈ defaultMarks source node) : Copied node mark := by
  have copied : isCopied node = true := by
    simp [isCopied, isElement, isAssertion, exportsTypesOnly, statement, shown]
  have kindOf := (worded.word mark marks).2
  have lasts (parent : Kind) : isErased parent mark = false := by
    rcases kindOf with kind | kind
    · rw [isErased_of_kind (by rw [kind]; rfl), kind]
      decide
    · rw [isErased_of_kind (by rw [kind]; rfl), kind]
      decide
  rcases List.mem_append.mp marks with word | name
  · exact .part copied (List.mem_filter.mp word).1 (lasts _) (.here mark)
  · obtain ⟨clause, list, named⟩ := List.mem_flatMap.mp name
    obtain ⟨inside, clauseKind⟩ := List.mem_filter.mp list
    obtain ⟨specifier, item, aliased⟩ := List.mem_filterMap.mp named
    have found := (Option.filter_eq_some_iff.mp aliased).1
    have specifierKind := worded.specifier clause inside (beq_iff_eq.mp clauseKind) specifier item
      (by rw [found]; rfl)
    refine .part copied (List.mem_filter.mp inside).1 ?_ (.part ?_ (List.mem_filter.mp item).1 ?_
      (.part ?_ (List.mem_of_find?_eq_some found) (lasts _) (.here mark)))
    · simp [isErased, erasedKinds, beq_iff_eq.mp clauseKind, (List.mem_filter.mp inside).2]
    · simp [isCopied, isElement, isAssertion, exportsTypesOnly, beq_iff_eq.mp clauseKind]
    · simp [isErased, erasedKinds, specifierKind, (List.mem_filter.mp item).2]
    · simp [isCopied, isElement, isAssertion, exportsTypesOnly, specifierKind]

/-! ## Compiled modules -/

theorem kind_of_parse {root : Node} (read : parse source = .ok root) : root.kind = .program := by
  unfold parse at read
  simp only at read
  split at read
  next =>
    split at read
    next =>
      cases read
      unfold Node.program
      simp only
      split
      next => rfl
      next => rfl
    next => cases read
  next => cases read

/-- A source that passes the check has a tree with a default export, and leaves what the elision of
its imports does. -/
theorem check_steps {text : String} {elided : ByteArray} (checked : check text = .ok elided) :
    ∃ root, parse text.toUTF8 = .ok root ∧ hasDefaultExport text.toUTF8 root = true ∧
      elided = elideImports text.toUTF8 root := by
  unfold check at checked
  simp only at checked
  cases read : parse text.toUTF8 with
  | error offset => rw [read] at checked; cases checked
  | ok root =>
      rw [read] at checked
      simp only [checkTree] at checked
      split at checked
      next =>
        split at checked
        next faultless =>
          refine ⟨root, rfl, ?_, (Except.ok.inj checked).symm⟩
          cases exports : hasDefaultExport text.toUTF8 root with
          | true => rfl
          | false =>
              have none := (List.append_eq_nil_iff.mp faultless).2
              rw [exports] at none
              cases none
        next => cases checked
      next => cases checked

/-- What the lowering makes of a tree is left as it is when it is read again. -/
private theorem lower_steps {root : Node} {body : ByteArray} (lowered : lower source root = .ok body) :
    lowerTree source root = .ok body := by
  unfold lower at lowered
  cases made : lowerTree source root with
  | error fault => rw [made] at lowered; cases lowered
  | ok output =>
      rw [made] at lowered
      simp only [bind, Except.bind] at lowered
      split at lowered
      next => exact lowered
      next => cases lowered

/-- What a compiled module was made of: the tree of the source, the tree of what the elision of its
imports leaves, and what the lowering makes of that. -/
theorem compile_steps {text : String} {artifact : Artifact} (compiled : compile text = .ok artifact) :
    ∃ root tree body, parse text.toUTF8 = .ok root ∧ hasDefaultExport text.toUTF8 root = true ∧
      parse (elideImports text.toUTF8 root) = .ok tree ∧
      lowerTree (elideImports text.toUTF8 root) tree = .ok body ∧
      artifact = ⟨Digest.sourceHash text, moduleText (Digest.sourceHash text)
        (topLevelNames (elideImports text.toUTF8 root) tree) (Utf8.read body)⟩ := by
  unfold compile at compiled
  cases checked : check text with
  | error fault => rw [checked] at compiled; cases compiled
  | ok elided =>
      rw [checked] at compiled
      simp only [bind, Except.bind] at compiled
      obtain ⟨root, read, exports, rfl⟩ := check_steps checked
      cases again : parse (elideImports text.toUTF8 root) with
      | error offset => rw [again] at compiled; cases compiled
      | ok tree =>
          rw [again] at compiled
          simp only at compiled
          split at compiled
          next => cases compiled
          next body lowered =>
            cases compiled
            exact ⟨root, tree, body, read, exports, again, lower_steps lowered, rfl⟩

/-- What becomes of a top-level export is part of the lowered module. -/
theorem lowered_export {root node : Node} {body : ByteArray} (program : root.kind = .program)
    (member : node ∈ root.namedChildren) (statement : node.kind = .exportStatement)
    (lowered : lowerTree source root = .ok body) :
    ∃ depth code, (render source depth node).code = .ok code ∧ Holds body code := by
  obtain ⟨inside, named⟩ := List.mem_filter.mp member
  have copied : isCopied root = true := by
    simp [isCopied, isElement, isAssertion, exportsTypesOnly, program]
  have kept : isErased root.kind node = false := by
    simp [isErased, erasedKinds, statement, named]
  rw [lowerTree_eq, lowerWithin] at lowered
  cases made : (render source maxDepth root).code with
  | error fault => rw [made] at lowered; cases lowered
  | ok output =>
      rw [made] at lowered
      cases lowered
      obtain ⟨depth, code, becomes, holds⟩ := (Copied.part copied inside kept (.here node)).code made
      exact ⟨depth, code, becomes, (holds.append_left _).append_right _⟩

/-- What is lowered of an export of types alone is empty, and of any other default export it holds the
words that make it one. -/
theorem code_of_default_export {node : Node} {depth : Nat} {code : ByteArray}
    (exports : isDefaultExport source node = true) (worded : Worded source node)
    (becomes : (render source depth node).code = .ok code) :
    if isTypeOnlyExport node then code = ByteArray.empty
    else ∃ mark ∈ defaultMarks source node, Holds code (mark.bytes source) := by
  obtain ⟨statement, mark, marks⟩ := isDefaultExport_iff.mp exports
  split
  next hidden =>
    cases depth with
    | zero => cases node; cases becomes
    | succ depth =>
        rw [render_succ] at becomes
        simp only [assemble, nodeCode, statement, unsupportedConstruct, hidden, if_true] at becomes
        cases becomes
        rfl
  next shown =>
    obtain ⟨whole, kinds⟩ := worded.word mark marks
    have copied : isCopied mark = true := by
      rcases kinds with kind | kind
      · simp [isCopied, isElement, isAssertion, exportsTypesOnly, kind]
      · simp [isCopied, isElement, isAssertion, exportsTypesOnly, kind]
    have comes := copied_of_mark statement (by simpa using shown) worded marks
    exact ⟨mark, marks, comes.leaf copied whole becomes⟩

/-- What becomes of the default exports of a source with the tree `root`, of which the elision of
imports leaves a source with the tree `tree`, and the lowering makes `body`. -/
structure DefaultsKept (text : String) (artifact : Artifact) (root tree : Node) (body : ByteArray) :
    Prop where
  read : parse text.toUTF8 = .ok root
  again : parse (elideImports text.toUTF8 root) = .ok tree
  result : artifact.moduleText = moduleText (Digest.sourceHash text)
    (topLevelNames (elideImports text.toUTF8 root) tree) (Utf8.read body)
  exported : ∃ node ∈ root.namedChildren, isDefaultExport text.toUTF8 node = true
  /-- A default export lasts unless all are re-exports or export types alone. -/
  lasts_iff : (∃ node ∈ root.namedChildren, Lasting text.toUTF8 node) ↔
    ¬ ∀ node ∈ root.namedChildren, isDefaultExport text.toUTF8 node = true →
      (node.child? .source).isSome = true ∨ isTypeOnlyExport node = true
  /-- One that lasts keeps its text when the imports around it go. -/
  elided : root.stop ≤ text.toUTF8.size → Node.Follows root.start root.stop root.children →
    ∀ node ∈ root.namedChildren, Lasting text.toUTF8 node →
      Utf8.byteAt text.toUTF8 node.start ≠ 0x0A ∧ Utf8.byteAt text.toUTF8 node.start ≠ 0x0D →
      Holds (elideImports text.toUTF8 root) (node.bytes text.toUTF8)
  /-- What is lowered of a default export is part of the module and holds the words that make it one,
  unless it exports types alone. -/
  lowered : ∀ node ∈ tree.namedChildren,
    isDefaultExport (elideImports text.toUTF8 root) node = true →
    Worded (elideImports text.toUTF8 root) node →
    ∃ code, Holds body code ∧
      if isTypeOnlyExport node then code = ByteArray.empty
      else ∃ mark ∈ defaultMarks (elideImports text.toUTF8 root) node,
        Holds code (mark.bytes (elideImports text.toUTF8 root))

/-- In every source that compiles some statement exports a default, and what becomes of it is known;
a default export that lasts goes through the elision and the lowering. -/
theorem default_export_kept {text : String} {artifact : Artifact}
    (compiled : compile text = .ok artifact) :
    ∃ root tree body, DefaultsKept text artifact root tree body := by
  obtain ⟨root, tree, body, read, exports, again, lowered, rfl⟩ := compile_steps compiled
  refine ⟨root, tree, body, read, again, rfl, List.any_eq_true.mp exports, ?_, ?_, ?_⟩
  · constructor
    · rintro ⟨node, member, isDefault, noSource, values⟩ lost
      rcases lost node member isDefault with from' | types
      · rw [noSource] at from'
        cases from'
      · rw [values] at types
        cases types
    · intro someLasts
      simp only [not_forall, not_or] at someLasts
      obtain ⟨node, member, isDefault, noSource, values⟩ := someLasts
      exact ⟨node, member, isDefault, by simpa using noSource, by simpa using values⟩
  · intro covered follows node member lasting text'
    obtain ⟨isDefault, noSource, _⟩ := lasting
    have statement := (isDefaultExport_iff.mp isDefault).1
    exact elideImports_holds covered follows (List.mem_filter.mp member).1
      (by simp [isDependency, statement, noSource]) text'
  · intro node member isDefault worded
    have statement := (isDefaultExport_iff.mp isDefault).1
    obtain ⟨depth, code, becomes, holds⟩ :=
      lowered_export (kind_of_parse again) member statement lowered
    exact ⟨code, holds, code_of_default_export isDefault worded becomes⟩

instance (source : ByteArray) (node : Node) : Decidable (Lasting source node) :=
  inferInstanceAs (Decidable (_ ∧ _ ∧ _))

/-- Where a source compiles, does one of its default exports last? -/
private def lastsIn (text : String) : Option Bool :=
  match compile text, parse text.toUTF8 with
  | .ok _, .ok root => some (root.namedChildren.any fun node => decide (Lasting text.toUTF8 node))
  | _, _ => none

private theorem of_lastsIn {text : String} {answer : Bool} (lasts : lastsIn text = some answer) :
    ∃ artifact root, compile text = .ok artifact ∧ parse text.toUTF8 = .ok root ∧
      (answer = true ↔ ∃ node ∈ root.namedChildren, Lasting text.toUTF8 node) := by
  unfold lastsIn at lasts
  split at lasts
  next artifact root compiled read =>
    refine ⟨artifact, root, compiled, read, ?_⟩
    rw [← Option.some.inj lasts]
    simp
  next => cases lasts

/-- The default export of a constant. -/
private def constantExport : String := "export default 1;\n"

/-- A default export that is taken over from another module. -/
private def takenOver : String := "export \x7b x as default \x7d from './y';\n"

/-- A source that compiles to a module with its default export. -/
theorem default_export_kept_constant :
    ∃ artifact root tree body, compile constantExport = .ok artifact ∧
      DefaultsKept constantExport artifact root tree body ∧
      ∃ node ∈ root.namedChildren, Lasting constantExport.toUTF8 node := by
  obtain ⟨artifact, parsed, compiled, read, lasts⟩ :=
    of_lastsIn (show lastsIn constantExport = some true by decide +kernel)
  obtain ⟨root, tree, body, kept⟩ := default_export_kept compiled
  cases read.symm.trans kept.read
  exact ⟨artifact, parsed, tree, body, compiled, kept, lasts.mp rfl⟩

/-- A source compiles although nothing is left of its only default export. -/
theorem default_export_lost :
    ¬ ∀ (text : String) (artifact : Artifact), compile text = .ok artifact →
      ∃ root, parse text.toUTF8 = .ok root ∧
        ∃ node ∈ root.namedChildren, Lasting text.toUTF8 node := by
  intro kept
  obtain ⟨artifact, root, compiled, read, lasts⟩ :=
    of_lastsIn (show lastsIn takenOver = some false by decide +kernel)
  obtain ⟨root', read', lasting⟩ := kept takenOver artifact compiled
  cases read.symm.trans read'
  exact Bool.false_ne_true (lasts.mpr lasting)

end Lectern.Module
