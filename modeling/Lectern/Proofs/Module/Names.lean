/-
Module: Lectern.Proofs.Module.Names
Purpose: Which names a pattern binds, and which names a module declares. The search goes along a stack,
  from the last part of a pattern to the first; it finds each leaf once that lies in no default value, in
  no key of a property and in no other leaf. All declarations of a module are asked for their names, and
  those at the top level once more, by another route.
Trusted boundary: none
Main exports: bindingLeaves, leavesFrom_eq, mem_boundNames, Counts, BindsAt, bindsAt_cons,
  bindsAt_iff_of_plain, boundNames_paths, Binds, mem_declaredNames, TopLevel, mem_topLevelNames_iff,
  ValuesNameless, mem_declaredNames_of_topLevel, pattern_names_exact
-/
import Lectern.Module.Names
import Lectern.Proofs.Syntax.Walks
import Lectern.Syntax.Parse

namespace Lectern.Module

open Lectern.Syntax

/-! ## Leaves by recursion -/

mutual

/-- The leaves of a binding pattern that introduce names, in document order. -/
def bindingLeaves : Node → List Node
  | ⟨kind, named, start, stop, field, missing, children⟩ =>
    if isBindingLeaf kind then [⟨kind, named, start, stop, field, missing, children⟩]
    else bindingLeavesAll kind children

/-- The leaves that introduce names in the parts of a pattern of category `parent`. -/
def bindingLeavesAll (parent : Kind) : List Node → List Node
  | [] => []
  | child :: rest =>
    (if isPatternAside parent child.field then [] else bindingLeaves child) ++
      bindingLeavesAll parent rest

end

/-- The parts that are passed over give nothing. -/
theorem flatMap_bindingParts {β : Type} (gives : Node → List β) (pattern : Node) :
    (bindingParts pattern).flatMap gives = pattern.children.flatMap fun part =>
      if isPatternAside pattern.kind part.field then [] else gives part := by
  unfold bindingParts
  induction pattern.children with
  | nil => rfl
  | cons first rest inductionHypothesis =>
      cases aside : isPatternAside pattern.kind first.field with
      | true => simp [aside, inductionHypothesis]
      | false => simp [aside, inductionHypothesis]

theorem bindingLeaves_eq (pattern : Node) :
    bindingLeaves pattern =
      if isBindingLeaf pattern.kind then [pattern]
      else (bindingParts pattern).flatMap bindingLeaves := by
  have all (parent : Kind) (nodes : List Node) :
      bindingLeavesAll parent nodes = nodes.flatMap fun part =>
        if isPatternAside parent part.field then [] else bindingLeaves part := by
    induction nodes with
    | nil => rfl
    | cons first rest inductionHypothesis =>
        rw [bindingLeavesAll, inductionHypothesis, List.flatMap_cons]
  rw [flatMap_bindingParts, ← all]
  cases pattern
  rw [bindingLeaves]

theorem mem_bindingParts {pattern part : Node} :
    part ∈ bindingParts pattern ↔
      part ∈ pattern.children ∧ isPatternAside pattern.kind part.field = false := by
  simp [bindingParts]

/-- What a part of a pattern introduces that is neither a default nor a key. -/
theorem mem_bindingLeaves_of_part {pattern part leaf : Node}
    (branch : isBindingLeaf pattern.kind = false) (member : part ∈ pattern.children)
    (binds : isPatternAside pattern.kind part.field = false) (inside : leaf ∈ bindingLeaves part) :
    leaf ∈ bindingLeaves pattern := by
  rw [bindingLeaves_eq, if_neg (by simp [branch])]
  exact List.mem_flatMap.mpr ⟨part, mem_bindingParts.mpr ⟨member, binds⟩, inside⟩

/-- The search along a stack finds the leaves of the recursion, of each pattern from the last to the
first. -/
theorem leavesFrom_eq (stack : List Node) :
    leavesFrom stack = stack.flatMap fun pattern => (bindingLeaves pattern).reverse := by
  induction stack using leavesFrom.induct with
  | case1 => rw [leavesFrom, List.flatMap_nil]
  | case2 node later leaf inductionHypothesis =>
      rw [leavesFrom, if_pos leaf, inductionHypothesis, List.flatMap_cons, bindingLeaves_eq, if_pos leaf]
      rfl
  | case3 node later branch inductionHypothesis =>
      rw [leavesFrom, if_neg branch, inductionHypothesis, pushAll_eq, List.flatMap_append,
        List.flatMap_cons, bindingLeaves_eq node, if_neg branch, List.reverse_flatMap]
      rfl

theorem boundNames_eq (source : ByteArray) (pattern : Node) :
    boundNames source pattern = ((bindingLeaves pattern).map (·.text source)).reverse := by
  rw [boundNames, leavesFrom_eq, List.flatMap_singleton, List.map_reverse]

theorem mem_boundNames {source : ByteArray} {pattern : Node} {name : String} :
    name ∈ boundNames source pattern ↔ ∃ leaf ∈ bindingLeaves pattern, leaf.text source = name := by
  rw [boundNames_eq, List.mem_reverse, List.mem_map]

/-! ## Leaves by their paths -/

/-- A path leads through no default value and through no key of a property. -/
def Counts (pattern : Node) (path : List Nat) : Prop :=
  ∀ front index rest around part, path = front ++ index :: rest →
    pattern.at? front = some around → around.children[index]? = some part →
      part.field ≠ some .right ∧ ¬ (part.field = some .key ∧ around.kind = .pairPattern)

/-- A path leads to a leaf that introduces a name in a pattern: it lies in no default value, in no key of
a property and in no other such leaf. -/
structure BindsAt (pattern : Node) (path : List Nat) : Prop where
  leaf : ∃ leaf, pattern.at? path = some leaf ∧ isBindingLeaf leaf.kind = true
  counts : Counts pattern path
  outermost : ∀ front index rest around, path = front ++ index :: rest →
    pattern.at? front = some around → isBindingLeaf around.kind = false

theorem not_isPatternAside_iff {parent : Kind} {field : Option Field} :
    isPatternAside parent field = false ↔
      field ≠ some .right ∧ ¬ (field = some .key ∧ parent = .pairPattern) := by
  simp [isPatternAside]

theorem bindsAt_nil {pattern : Node} : BindsAt pattern [] ↔ isBindingLeaf pattern.kind = true := by
  constructor
  · rintro ⟨⟨leaf, ⟨⟩, kind⟩, -, -⟩
    exact kind
  · intro kind
    exact ⟨⟨pattern, rfl, kind⟩, fun _ _ _ _ _ split => by simp at split,
      fun _ _ _ _ split => by simp at split⟩

theorem counts_cons {pattern part : Node} {index : Nat} {path : List Nat}
    (found : pattern.children[index]? = some part) :
    Counts pattern (index :: path) ↔
      isPatternAside pattern.kind part.field = false ∧ Counts part path := by
  constructor
  · intro counts
    refine ⟨not_isPatternAside_iff.mpr (counts [] index path pattern part rfl rfl found), ?_⟩
    rintro front next rest around inner rfl leads foundInner
    exact counts (index :: front) next rest around inner rfl (by rwa [Node.at?_cons found]) foundInner
  · rintro ⟨binds, counts⟩ front next rest around inner split leads foundInner
    cases front with
    | nil =>
        cases split
        cases leads
        cases found.symm.trans foundInner
        exact not_isPatternAside_iff.mp binds
    | cons first front =>
        cases split
        rw [Node.at?_cons found] at leads
        exact counts front next rest around inner rfl leads foundInner

/-- The leaves of a pattern that is no leaf are those of its parts, default values and keys aside. -/
theorem bindsAt_cons {pattern : Node} {index : Nat} {path : List Nat} :
    BindsAt pattern (index :: path) ↔ isBindingLeaf pattern.kind = false ∧
      ∃ part, pattern.children[index]? = some part ∧
        isPatternAside pattern.kind part.field = false ∧ BindsAt part path := by
  constructor
  · rintro ⟨⟨leaf, leads, kind⟩, counts, outermost⟩
    obtain ⟨part, found, leads⟩ := Option.bind_eq_some_iff.mp leads
    obtain ⟨binds, counts⟩ := (counts_cons found).mp counts
    refine ⟨outermost [] index path pattern rfl rfl, part, found, binds, ⟨leaf, leads, kind⟩, counts, ?_⟩
    rintro front next rest around rfl leads
    exact outermost (index :: front) next rest around rfl (by rwa [Node.at?_cons found])
  · rintro ⟨branch, part, found, binds, ⟨leaf, leads, kind⟩, counts, outermost⟩
    refine ⟨⟨leaf, by rwa [Node.at?_cons found], kind⟩, (counts_cons found).mpr ⟨binds, counts⟩, ?_⟩
    intro front next rest around split reaches
    cases front with
    | nil =>
        cases reaches
        exact branch
    | cons first front =>
        cases split
        rw [Node.at?_cons found] at reaches
        exact outermost front next rest around rfl reaches

/-- No path through a leaf binds. -/
theorem not_bindsAt_of_leaf {pattern : Node} (leaf : isBindingLeaf pattern.kind = true) {index : Nat}
    {path : List Nat} : ¬ BindsAt pattern (index :: path) := by
  rw [bindsAt_cons, leaf]
  exact fun binds => Bool.noConfusion binds.1

/-- Where leaves have no parts, none of them lies in another one. -/
theorem bindsAt_iff_of_plain {pattern : Node}
    (plain : ∀ node ∈ pattern.preorder, isBindingLeaf node.kind = true → node.children = [])
    {path : List Nat} :
    BindsAt pattern path ↔
      (∃ leaf, pattern.at? path = some leaf ∧ isBindingLeaf leaf.kind = true) ∧ Counts pattern path := by
  constructor
  · rintro ⟨leaf, counts, -⟩
    exact ⟨leaf, counts⟩
  · rintro ⟨⟨leaf, leads, kind⟩, counts⟩
    refine ⟨⟨leaf, leads, kind⟩, counts, ?_⟩
    rintro front index rest around rfl reaches
    rw [Bool.eq_false_iff]
    intro isLeaf
    rw [Node.at?_append, reaches, Option.bind_some, Node.at?,
      plain around (Node.mem_preorder_of_at? reaches) isLeaf] at leads
    cases leads

/-- Among the paths through one part of a pattern that is no leaf, those bind that bind in the part,
unless it is a default value or a key. -/
private theorem filter_bindsAt {pattern part : Node} [∀ path, Decidable (BindsAt pattern path)]
    [∀ path, Decidable (BindsAt part path)] (branch : isBindingLeaf pattern.kind = false)
    {index : Nat} (found : pattern.children[index]? = some part) (paths : List (List Nat)) :
    (paths.map (index :: ·)).filter (BindsAt pattern ·) =
      if isPatternAside pattern.kind part.field then []
      else (paths.filter (BindsAt part ·)).map (index :: ·) := by
  have same (path : List Nat) : BindsAt pattern (index :: path) ↔
      isPatternAside pattern.kind part.field = false ∧ BindsAt part path := by
    rw [bindsAt_cons, found]
    simp [branch]
  rw [List.filter_map]
  split
  next aside => simp [Function.comp_def, same, aside]
  next binds => simp [Function.comp_def, same, binds]

/-- The leaves of the recursion are those that the paths lead to which bind, in their order. -/
theorem bindingLeaves_paths (pattern : Node) :
    ∃ paths : List (List Nat), paths.Pairwise (· < ·) ∧ (∀ path, path ∈ paths ↔ BindsAt pattern path) ∧
      (bindingLeaves pattern).map some = paths.map pattern.at? := by
  classical
  refine ⟨pattern.paths.filter (BindsAt pattern ·), pattern.paths_ascending.filter _, ?_, ?_⟩
  · intro path
    rw [List.mem_filter, decide_eq_true_iff, and_iff_right_iff_imp]
    rintro ⟨⟨leaf, leads, -⟩, -, -⟩
    exact Node.mem_paths.mpr (by rw [leads]; rfl)
  · induction pattern using Node.induct with
    | step pattern inductionHypothesis =>
        rw [bindingLeaves_eq, Node.paths_eq, List.filter_cons, List.filter_flatMap]
        cases leaf : isBindingLeaf pattern.kind with
        -- A leaf stands for itself, and what lies below it is not looked at.
        | true =>
            have nothing : pattern.children.zipIdx.flatMap (fun child =>
                (child.1.paths.map (child.2 :: ·)).filter (BindsAt pattern ·)) = [] := by
              rw [List.flatMap_eq_nil_iff]
              intro child _
              rw [List.filter_eq_nil_iff]
              intro path member
              obtain ⟨inside, _, rfl⟩ := List.mem_map.mp member
              rw [decide_eq_true_iff]
              exact not_bindsAt_of_leaf leaf
            rw [if_pos rfl, if_pos (decide_eq_true (bindsAt_nil.mpr leaf)), nothing]
            rfl
        -- Otherwise the paths through each part are those of the part, unless it is passed over.
        | false =>
            have parts : (bindingParts pattern).flatMap bindingLeaves =
                pattern.children.zipIdx.flatMap fun child =>
                  if isPatternAside pattern.kind child.1.field then [] else bindingLeaves child.1 := by
              rw [flatMap_bindingParts, Node.flatMap_children]
            rw [if_neg Bool.false_ne_true, if_neg (by simp [bindsAt_nil, leaf]), parts, List.map_flatMap,
              List.map_flatMap]
            apply List.flatMap_congr
            rintro ⟨child, index⟩ member
            have found := List.mk_mem_zipIdx_iff_getElem?.mp member
            rw [filter_bindsAt leaf found]
            split
            next => rfl
            next =>
              rw [inductionHypothesis child (List.mem_of_getElem? found), List.map_map]
              apply List.map_congr_left
              intro path _
              exact (Node.at?_cons found path).symm

/-- A pattern binds the texts of the leaves that its paths lead to which bind, each leaf once, from the
last to the first. -/
theorem boundNames_paths (source : ByteArray) (pattern : Node) :
    ∃ paths : List (List Nat), paths.Pairwise (· > ·) ∧ (∀ path, path ∈ paths ↔ BindsAt pattern path) ∧
      (boundNames source pattern).map some =
        paths.map fun path => (pattern.at? path).map (·.text source) := by
  obtain ⟨paths, ascending, binds, leaves⟩ := bindingLeaves_paths pattern
  refine ⟨paths.reverse, List.pairwise_reverse.mpr ascending, fun path => ?_, ?_⟩
  · rw [List.mem_reverse, binds]
  · have texts := congrArg (List.map (Option.map (·.text source))) leaves
    rw [List.map_map, List.map_map] at texts
    rw [boundNames_eq, List.map_reverse, List.map_reverse, List.map_map]
    exact congrArg List.reverse texts

/-! ## What binds a name -/

/-- Does one of some nodes introduce a name? -/
def Binds (source : ByteArray) (nodes : List Node) (name : String) : Prop :=
  ∃ node ∈ nodes, name ∈ namesOf source node

instance (source : ByteArray) (nodes : List Node) (name : String) :
    Decidable (Binds source nodes name) :=
  inferInstanceAs (Decidable (∃ node ∈ nodes, name ∈ namesOf source node))

variable {source : ByteArray} {root : Node} {name : String}

theorem mem_declaredNames :
    name ∈ declaredNames source root ↔ Binds source root.preorder name := by
  rw [declaredNames, ← List.flatMap_map Prod.fst, Node.map_walk]
  exact List.mem_flatMap

/-! ## Declarations at the top level -/

/-- A declaration stands at the top level, by itself or exported. -/
inductive TopLevel (root : Node) : Node → Prop
  | statement {declaration : Node} (member : declaration ∈ root.namedChildren) :
      TopLevel root declaration
  | exported {statement declaration : Node} (member : statement ∈ root.namedChildren)
      (kind : statement.kind = .exportStatement)
      (found : statement.child? .declaration = some declaration) : TopLevel root declaration

theorem isTopLevelDeclaration_of_mem {declaration : Node}
    (member : name ∈ declarationNames source declaration) :
    isTopLevelDeclaration declaration.kind = true := by
  unfold declarationNames at member
  split at member
  next => cases member
  next counts => simpa using counts

/-- The names that are collected are those of the declarations at the top level. -/
theorem mem_topLevelNames_iff : name ∈ topLevelNames source root ↔
    ∃ declaration, TopLevel root declaration ∧ name ∈ declarationNames source declaration := by
  unfold topLevelNames
  rw [List.mem_flatMap]
  constructor
  · rintro ⟨statement, member, named⟩
    split at named
    next kind =>
      cases found : statement.child? .declaration with
      | none =>
          rw [found] at named
          cases named
      | some declaration =>
          rw [found] at named
          exact ⟨declaration, .exported member kind found, named⟩
    next => exact ⟨statement, .statement member, named⟩
  · rintro ⟨declaration, top, named⟩
    cases top with
    | statement member =>
        have plain : declaration.kind ≠ .exportStatement := by
          intro exported
          have counts := isTopLevelDeclaration_of_mem named
          rw [exported] at counts
          cases counts
        exact ⟨declaration, member, by rwa [if_neg plain]⟩
    | @exported statement _ member kind found =>
        exact ⟨statement, member, by rwa [if_pos kind, found]⟩

/-! ## Both collections -/

theorem TopLevel.mem_preorder {declaration : Node} (top : TopLevel root declaration) :
    declaration ∈ root.preorder := by
  cases top with
  | statement member =>
      exact Node.mem_preorder_of_child (List.mem_filter.mp member).1 declaration.mem_preorder_self
  | exported member _ found =>
      apply Node.mem_preorder_of_child (List.mem_filter.mp member).1
      exact Node.mem_preorder_of_child (List.mem_of_find?_eq_some found) declaration.mem_preorder_self

/-- Declarations of constants and variables have no name of their own: in the grammar their declarators
have the names. -/
def ValuesNameless (root : Node) : Prop :=
  ∀ declaration, TopLevel root declaration →
    declaration.kind = .lexicalDeclaration ∨ declaration.kind = .variableDeclaration →
      declaration.child? .name = none

instance (root : Node) : Decidable (ValuesNameless root) :=
  decidable_of_iff
    (∀ statement ∈ root.namedChildren,
      (statement.kind = .lexicalDeclaration ∨ statement.kind = .variableDeclaration →
        statement.child? .name = none) ∧
      (statement.kind = .exportStatement → ∀ declaration ∈ statement.child? .declaration,
        declaration.kind = .lexicalDeclaration ∨ declaration.kind = .variableDeclaration →
          declaration.child? .name = none))
    ⟨fun checked declaration top values => by
      cases top with
      | statement member => exact (checked declaration member).1 values
      | exported member kind found => exact (checked _ member).2 kind declaration found values,
    fun nameless statement member => ⟨nameless statement (.statement member),
      fun kind declaration found => nameless declaration (.exported member kind found)⟩⟩

/-- What counts at the top level has a name of its own or declares constants or variables. -/
theorem isTopLevelDeclaration_cases {kind : Kind} (counts : isTopLevelDeclaration kind = true) :
    isNamedDeclaration kind = true ∨ kind = .lexicalDeclaration ∨ kind = .variableDeclaration := by
  simp only [isTopLevelDeclaration, List.contains_iff_mem, List.mem_cons, List.not_mem_nil,
    or_false] at counts
  rcases counts with rfl | rfl | rfl | rfl | values
  · exact .inl rfl
  · exact .inl rfl
  · exact .inl rfl
  · exact .inl rfl
  · exact .inr values

/-- The names of a declaration that counts at the top level are introduced by it or, if it has no name
of its own, by its declarators. -/
theorem binds_of_declarationNames {declaration : Node}
    (nameless : declaration.kind = .lexicalDeclaration ∨ declaration.kind = .variableDeclaration →
      declaration.child? .name = none)
    (named : name ∈ declarationNames source declaration) :
    Binds source declaration.preorder name := by
  have counts := isTopLevelDeclaration_of_mem named
  rw [declarationNames, counts, Bool.not_true, if_neg Bool.false_ne_true] at named
  cases own : declaration.child? .name with
  | some leaf =>
      rw [own] at named
      refine ⟨declaration, declaration.mem_preorder_self, ?_⟩
      rcases isTopLevelDeclaration_cases counts with isNamed | values
      · rw [namesOf, if_pos isNamed, own]
        exact named
      · rw [nameless values] at own
        cases own
  | none =>
      rw [own] at named
      obtain ⟨declarator, member, introduced⟩ := List.mem_flatMap.mp named
      refine ⟨declarator, ?_, ?_⟩
      · exact Node.mem_preorder_of_child (List.mem_filter.mp member).1 declarator.mem_preorder_self
      · split at introduced
        next declares =>
          rw [namesOf, declares]
          exact introduced
        next => cases introduced

/-- What is collected at the top level is among all that is declared. -/
theorem mem_declaredNames_of_topLevel (nameless : ValuesNameless root)
    (named : name ∈ topLevelNames source root) : name ∈ declaredNames source root := by
  obtain ⟨declaration, top, introduces⟩ := mem_topLevelNames_iff.mp named
  obtain ⟨node, visited, binds⟩ := binds_of_declarationNames (nameless declaration top) introduces
  exact mem_declaredNames.mpr ⟨node, Node.mem_preorder_trans top.mem_preorder visited, binds⟩

/-- A pattern binds the texts of the leaves that introduce names, each leaf once, where leaves lie in no
default value, in no key of a property and in no other leaf; the last case only matters where leaves have
parts. What declarations at the top level introduce is then among all that is declared. -/
theorem pattern_names_exact (source : ByteArray) :
    (∀ pattern : Node, ∃ paths : List (List Nat), paths.Pairwise (· > ·) ∧
      (∀ path, path ∈ paths ↔ BindsAt pattern path) ∧
      (boundNames source pattern).map some =
        paths.map fun path => (pattern.at? path).map (·.text source)) ∧
    (∀ pattern : Node,
      (∀ node ∈ pattern.preorder, isBindingLeaf node.kind = true → node.children = []) →
        ∀ path, BindsAt pattern path ↔
          (∃ leaf, pattern.at? path = some leaf ∧ isBindingLeaf leaf.kind = true) ∧
            Counts pattern path) ∧
    ∀ root : Node, ValuesNameless root →
      ∀ name ∈ topLevelNames source root, name ∈ declaredNames source root :=
  ⟨boundNames_paths source, fun _ plain _ => bindsAt_iff_of_plain plain,
    fun _ nameless _ => mem_declaredNames_of_topLevel nameless⟩

/-- What is checked of the tree of a text holds of it. -/
theorem exists_of_parse {text : String} {holds : Node → Prop} [DecidablePred holds]
    (checked : (match parse text.toUTF8 with
      | .ok root => decide (holds root)
      | .error _ => false) = true) :
    ∃ root, parse text.toUTF8 = .ok root ∧ holds root := by
  split at checked
  next root read => exact ⟨root, read, of_decide_eq_true checked⟩
  next => cases checked

/-- Patterns in one another, with default values and keys that are computed, and a function. -/
private def nestedPatterns : String :=
  "export const \x7b a, b: [c = d, ...e], [f]: \x7b g = h \x7d \x7d = i;\nfunction j(k) \x7b\x7d\n"

theorem pattern_names_exact_nested :
    ∃ root, parse nestedPatterns.toUTF8 = .ok root ∧ ValuesNameless root ∧
      topLevelNames nestedPatterns.toUTF8 root = ["g", "e", "c", "a", "j"] ∧
      (∀ name ∈ topLevelNames nestedPatterns.toUTF8 root,
        name ∈ declaredNames nestedPatterns.toUTF8 root) ∧
      ∃ pattern ∈ root.preorder, pattern.kind = .objectPattern ∧
        (∀ node ∈ pattern.preorder, isBindingLeaf node.kind = true → node.children = []) ∧
        boundNames nestedPatterns.toUTF8 pattern = ["g", "e", "c", "a"] ∧
        ∃ paths : List (List Nat), paths.length = 4 ∧
          ∀ path, path ∈ paths ↔
            (∃ leaf, pattern.at? path = some leaf ∧ isBindingLeaf leaf.kind = true) ∧
              Counts pattern path := by
  obtain ⟨root, read, nameless, names, pattern, visited, kind, plain, bound⟩ :=
    @exists_of_parse nestedPatterns (fun root => ValuesNameless root ∧
      topLevelNames nestedPatterns.toUTF8 root = ["g", "e", "c", "a", "j"] ∧
      ∃ pattern ∈ root.preorder, pattern.kind = .objectPattern ∧
        (∀ node ∈ pattern.preorder, isBindingLeaf node.kind = true → node.children = []) ∧
        boundNames nestedPatterns.toUTF8 pattern = ["g", "e", "c", "a"])
      _ (by decide +kernel)
  obtain ⟨patterns, leaves, collected⟩ := pattern_names_exact nestedPatterns.toUTF8
  obtain ⟨paths, _, binds, texts⟩ := patterns pattern
  refine ⟨root, read, nameless, names, collected root nameless, pattern, visited, kind, plain, bound,
    paths, ?_, fun path => (binds path).trans (leaves pattern plain path)⟩
  have counted := congrArg List.length texts
  rw [List.length_map, List.length_map, bound] at counted
  exact counted.symm

end Lectern.Module
