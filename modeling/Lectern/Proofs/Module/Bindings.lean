/-
Module: Lectern.Proofs.Module.Bindings
Purpose: Which nodes of a module survive the elision of imports and the lowering, what binds the members
  of the UI library that they refer to, and which members are reported as bound by nothing. The check
  counts bindings in all of a tree, so a name may be bound by nothing but what is taken out of it; it
  leaves out references inside of imports alone, so a member may be reported for the sake of a re-export
  or of erased type syntax.
Trusted boundary: none
Main exports: lostParts, reached_or_lost, surviving, removedParts, surviving_or_removed,
  mem_unresolvedNames, unresolvedNames_eq_nil, surviving_names_bound, surviving_name_unbound, RefersTo,
  Reported, RefersInVain, reported_in_vain_iff, member_reported_in_vain
-/
import Lectern.Module.Imports
import Lectern.Proofs.Module.Names
import Lectern.Proofs.Module.Removal
import Lectern.Proofs.Module.Unresolved

namespace Lectern.Module

open Lectern.Syntax Lectern.Text

/-! ## What survives and what does not -/

/-- The parts of a node that the lowering comes to which it leaves out: those of an assertion around
its first named one, all of an export of types alone, and otherwise those that are erased. -/
def lostParts (node : Node) : List Node :=
  if isAssertion node.kind then
    node.children.takeWhile (!·.named) ++ (node.children.dropWhile (!·.named)).tail
  else if exportsTypesOnly node then node.children
  else node.children.filter (isErased node.kind)

/-- A part of an assertion is its first named one or is left out. -/
private theorem found_or_lost {child : Node} {nodes : List Node} (member : child ∈ nodes) :
    nodes.find? (·.named) = some child ∨
      child ∈ nodes.takeWhile (!·.named) ++ (nodes.dropWhile (!·.named)).tail := by
  induction nodes with
  | nil => cases member
  | cons first rest inductionHypothesis =>
      cases named : first.named with
      | true =>
          rcases List.mem_cons.mp member with rfl | inside
          · exact Or.inl (by simp [named])
          · exact Or.inr (by simp [named, inside])
      | false =>
          rcases List.mem_cons.mp member with rfl | inside
          · exact Or.inr (by simp [named])
          · rcases inductionHypothesis inside with found | lost
            · exact Or.inl (by simp [named, found])
            · refine Or.inr ?_
              simp only [List.takeWhile_cons, List.dropWhile_cons, named, Bool.not_false, if_true,
                List.cons_append]
              exact List.mem_cons_of_mem _ lost

/-- What a walk over trees visits in a tree is its root or is visited in one of its children. -/
def Descends (visits : Node → Node → Prop) : Prop :=
  ∀ {node root}, visits node root → node = root ∨ ∃ child ∈ root.children, visits node child

theorem descends_preorder : Descends fun node root => node ∈ root.preorder := Node.mem_preorder.mp

/-- The lowering comes to what a walk visits in a tree, or it leaves out a part in which that is
visited. -/
theorem reached_or_lost {visits : Node → Node → Prop} (descends : Descends visits) {root node : Node}
    (visited : visits node root) :
    node ∈ reached root ∨ ∃ part ∈ (reached root).flatMap lostParts, visits node part := by
  induction root using Node.induct with
  | step root inductionHypothesis =>
      rcases descends visited with rfl | ⟨child, member, inside⟩
      · exact Or.inl (by rw [reached_eq]; exact List.mem_cons_self)
      · rw [reached_eq, List.flatMap_cons]
        -- What holds of a child that the lowering goes into holds of the tree.
        have goesInto {others : List Node} (same : ∀ other ∈ reached child, other ∈ others) :
            node ∈ root :: others ∨
              ∃ part ∈ lostParts root ++ others.flatMap lostParts, visits node part := by
          rcases inductionHypothesis child member inside with comes | ⟨part, lost, holds⟩
          · exact Or.inl (List.mem_cons_of_mem _ (same node comes))
          · obtain ⟨other, comes, left⟩ := List.mem_flatMap.mp lost
            exact Or.inr ⟨part, List.mem_append_right _
              (List.mem_flatMap.mpr ⟨other, same other comes, left⟩), holds⟩
        have leavesOut {others : List Node} (lost : child ∈ lostParts root) :
            node ∈ root :: others ∨
              ∃ part ∈ lostParts root ++ others.flatMap lostParts, visits node part :=
          Or.inr ⟨child, List.mem_append_left _ lost, inside⟩
        by_cases asserts : isAssertion root.kind = true
        · rw [if_pos asserts]
          rcases found_or_lost member with found | lost
          · exact goesInto fun other comes => by simpa [found] using comes
          · exact leavesOut (by rwa [lostParts, if_pos asserts])
        · rw [if_neg asserts]
          by_cases types : exportsTypesOnly root = true
          · rw [if_pos types]
            exact leavesOut (by rwa [lostParts, if_neg asserts, if_pos types])
          · rw [if_neg types]
            cases erased : isErased root.kind child with
            | true =>
                exact leavesOut (by
                  rw [lostParts, if_neg asserts, if_neg types]
                  exact List.mem_filter.mpr ⟨member, erased⟩)
            | false =>
                exact goesInto fun other comes => List.mem_flatMap.mpr
                  ⟨child, List.mem_filter.mpr ⟨member, by rw [erased]; rfl⟩, comes⟩

/-- The statements of a module that the elision of imports keeps. -/
def keptStatements (root : Node) : List Node := root.children.filter (!isDependency ·)

/-- The nodes below the root of a module that survive the elision of imports and the lowering. -/
def surviving (root : Node) : List Node := reachedAll root.kind (keptStatements root)

/-- The parts of a module that are taken out: imports and re-exports, and what the lowering of the
other statements leaves out. -/
def removedParts (root : Node) : List Node :=
  root.children.filter isDependency ++ (keptStatements root).filter (isErased root.kind) ++
    (surviving root).flatMap lostParts

/-- What a walk visits in a module is its root, or it survives, or it is visited in a part that is taken
out. -/
theorem surviving_or_removed {visits : Node → Node → Prop} (descends : Descends visits)
    {root node : Node} (visited : visits node root) :
    node = root ∨ node ∈ surviving root ∨ ∃ part ∈ removedParts root, visits node part := by
  rcases descends visited with rfl | ⟨child, member, inside⟩
  · exact Or.inl rfl
  · refine Or.inr ?_
    unfold removedParts
    cases depends : isDependency child with
    | true =>
        exact Or.inr ⟨child, List.mem_append_left _ (List.mem_append_left _
          (List.mem_filter.mpr ⟨member, depends⟩)), inside⟩
    | false =>
        have kept : child ∈ keptStatements root :=
          List.mem_filter.mpr ⟨member, by rw [depends]; rfl⟩
        cases erased : isErased root.kind child with
        | true =>
            exact Or.inr ⟨child, List.mem_append_left _ (List.mem_append_right _
              (List.mem_filter.mpr ⟨kept, erased⟩)), inside⟩
        | false =>
            have survives : ∀ other ∈ reached child, other ∈ surviving root := fun other comes => by
              rw [surviving, reachedAll_eq]
              exact List.mem_flatMap.mpr
                ⟨child, List.mem_filter.mpr ⟨kept, by rw [erased]; rfl⟩, comes⟩
            rcases reached_or_lost descends inside with comes | ⟨part, lost, holds⟩
            · exact Or.inl (survives node comes)
            · obtain ⟨other, comes, left⟩ := List.mem_flatMap.mp lost
              exact Or.inr ⟨part, List.mem_append_right _
                (List.mem_flatMap.mpr ⟨other, survives other comes, left⟩), holds⟩

/-! ## References outside of imports -/

/-- What the lowering comes to in a tree where it comes to no node of a category does not lie below
one. -/
theorem mem_preorderOutside_of_reached {cut : Kind} {root node : Node}
    (none : ∀ other ∈ reached root, other.kind ≠ cut) (comes : node ∈ reached root) :
    node ∈ root.preorderOutside cut := by
  induction root using Node.induct with
  | step root inductionHypothesis =>
      have here : root.kind ≠ cut := none root (by rw [reached_eq]; exact List.mem_cons_self)
      rw [Node.preorderOutside_eq, if_neg here]
      rw [reached_eq] at none comes
      have below {child : Node} (member : child ∈ root.children)
          (same : ∀ other ∈ reached child, other.kind ≠ cut) (comes : node ∈ reached child) :
          node ∈ root :: root.children.flatMap (·.preorderOutside cut) :=
        List.mem_cons_of_mem _ (List.mem_flatMap.mpr
          ⟨child, member, inductionHypothesis child member same comes⟩)
      rcases List.mem_cons.mp comes with rfl | inside
      · exact List.mem_cons_self
      · split at inside
        next asserts =>
          rw [if_pos asserts] at none
          cases first : root.children.find? (·.named) with
          | none => simp [first] at inside
          | some inner =>
              simp only [first, Option.map_some, Option.getD_some] at inside none
              exact below (List.mem_of_find?_eq_some first)
                (fun other comes => none other (List.mem_cons_of_mem _ comes)) inside
        next asserts =>
          rw [if_neg asserts] at none
          split at inside
          next => cases inside
          next types =>
            rw [if_neg types] at none
            obtain ⟨child, kept, comes⟩ := List.mem_flatMap.mp inside
            exact below (List.mem_filter.mp kept).1 (fun other comes => none other
              (List.mem_cons_of_mem _ (List.mem_flatMap.mpr ⟨child, kept, comes⟩))) comes

/-- A reference that survives is one that the check looks at, where imports stand at the top level. -/
theorem mem_references_of_surviving {root node : Node} (program : root.kind = .program)
    (topLevel : ∀ other ∈ surviving root, other.kind ≠ .importStatement)
    (survives : node ∈ surviving root) (refers : isReference node = true) :
    node ∈ references root := by
  refine List.mem_filter.mpr ⟨?_, refers⟩
  rw [Node.preorderOutside_eq, if_neg (by rw [program]; decide)]
  rw [surviving, reachedAll_eq] at survives topLevel
  obtain ⟨child, kept, comes⟩ := List.mem_flatMap.mp survives
  have member : child ∈ root.children := (List.mem_filter.mp (List.mem_filter.mp kept).1).1
  refine List.mem_cons_of_mem _ (List.mem_flatMap.mpr ⟨child, member, ?_⟩)
  exact mem_preorderOutside_of_reached
    (fun other inside => topLevel other (List.mem_flatMap.mpr ⟨child, kept, inside⟩)) comes

/-! ## What binds a name -/

variable {source : ByteArray}

/-- A member is reported exactly if nothing in the module binds it and something outside of imports
refers to it. -/
theorem mem_unresolvedNames {root : Node} {name : String} :
    name ∈ (unresolvedNames source root).map Prod.snd ↔
      isUnboundMember name = true ∧ ¬ Binds source root.preorder name ∧
        ∃ node ∈ references root, node.text source = name := by
  rw [unresolvedNames, mem_reportUnresolved, mem_declaredNames]
  simp only [List.not_mem_nil, not_false_eq_true, true_and, mem_references]
  constructor
  · rintro ⟨unbound, unbinds, ⟨node, around⟩, visited, refers, outside, same⟩
    exact ⟨unbound, unbinds, node, ⟨refers, around, visited, outside⟩, same⟩
  · rintro ⟨unbound, unbinds, node, ⟨refers, around, visited, outside⟩, same⟩
    exact ⟨unbound, unbinds, (node, around), visited, refers, outside, same⟩

/-- Nothing is unresolved in a module where each unbound member that is referred to outside of
imports is bound somewhere. -/
theorem unresolvedNames_eq_nil {root : Node} :
    unresolvedNames source root = [] ↔
      ∀ node ∈ references root, isUnboundMember (node.text source) = true →
        Binds source root.preorder (node.text source) := by
  rw [← List.map_eq_nil_iff (f := Prod.snd), List.eq_nil_iff_forall_not_mem]
  simp only [mem_unresolvedNames]
  constructor
  · intro nothing node refers unbound
    apply Decidable.byContradiction
    intro unbinds
    exact nothing _ ⟨unbound, unbinds, node, refers, rfl⟩
  · rintro all name ⟨unbound, unbinds, node, refers, rfl⟩
    exact unbinds (all node refers unbound)

/-- In a module that resolves, each reference to an unbound member that survives names something that
is bound by what survives or by a part that is taken out. So where the parts that are taken out bind
no such member, or only ones that are bound again by what survives, all that survives is bound by what
survives. -/
theorem surviving_names_bound {root : Node} (program : root.kind = .program)
    (resolved : unresolvedNames source root = [])
    (topLevel : ∀ node ∈ surviving root, node.kind ≠ .importStatement) :
    (∀ node ∈ surviving root, isReference node = true →
      isUnboundMember (node.text source) = true →
        Binds source (surviving root) (node.text source) ∨
          ∃ part ∈ removedParts root, Binds source part.preorder (node.text source)) ∧
    ((∀ part ∈ removedParts root, ∀ name, isUnboundMember name = true →
        Binds source part.preorder name → Binds source (surviving root) name) →
      ∀ node ∈ surviving root, isReference node = true →
        isUnboundMember (node.text source) = true →
          Binds source (surviving root) (node.text source)) := by
  have bound : ∀ node ∈ surviving root, isReference node = true →
      isUnboundMember (node.text source) = true →
        Binds source (surviving root) (node.text source) ∨
          ∃ part ∈ removedParts root, Binds source part.preorder (node.text source) := by
    intro node survives refers unbound
    obtain ⟨binder, visited, binds⟩ := unresolvedNames_eq_nil.mp resolved node
      (mem_references_of_surviving program topLevel survives refers) unbound
    rcases surviving_or_removed descends_preorder visited with rfl | kept | ⟨part, removed, inside⟩
    · simp [namesOf, isNamedDeclaration, patternField, program] at binds
    · exact Or.inl ⟨binder, kept, binds⟩
    · exact Or.inr ⟨part, removed, binder, inside, binds⟩
  refine ⟨bound, fun honest node survives refers unbound => ?_⟩
  rcases bound node survives refers unbound with kept | ⟨part, removed, binds⟩
  · exact kept
  · exact honest part removed _ unbound binds

/-- A member that the module declares itself, with a type that names it too. -/
private def declaredMember : String := "let memo: (memo: T) => T = f;\nmemo;\n"

/-- A member that only the type of a function names. -/
private def erasedMember : String := "type F = (memo: number) => void;\nmemo(1);\n"

/-- A module that resolves, and what it refers to is bound by what survives. -/
theorem surviving_names_bound_declared :
    ∃ root, parse declaredMember.toUTF8 = .ok root ∧
      (root.kind = .program ∧ unresolvedNames declaredMember.toUTF8 root = [] ∧
        ∀ node ∈ surviving root, node.kind ≠ .importStatement) ∧
      (∃ node ∈ surviving root, isReference node = true ∧
        isUnboundMember (node.text declaredMember.toUTF8) = true) ∧
      ∀ node ∈ surviving root, isReference node = true →
        isUnboundMember (node.text declaredMember.toUTF8) = true →
          Binds declaredMember.toUTF8 (surviving root) (node.text declaredMember.toUTF8) := by
  obtain ⟨root, read, ⟨program, resolved, topLevel⟩, referred, honest⟩ :=
    @exists_of_parse declaredMember (fun root =>
      (root.kind = .program ∧ unresolvedNames declaredMember.toUTF8 root = [] ∧
        ∀ node ∈ surviving root, node.kind ≠ .importStatement) ∧
      (∃ node ∈ surviving root, isReference node = true ∧
        isUnboundMember (node.text declaredMember.toUTF8) = true) ∧
      ∀ part ∈ removedParts root, ∀ binder ∈ part.preorder,
        ∀ name ∈ namesOf declaredMember.toUTF8 binder, isUnboundMember name = true →
          Binds declaredMember.toUTF8 (surviving root) name)
      _ (by decide +kernel)
  refine ⟨root, read, ⟨program, resolved, topLevel⟩, referred, ?_⟩
  refine (surviving_names_bound program resolved topLevel).2 ?_
  rintro part removed name unbound ⟨binder, inside, binds⟩
  exact honest part removed binder inside name binds unbound

/-- A module resolves although nothing that survives binds a member that it still refers to. -/
theorem surviving_name_unbound :
    ¬ ∀ (source : ByteArray) (root : Node), root.kind = .program →
      unresolvedNames source root = [] →
      ∀ node ∈ surviving root, isReference node = true → isUnboundMember (node.text source) = true →
        Binds source (surviving root) (node.text source) := by
  intro bound
  obtain ⟨root, _, program, resolved, node, survives, refers, unbound, lost⟩ :=
    @exists_of_parse erasedMember (fun root =>
      root.kind = .program ∧ unresolvedNames erasedMember.toUTF8 root = [] ∧
      ∃ node ∈ surviving root, isReference node = true ∧
        isUnboundMember (node.text erasedMember.toUTF8) = true ∧
        ¬ Binds erasedMember.toUTF8 (surviving root) (node.text erasedMember.toUTF8))
      _ (by decide +kernel)
  exact lost (bound _ root program resolved node survives refers unbound)

end Lectern.Module

namespace Lectern.Module

open Lectern.Syntax Lectern.Text

variable {source : ByteArray} {root node : Node} {name : String}

/-! ## Walks that leave out imports -/

theorem descends_preorderOutside (cut : Kind) :
    Descends fun node root => node ∈ root.preorderOutside cut := by
  intro node root visited
  rw [Node.preorderOutside_eq, List.mem_cons] at visited
  rcases visited with rfl | below
  · exact Or.inl rfl
  · split at below
    next => cases below
    next => exact Or.inr (List.mem_flatMap.mp below)

theorem mem_preorder_of_outside {cut : Kind} (visited : node ∈ root.preorderOutside cut) :
    node ∈ root.preorder := by
  induction root using Node.induct with
  | step root inductionHypothesis =>
      rcases descends_preorderOutside cut visited with rfl | ⟨child, member, inside⟩
      · exact Node.mem_preorder_self node
      · apply Node.mem_preorder_of_child member
        exact inductionHypothesis child member inside

/-! ## References -/

/-- Does one of some nodes refer to a name? -/
def RefersTo (source : ByteArray) (nodes : List Node) (name : String) : Prop :=
  ∃ node ∈ nodes, isReference node = true ∧ node.text source = name

instance (source : ByteArray) (nodes : List Node) (name : String) :
    Decidable (RefersTo source nodes name) :=
  inferInstanceAs (Decidable (∃ node ∈ nodes, isReference node = true ∧ node.text source = name))

/-- A member is reported as bound by nothing. -/
def Reported (source : ByteArray) (root : Node) (name : String) : Prop :=
  name ∈ (unresolvedNames source root).map Prod.snd

instance (source : ByteArray) (root : Node) (name : String) : Decidable (Reported source root name) :=
  inferInstanceAs (Decidable (name ∈ (unresolvedNames source root).map Prod.snd))

/-- Something that is taken out of a module and is no import holds a reference to a name, outside of
imports: a re-export does, or what the lowering leaves out. -/
def RefersInVain (source : ByteArray) (root : Node) (name : String) : Prop :=
  ∃ part ∈ removedParts root, part.kind ≠ .importStatement ∧
    ∃ node ∈ part.preorder, node ∈ references root ∧ node.text source = name

/-- A reference outside of imports is the whole tree, or it survives, or it belongs to something that is
taken out and is no import. -/
theorem reference_cases (refers : node ∈ references root) :
    node ∈ root :: surviving root ∨ ∃ part ∈ removedParts root, part.kind ≠ .importStatement ∧
      node ∈ part.preorder := by
  obtain ⟨visited, isReference⟩ := List.mem_filter.mp refers
  rcases surviving_or_removed (descends_preorderOutside .importStatement) visited with
    rfl | survives | ⟨part, removed, inside⟩
  · exact Or.inl List.mem_cons_self
  · exact Or.inl (List.mem_cons_of_mem _ survives)
  · refine Or.inr ⟨part, removed, fun isImport => ?_, mem_preorder_of_outside inside⟩
    -- Nothing inside of an import is visited but the statement itself, which is no reference.
    rw [Node.preorderOutside_eq, if_pos isImport, List.mem_singleton] at inside
    rw [inside, Module.isReference, isImport] at isReference
    cases isReference

/-- Of a member to which nothing that survives refers, it is reported that nothing binds it exactly if
that is so and something that is taken out refers to it, imports aside. -/
theorem reported_in_vain_iff (gone : ¬ RefersTo source (root :: surviving root) name) :
    Reported source root name ↔ isUnboundMember name = true ∧ ¬ Binds source root.preorder name ∧
      RefersInVain source root name := by
  rw [Reported, mem_unresolvedNames]
  constructor
  · rintro ⟨unbound, unbinds, node, refers, names⟩
    refine ⟨unbound, unbinds, ?_⟩
    rcases reference_cases refers with kept | ⟨part, removed, noImport, inside⟩
    · exact absurd ⟨node, kept, (List.mem_filter.mp refers).2, names⟩ gone
    · exact ⟨part, removed, noImport, node, inside, refers, names⟩
  · rintro ⟨unbound, unbinds, _, _, _, node, _, refers, names⟩
    exact ⟨unbound, unbinds, node, refers, names⟩

/-- A member that is only re-exported, and one that only the query of a type names. -/
private def vainReferences : String := "export \x7b memo \x7d from './y';\ntype T = typeof lazy;\n"

private theorem reported_vainReferences {name : String} (member : name = "memo" ∨ name = "lazy") :
    ∃ root, parse vainReferences.toUTF8 = .ok root ∧
      ¬ RefersTo vainReferences.toUTF8 (root :: surviving root) name ∧
        Reported vainReferences.toUTF8 root name := by
  apply exists_of_parse
  rcases member with rfl | rfl
  · decide +kernel
  · decide +kernel

theorem reported_in_vain_iff_queried :
    ∃ root, parse vainReferences.toUTF8 = .ok root ∧
      ¬ RefersTo vainReferences.toUTF8 (root :: surviving root) "lazy" ∧
      Reported vainReferences.toUTF8 root "lazy" ∧ RefersInVain vainReferences.toUTF8 root "lazy" := by
  obtain ⟨root, read, gone, reported⟩ := reported_vainReferences (Or.inr rfl)
  exact ⟨root, read, gone, reported, ((reported_in_vain_iff gone).mp reported).2.2⟩

/-- A member is reported although every reference to it belongs to something that is taken out. -/
theorem member_reported_in_vain :
    ¬ ∀ (source : ByteArray) (root : Node) (name : String),
      (∀ node ∈ root.preorder, isReference node = true → node.text source = name →
        ∃ part ∈ removedParts root, node ∈ part.preorder) →
      ¬ Reported source root name := by
  intro silent
  obtain ⟨root, _, gone, reported⟩ := reported_vainReferences (Or.inl rfl)
  apply silent _ root "memo" _ reported
  intro node visited refers names
  rcases surviving_or_removed descends_preorder visited with rfl | survives | removed
  · exact absurd ⟨node, List.mem_cons_self, refers, names⟩ gone
  · exact absurd ⟨node, List.mem_cons_of_mem _ survives, refers, names⟩ gone
  · exact removed

end Lectern.Module
