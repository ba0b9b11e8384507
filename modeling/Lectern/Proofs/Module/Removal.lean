/-
Module: Lectern.Proofs.Module.Removal
Purpose: What the lowering of a tree without markup comes to, which byte ranges it takes out on the
  way, and which constructs it refuses, read off the tree alone; and the bytes of a source outside
  of some ranges.
Trusted boundary: none
Main exports: reached, refusal?, removedRanges, bytesOutside, bytesOutside_append,
  removedRanges_within
-/
import Lectern.Module.Lowering
import Lectern.Proofs.Syntax.Walks

namespace Lectern.Module

open Lectern.Syntax Lectern.Text

/-! ## What the lowering comes to -/

/-- Is this an expression that only tells the type of another one? -/
def isAssertion (kind : Kind) : Bool :=
  kind == .asExpression || kind == .satisfiesExpression || kind == .nonNullExpression

/-- Is this the kind of a parameter? -/
def isParameter (kind : Kind) : Bool :=
  kind == .requiredParameter || kind == .optionalParameter

/-- Is this an export of types alone? -/
def exportsTypesOnly (node : Node) : Bool := node.kind == .exportStatement && isTypeOnlyExport node

mutual

/-- The nodes that the lowering comes to, in document order. It passes over what is erased and over
all parts of an export of types alone, and of an assertion it takes the first named part. -/
def reached : Node → List Node
  | ⟨kind, named, start, stop, field, missing, children⟩ =>
    let node : Node := ⟨kind, named, start, stop, field, missing, children⟩
    node ::
      (if isAssertion kind then reachedFirst children
      else if exportsTypesOnly node then []
      else reachedAll kind children)

/-- The nodes that the lowering comes to in those of some neighbours that their parent keeps. -/
def reachedAll (parent : Kind) : List Node → List Node
  | [] => []
  | child :: rest =>
    (if isErased parent child then [] else reached child) ++ reachedAll parent rest

/-- The nodes that the lowering comes to in the first named one of some neighbours. -/
def reachedFirst : List Node → List Node
  | [] => []
  | child :: rest => if child.named then reached child else reachedFirst rest

end

/-- Why the lowering refuses a node that it comes to: an unsupported construct, or a parameter with a
modifier. -/
def refusal? (source : ByteArray) (node : Node) : Option LoweringFault :=
  match unsupportedConstruct node.kind with
  | some construct => some (.unsupported (node.position source) construct)
  | none =>
    if isParameter node.kind && node.children.any (isParameterModifier ·.kind) then
      some (.parameterProperty (node.position source))
    else none

/-- The byte ranges that the lowering takes out at a node that it comes to: an export of types
alone, the parts of an assertion around its first named one, and the children that are erased. -/
def rangesAt (node : Node) : List (Nat × Nat) :=
  if isAssertion node.kind then
    match node.children.find? (·.named) with
    | some inner => [(node.start, inner.start), (inner.stop, node.stop)]
    | none => []
  else if exportsTypesOnly node then [(node.start, node.stop)]
  else (node.children.filter (isErased node.kind)).map fun child => (child.start, child.stop)

/-- The byte ranges that the lowering of a tree takes out. -/
def removedRanges (root : Node) : List (Nat × Nat) := (reached root).flatMap rangesAt

theorem reachedAll_eq (parent : Kind) (nodes : List Node) :
    reachedAll parent nodes = (nodes.filter (!isErased parent ·)).flatMap reached := by
  induction nodes with
  | nil => rfl
  | cons first rest inductionHypothesis =>
      rw [reachedAll, inductionHypothesis]
      by_cases erased : isErased parent first = true
      · simp [erased]
      · simp [erased]

theorem reachedFirst_eq (nodes : List Node) :
    reachedFirst nodes = ((nodes.find? (·.named)).map reached).getD [] := by
  induction nodes with
  | nil => rfl
  | cons first rest inductionHypothesis =>
      rw [reachedFirst, inductionHypothesis]
      by_cases named : first.named = true
      · simp [named]
      · simp [named]

theorem reached_eq (node : Node) :
    reached node = node ::
      (if isAssertion node.kind then ((node.children.find? (·.named)).map reached).getD []
      else if exportsTypesOnly node then []
      else (node.children.filter (!isErased node.kind ·)).flatMap reached) := by
  cases node
  rw [reached, reachedFirst_eq, reachedAll_eq]

/-- All that the lowering comes to belongs to the tree. -/
theorem mem_preorder_of_reached {root node : Node} (comes : node ∈ reached root) :
    node ∈ root.preorder := by
  induction root using Node.induct with
  | step root inductionHypothesis =>
      rw [reached_eq, List.mem_cons] at comes
      rcases comes with rfl | below
      · exact Node.mem_preorder_self node
      · split at below
        next =>
          cases first : root.children.find? (·.named) with
          | none => simp [first] at below
          | some inner =>
              have member := List.mem_of_find?_eq_some first
              simp only [first, Option.map_some, Option.getD_some] at below
              exact Node.mem_preorder_of_child member (inductionHypothesis inner member below)
        next =>
          split at below
          next => cases below
          next =>
            obtain ⟨child, kept, inside⟩ := List.mem_flatMap.mp below
            have member := (List.mem_filter.mp kept).1
            exact Node.mem_preorder_of_child member (inductionHypothesis child member inside)

/-! ## Trees over a source -/

/-- The parts of a node stand one behind the other inside of it, and an assertion has a named one. -/
structure WellPlaced (node : Node) : Prop where
  follows : Node.Follows node.start node.stop node.children
  asserted : isAssertion node.kind = true → ∃ inner ∈ node.children, inner.named = true

instance (node : Node) : Decidable (WellPlaced node) :=
  decidable_of_iff
    (Node.Follows node.start node.stop node.children ∧
      (isAssertion node.kind = true → ∃ inner ∈ node.children, inner.named = true))
    ⟨fun parts => ⟨parts.1, parts.2⟩, fun placed => ⟨placed.follows, placed.asserted⟩⟩

/-- A tree over a source. -/
structure WellFormed (source : ByteArray) (root : Node) : Prop where
  covered : root.stop ≤ source.size
  placed : ∀ node ∈ root.preorder, WellPlaced node

instance (source : ByteArray) (root : Node) : Decidable (WellFormed source root) :=
  decidable_of_iff (root.stop ≤ source.size ∧ ∀ node ∈ root.preorder, WellPlaced node)
    ⟨fun parts => ⟨parts.1, parts.2⟩, fun formed => ⟨formed.covered, formed.placed⟩⟩

/-- All nodes of a tree lie between its ends. -/
theorem within_of_mem {root node : Node} (placed : ∀ node ∈ root.preorder, WellPlaced node)
    (visited : node ∈ root.preorder) :
    root.start ≤ node.start ∧ node.start ≤ node.stop ∧ node.stop ≤ root.stop :=
  Node.Nested.within (fun other inside => (placed other inside).follows) visited

/-- What is taken out at a node lies between its ends. -/
private theorem rangesAt_within {node : Node} (placed : WellPlaced node) {range : Nat × Nat}
    (taken : range ∈ rangesAt node) : node.start ≤ range.1 ∧ range.2 ≤ node.stop := by
  unfold rangesAt at taken
  split at taken
  next =>
    split at taken
    next inner first =>
      have between := placed.follows.between (List.mem_of_find?_eq_some first)
      simp only [List.mem_cons, List.not_mem_nil, or_false] at taken
      rcases taken with rfl | rfl
      · exact ⟨Nat.le_refl _, by simp only; omega⟩
      · exact ⟨by simp only; omega, Nat.le_refl _⟩
    next => cases taken
  next =>
    split at taken
    next =>
      rw [List.mem_singleton.mp taken]
      exact ⟨Nat.le_refl _, Nat.le_refl _⟩
    next =>
      obtain ⟨child, erased, rfl⟩ := List.mem_map.mp taken
      have between := placed.follows.between (List.mem_filter.mp erased).1
      exact ⟨between.1, between.2.2⟩

/-- What the lowering of a tree takes out lies between its ends. -/
theorem removedRanges_within {root : Node} (placed : ∀ node ∈ root.preorder, WellPlaced node)
    {range : Nat × Nat} (taken : range ∈ removedRanges root) :
    root.start ≤ range.1 ∧ range.2 ≤ root.stop := by
  obtain ⟨node, comes, here⟩ := List.mem_flatMap.mp taken
  have visited := mem_preorder_of_reached comes
  have inside := within_of_mem placed visited
  have between := rangesAt_within (placed node visited) here
  omega

/-! ## The bytes outside of some ranges -/

/-- Does an offset lie in one of some ranges? -/
def isInside (ranges : List (Nat × Nat)) (offset : Nat) : Bool :=
  ranges.any fun range => range.1 ≤ offset && offset < range.2

/-- The bytes of a source between two offsets that lie in none of some ranges, in order. -/
def bytesOutside (source : ByteArray) (ranges : List (Nat × Nat)) (start stop : Nat) : ByteArray :=
  ⟨(((List.range' start (stop - start)).filter (!isInside ranges ·)).map
    (Utf8.byteAt source)).toArray⟩

@[simp]
theorem isInside_append (left right : List (Nat × Nat)) (offset : Nat) :
    isInside (left ++ right) offset = (isInside left offset || isInside right offset) :=
  List.any_append

/-- An offset outside of the stretch in which all ranges lie is in none of them. -/
theorem isInside_eq_false {ranges : List (Nat × Nat)} {start stop offset : Nat}
    (within : ∀ range ∈ ranges, start ≤ range.1 ∧ range.2 ≤ stop)
    (apart : offset < start ∨ stop ≤ offset) : isInside ranges offset = false := by
  unfold isInside
  rw [List.any_eq_false]
  intro range member
  have between := within range member
  simp only [Bool.and_eq_true, decide_eq_true_eq, not_and, Nat.not_lt]
  omega

variable {source : ByteArray}

/-- Neighbouring stretches make one. -/
theorem bytesOutside_append {ranges : List (Nat × Nat)} {start middle stop : Nat}
    (first : start ≤ middle) (second : middle ≤ stop) :
    bytesOutside source ranges start middle ++ bytesOutside source ranges middle stop =
      bytesOutside source ranges start stop := by
  have whole : List.range' start (stop - start) =
      List.range' start (middle - start) ++ List.range' middle (stop - middle) := by
    have split := @List.range'_append start (middle - start) (stop - middle) 1
    rw [show start + 1 * (middle - start) = middle by omega,
      show middle - start + (stop - middle) = stop - start by omega] at split
    exact split.symm
  apply ByteArray.ext
  rw [ByteArray.data_append]
  simp only [bytesOutside, whole, List.filter_append, List.map_append, List.append_toArray]

/-- Only the offsets of the stretch count. -/
theorem bytesOutside_congr {ranges others : List (Nat × Nat)} {start stop : Nat}
    (same : ∀ offset, start ≤ offset → offset < stop →
      isInside ranges offset = isInside others offset) :
    bytesOutside source ranges start stop = bytesOutside source others start stop := by
  unfold bytesOutside
  congr 3
  apply List.filter_congr
  intro offset member
  rw [List.mem_range'_1] at member
  rw [same offset member.1 (by omega)]

/-- Nothing is left of a stretch that lies in the ranges. -/
theorem bytesOutside_of_covered {ranges : List (Nat × Nat)} {start stop : Nat}
    (covered : ∀ offset, start ≤ offset → offset < stop → isInside ranges offset = true) :
    bytesOutside source ranges start stop = ByteArray.empty := by
  have nothing : (List.range' start (stop - start)).filter (!isInside ranges ·) = [] := by
    rw [List.filter_eq_nil_iff]
    intro offset member
    rw [List.mem_range'_1] at member
    simp [covered offset member.1 (by omega)]
  unfold bytesOutside
  rw [nothing]
  rfl

/-- A stretch of the source that no range touches stays as it is. -/
theorem bytesOutside_of_clear {ranges : List (Nat × Nat)} {start stop : Nat}
    (inside : stop ≤ source.size)
    (clear : ∀ offset, start ≤ offset → offset < stop → isInside ranges offset = false) :
    bytesOutside source ranges start stop = Utf8.slice source start stop := by
  have all : (List.range' start (stop - start)).filter (!isInside ranges ·) =
      List.range' start (stop - start) := by
    rw [List.filter_eq_self]
    intro offset member
    rw [List.mem_range'_1] at member
    simp [clear offset member.1 (by omega)]
  apply ByteArray.ext
  unfold bytesOutside Utf8.slice
  rw [all, ByteArray.data_extract]
  apply Array.ext
  · simp
    omega
  · intro index first second
    simp only [List.size_toArray, List.length_map, List.length_range'] at first
    simp only [List.getElem_toArray, List.getElem_map, List.getElem_range', Array.getElem_extract,
      Utf8.byteAt]
    rw [dif_pos (by omega)]
    simp [ByteArray.getElem_eq_getElem_data]

end Lectern.Module
