/-
Module: Lectern.Proofs.Module.Erasure
Purpose: The lowering of a tree without markup copies the source and takes out the byte ranges of
  what is erased, or refuses the first construct it comes to that it cannot lower.
Trusted boundary: none
Main exports: lowerWithin, verdict, copyFrom_eq, code_render, lowered_bytes_exact
-/
import Lectern.Proofs.Module.Removal

namespace Lectern.Module

open Lectern.Syntax Lectern.Text

/-- The module a tree over a source becomes when it may have some levels of nodes. -/
def lowerWithin (depth : Nat) (source : ByteArray) (root : Node) : Code := do
  let body ← (render source depth root).code
  return Utf8.slice source 0 root.start ++ body ++ Utf8.slice source root.stop source.size

theorem lowerTree_eq (source : ByteArray) (root : Node) :
    lowerTree source root = lowerWithin maxDepth source root := rfl

variable {source : ByteArray}

/-! ## What becomes of nodes that are reached -/

/-- The code when some nodes are come to in order: the first refusal or, where there is none, some
bytes. -/
def verdict (source : ByteArray) (nodes : List Node) (bytes : ByteArray) : Code :=
  match nodes.findSome? (refusal? source) with
  | some fault => .error fault
  | none => .ok bytes

theorem verdict_cons_refused {node : Node} {fault : LoweringFault}
    (refused : refusal? source node = some fault) (nodes : List Node) (bytes : ByteArray) :
    verdict source (node :: nodes) bytes = .error fault := by
  rw [verdict, List.findSome?_cons, refused]

theorem verdict_cons {node : Node} (fine : refusal? source node = none) (nodes : List Node)
    (bytes : ByteArray) : verdict source (node :: nodes) bytes = verdict source nodes bytes := by
  rw [verdict, List.findSome?_cons, fine]
  rfl

@[simp]
theorem verdict_nil (bytes : ByteArray) : verdict source [] bytes = .ok bytes := rfl

/-- Neighbours are come to one after the other, and nothing follows a refusal. -/
theorem verdict_append (front first second : ByteArray) (nodes others : List Node) :
    (do
      let one ← verdict source nodes first
      let two ← verdict source others second
      return front ++ one ++ two) = verdict source (nodes ++ others) (front ++ first ++ second) := by
  unfold verdict
  rw [List.findSome?_append]
  cases nodes.findSome? (refusal? source) with
  | some fault => rfl
  | none =>
      rw [Option.none_or]
      cases others.findSome? (refusal? source) with
      | some fault => rfl
      | none => rfl

/-! ## Copying -/

theorem renderAll_eq (depth : Nat) (nodes : List Node) :
    renderAll source depth nodes = nodes.map fun child => ⟨child, render source depth child⟩ := by
  induction nodes with
  | nil => rfl
  | cons first rest inductionHypothesis => rw [renderAll, inductionHypothesis, List.map_cons]

theorem render_succ (depth : Nat) (node : Node) :
    render source (depth + 1) node =
      assemble source node (node.children.map fun child => ⟨child, render source depth child⟩) := by
  cases node
  rw [render, renderAll_eq]

theorem copyFrom_cons (parent : Node) (cursor : Nat) (child : Rendered) (rest : List Rendered) :
    copyFrom source parent cursor (child :: rest) =
      (if isErased parent.kind child.node then .ok ByteArray.empty else child.rendering.code) >>=
        fun code => do
          let tail ← copyFrom source parent child.node.stop rest
          return Utf8.slice source cursor child.node.start ++ code ++ tail := by
  rw [copyFrom]
  split <;> rfl

/-- The byte ranges that are taken out of a child when its parent is copied. -/
def cuts (parent : Kind) (child : Node) : List (Nat × Nat) :=
  if isErased parent child then [(child.start, child.stop)] else removedRanges child

theorem cuts_within {parent : Kind} {child : Node}
    (placed : ∀ node ∈ child.preorder, WellPlaced node) {range : Nat × Nat}
    (taken : range ∈ cuts parent child) : child.start ≤ range.1 ∧ range.2 ≤ child.stop := by
  unfold cuts at taken
  split at taken
  · rw [List.mem_singleton.mp taken]
    exact ⟨Nat.le_refl _, Nat.le_refl _⟩
  · exact removedRanges_within placed taken

/-- What is taken out of neighbours lies where they lie. -/
theorem cuts_between {parent : Kind} {start stop : Nat} {children : List Node}
    (follows : Node.Follows start stop children)
    (placed : ∀ child ∈ children, ∀ node ∈ child.preorder, WellPlaced node) :
    ∀ range ∈ children.flatMap (cuts parent), start ≤ range.1 ∧ range.2 ≤ stop := by
  intro range taken
  obtain ⟨child, member, here⟩ := List.mem_flatMap.mp taken
  have between := follows.between member
  have inside := cuts_within (placed child member) here
  omega

/-- A node is lowered as it should be, if it may have as many levels as it has. -/
def LowersExactly (source : ByteArray) (node : Node) : Prop :=
  ∀ depth, node.height ≤ depth → (render source depth node).code =
    verdict source (reached node) (bytesOutside source (removedRanges node) node.start node.stop)

/-- What is left of neighbours is the gap before the first, what is left of that, and what is left of
the others. -/
theorem bytesOutside_cuts_cons {parent : Kind} {cursor stop : Nat} {child : Node} {rest : List Node}
    (follows : Node.Follows cursor stop (child :: rest)) (covered : stop ≤ source.size)
    (placed : ∀ other ∈ child :: rest, ∀ node ∈ other.preorder, WellPlaced node) :
    bytesOutside source ((child :: rest).flatMap (cuts parent)) cursor stop =
      Utf8.slice source cursor child.start ++
        bytesOutside source (cuts parent child) child.start child.stop ++
        bytesOutside source (rest.flatMap (cuts parent)) child.stop stop := by
  obtain ⟨behind, extent, others⟩ := follows
  have here : ∀ range ∈ cuts parent child, child.start ≤ range.1 ∧ range.2 ≤ child.stop :=
    fun range => cuts_within (placed child List.mem_cons_self)
  have later : ∀ range ∈ rest.flatMap (cuts parent), child.stop ≤ range.1 ∧ range.2 ≤ stop :=
    cuts_between others fun other member => placed other (List.mem_cons_of_mem _ member)
  -- The stretch falls into the gap, the child and what follows it.
  have gap : bytesOutside source ((child :: rest).flatMap (cuts parent)) cursor child.start =
      Utf8.slice source cursor child.start := by
    have := others.le
    apply bytesOutside_of_clear (by omega)
    intro offset _ before
    rw [List.flatMap_cons, isInside_append, isInside_eq_false here (Or.inl before),
      isInside_eq_false later (Or.inl (by omega))]
    rfl
  have own : bytesOutside source ((child :: rest).flatMap (cuts parent)) child.start child.stop =
      bytesOutside source (cuts parent child) child.start child.stop := by
    apply bytesOutside_congr
    intro offset _ before
    rw [List.flatMap_cons, isInside_append, isInside_eq_false later (Or.inl before), Bool.or_false]
  have after : bytesOutside source ((child :: rest).flatMap (cuts parent)) child.stop stop =
      bytesOutside source (rest.flatMap (cuts parent)) child.stop stop := by
    apply bytesOutside_congr
    intro offset past _
    rw [List.flatMap_cons, isInside_append, isInside_eq_false here (Or.inr past), Bool.false_or]
  rw [← bytesOutside_append behind (Nat.le_trans extent others.le),
    ← bytesOutside_append extent others.le, gap, own, after, ByteArray.append_assoc]

/-- An erased child becomes nothing, and any other one what it is lowered to. -/
theorem childCode_eq (parent : Kind) {depth : Nat} {child : Node}
    (exact : LowersExactly source child) (deep : child.height ≤ depth) :
    (if isErased parent child then .ok ByteArray.empty else (render source depth child).code) =
      verdict source (if isErased parent child then [] else reached child)
        (bytesOutside source (cuts parent child) child.start child.stop) := by
  unfold cuts
  by_cases erased : isErased parent child = true
  · rw [if_pos erased, if_pos erased, if_pos erased, verdict_nil, bytesOutside_of_covered]
    intro offset past before
    simp [isInside, past, before]
  · rw [if_neg erased, if_neg erased, if_neg erased]
    exact exact depth deep

/-- Copying neighbours keeps the gaps between them and what becomes of each. -/
theorem copyFrom_eq {parent : Node} {depth cursor : Nat} {children : List Node}
    (follows : Node.Follows cursor parent.stop children) (covered : parent.stop ≤ source.size)
    (placed : ∀ child ∈ children, ∀ node ∈ child.preorder, WellPlaced node)
    (exact : ∀ child ∈ children, LowersExactly source child)
    (deep : ∀ child ∈ children, child.height ≤ depth) :
    copyFrom source parent cursor
        (children.map fun child => ⟨child, render source depth child⟩) =
      verdict source (reachedAll parent.kind children)
        (bytesOutside source (children.flatMap (cuts parent.kind)) cursor parent.stop) := by
  induction children generalizing cursor with
  | nil =>
      rw [List.map_nil, copyFrom, reachedAll, verdict_nil, List.flatMap_nil]
      rw [bytesOutside_of_clear covered fun _ _ _ => rfl]
  | cons child rest inductionHypothesis =>
      have tail := inductionHypothesis follows.2.2
        (fun other member => placed other (List.mem_cons_of_mem _ member))
        (fun other member => exact other (List.mem_cons_of_mem _ member))
        (fun other member => deep other (List.mem_cons_of_mem _ member))
      have code := childCode_eq parent.kind (exact child List.mem_cons_self)
        (deep child List.mem_cons_self)
      rw [bytesOutside_cuts_cons follows covered placed, reachedAll, ← verdict_append, ← tail,
        ← code, List.map_cons, copyFrom_cons]

/-- A node that keeps its children loses what is cut out of them. -/
theorem isInside_removedRanges {node : Node} (plain : isAssertion node.kind = false)
    (shown : exportsTypesOnly node = false) (offset : Nat) :
    isInside (removedRanges node) offset =
      isInside (node.children.flatMap (cuts node.kind)) offset := by
  rw [Bool.eq_iff_iff]
  simp only [isInside, List.any_eq_true]
  have same (range : Nat × Nat) :
      range ∈ removedRanges node ↔ range ∈ node.children.flatMap (cuts node.kind) := by
    simp only [removedRanges, reached_eq node, plain, shown, rangesAt, List.flatMap_cons,
      Bool.false_eq_true, if_false, List.mem_append, List.mem_flatMap, List.mem_map, List.mem_filter]
    constructor
    · rintro (⟨child, ⟨member, erased⟩, rfl⟩ | ⟨inner, ⟨child, ⟨member, kept⟩, comes⟩, taken⟩)
      · exact ⟨child, member, by simp [cuts, erased]⟩
      · refine ⟨child, member, ?_⟩
        rw [cuts, if_neg (by simpa using kept)]
        exact List.mem_flatMap.mpr ⟨inner, comes, taken⟩
    · rintro ⟨child, member, taken⟩
      unfold cuts at taken
      split at taken
      next erased => exact Or.inl ⟨child, ⟨member, erased⟩, (List.mem_singleton.mp taken).symm⟩
      next kept =>
        obtain ⟨inner, comes, taken⟩ := List.mem_flatMap.mp taken
        exact Or.inr ⟨inner, ⟨child, ⟨member, by simpa using kept⟩, comes⟩, taken⟩
  simp only [same]

/-- What holds of the trees below a node that is lowered. -/
structure Below (source : ByteArray) (depth : Nat) (node : Node) : Prop where
  covered : node.stop ≤ source.size
  placed : ∀ other ∈ node.preorder, WellPlaced other
  exact : ∀ child ∈ node.children, LowersExactly source child
  deep : ∀ child ∈ node.children, child.height ≤ depth

namespace Below

variable {depth : Nat} {node : Node}

/-- A node that is copied comes to be what is left of it. -/
theorem copy_eq (below : Below source depth node) (plain : isAssertion node.kind = false)
    (shown : exportsTypesOnly node = false) (fine : refusal? source node = none) :
    copy source node (node.children.map fun child => ⟨child, render source depth child⟩) =
      verdict source (reached node)
        (bytesOutside source (removedRanges node) node.start node.stop) := by
  have placed : ∀ child ∈ node.children, ∀ other ∈ child.preorder, WellPlaced other :=
    fun child member other visited => below.placed other (Node.mem_preorder_of_child member visited)
  have same : bytesOutside source (removedRanges node) node.start node.stop =
      bytesOutside source (node.children.flatMap (cuts node.kind)) node.start node.stop :=
    bytesOutside_congr fun offset _ _ => isInside_removedRanges plain shown offset
  rw [copy, copyFrom_eq (below.placed node node.mem_preorder_self).follows below.covered placed
    below.exact below.deep, same, reached_eq, verdict_cons fine, plain, shown, reachedAll_eq]
  simp only [Bool.false_eq_true, if_false]

/-- An assertion comes to be what becomes of its first named part. -/
theorem assertion_eq (below : Below source depth node) (asserted : isAssertion node.kind = true)
    (fine : refusal? source node = none) {inner : Node}
    (first : node.children.find? (·.named) = some inner) :
    (render source depth inner).code =
      verdict source (reached node)
        (bytesOutside source (removedRanges node) node.start node.stop) := by
  have member := List.mem_of_find?_eq_some first
  have between := (below.placed node node.mem_preorder_self).follows.between member
  have reaches : reached node = node :: reached inner := by
    rw [reached_eq, asserted, first]
    rfl
  have ranges : removedRanges node =
      [(node.start, inner.start), (inner.stop, node.stop)] ++ removedRanges inner := by
    rw [removedRanges, reaches, List.flatMap_cons, rangesAt, asserted, first]
    rfl
  have within : ∀ range ∈ removedRanges inner, inner.start ≤ range.1 ∧ range.2 ≤ inner.stop :=
    fun range => removedRanges_within fun other visited =>
      below.placed other (Node.mem_preorder_of_child member visited)
  have front : bytesOutside source (removedRanges node) node.start inner.start = ByteArray.empty := by
    apply bytesOutside_of_covered
    intro offset past before
    simp [ranges, isInside, past, before]
  have back : bytesOutside source (removedRanges node) inner.stop node.stop = ByteArray.empty := by
    apply bytesOutside_of_covered
    intro offset past before
    simp [ranges, isInside, past, before]
  have middle : bytesOutside source (removedRanges node) inner.start inner.stop =
      bytesOutside source (removedRanges inner) inner.start inner.stop := by
    apply bytesOutside_congr
    intro offset past before
    have outside : isInside [(node.start, inner.start), (inner.stop, node.stop)] offset = false := by
      simp only [isInside, List.any_cons, List.any_nil, Bool.or_false, Bool.or_eq_false_iff,
        Bool.and_eq_false_iff, decide_eq_false_iff_not]
      omega
    rw [ranges, isInside_append, outside, Bool.false_or]
  rw [← bytesOutside_append between.1 (Nat.le_trans between.2.1 between.2.2),
    ← bytesOutside_append between.2.1 between.2.2, front, middle, back, ByteArray.append_empty,
    ByteArray.empty_append, reaches, verdict_cons fine]
  exact below.exact inner member depth (below.deep inner member)

/-- Nothing is left of an export of types alone. -/
theorem typesOnly_eq (plain : isAssertion node.kind = false)
    (hidden : exportsTypesOnly node = true) (fine : refusal? source node = none) :
    Except.ok ByteArray.empty =
      verdict source (reached node)
        (bytesOutside source (removedRanges node) node.start node.stop) := by
  have reaches : reached node = [node] := by
    rw [reached_eq, plain, hidden]
    rfl
  have ranges : removedRanges node = [(node.start, node.stop)] := by
    rw [removedRanges, reaches, List.flatMap_singleton, rangesAt, plain, hidden]
    rfl
  rw [reaches, verdict_cons fine, verdict_nil, bytesOutside_of_covered]
  intro offset past before
  simp [ranges, isInside, past, before]

end Below

/-- A node of a kind that is no construct of its own is refused only as a parameter. -/
private theorem refusal?_of_supported (source : ByteArray) {node : Node}
    (supported : unsupportedConstruct node.kind = none) :
    refusal? source node =
      if isParameter node.kind && node.children.any (isParameterModifier ·.kind) then
        some (.parameterProperty (node.position source))
      else none := by
  rw [refusal?, supported]

/-- What becomes of a parameter. -/
private theorem parameter_eq {depth : Nat} {node : Node} (below : Below source depth node)
    (parameter : isParameter node.kind = true) (supported : unsupportedConstruct node.kind = none) :
    (if node.children.any fun child => isParameterModifier child.kind then
        .error (.parameterProperty (node.position source))
      else copy source node (node.children.map fun child => ⟨child, render source depth child⟩)) =
      verdict source (reached node)
        (bytesOutside source (removedRanges node) node.start node.stop) := by
  have kinds : node.kind = .requiredParameter ∨ node.kind = .optionalParameter := by
    simpa [isParameter] using parameter
  have plain : isAssertion node.kind = false := by
    rcases kinds with kind | kind <;> simp [isAssertion, kind]
  have shown : exportsTypesOnly node = false := by
    rcases kinds with kind | kind <;> simp [exportsTypesOnly, kind]
  have refuses := refusal?_of_supported source supported
  rw [parameter, Bool.true_and] at refuses
  split
  next modified =>
    rw [if_pos modified] at refuses
    rw [reached_eq, verdict_cons_refused refuses]
  next unmodified =>
    rw [if_neg unmodified] at refuses
    exact below.copy_eq plain shown refuses

/-- What becomes of an assertion. -/
private theorem assertionCode_eq {depth : Nat} {node : Node} (below : Below source depth node)
    (asserted : isAssertion node.kind = true) (supported : unsupportedConstruct node.kind = none) :
    (match (node.children.map fun child => (⟨child, render source depth child⟩ : Rendered)).find?
        (·.node.named) with
      | some inner => inner.rendering.code
      | none => .ok ByteArray.empty) =
      verdict source (reached node)
        (bytesOutside source (removedRanges node) node.start node.stop) := by
  have parameter : isParameter node.kind = false := by
    simp only [isAssertion, Bool.or_eq_true, beq_iff_eq] at asserted
    rcases asserted with (kind | kind) | kind <;> simp [isParameter, kind]
  have fine : refusal? source node = none := by
    rw [refusal?_of_supported source supported, parameter]
    rfl
  rw [List.find?_map]
  change (match ((node.children.find? (·.named)).map _ : Option Rendered) with
    | some inner => inner.rendering.code
    | none => .ok ByteArray.empty) = _
  cases first : node.children.find? (·.named) with
  | some inner => exact below.assertion_eq asserted fine first
  | none =>
      obtain ⟨inner, member, named⟩ := (below.placed node node.mem_preorder_self).asserted asserted
      exact absurd named (List.find?_eq_none.mp first inner member)

/-- The rule for one node carries over from its children. -/
theorem nodeCode_eq {depth : Nat} {node : Node} (below : Below source depth node)
    (element : isElement node.kind = false) :
    nodeCode source node (node.children.map fun child => ⟨child, render source depth child⟩) =
      verdict source (reached node)
        (bytesOutside source (removedRanges node) node.start node.stop) := by
  unfold nodeCode
  split
  next construct unsupported =>
    have refused : refusal? source node = some (.unsupported (node.position source) construct) := by
      rw [refusal?, unsupported]
    rw [reached_eq, verdict_cons_refused refused]
  next supported =>
    split
    next kind =>
      have plain : isAssertion node.kind = false := by rw [kind]; rfl
      have fine : refusal? source node = none := by
        rw [refusal?_of_supported source supported, kind]
        rfl
      split
      next hidden => exact Below.typesOnly_eq plain (by simp [exportsTypesOnly, kind, hidden]) fine
      next shown => exact below.copy_eq plain (by simp [exportsTypesOnly, shown]) fine
    next kind => exact parameter_eq below (by rw [kind]; rfl) supported
    next kind => exact parameter_eq below (by rw [kind]; rfl) supported
    next kind => exact assertionCode_eq below (by rw [kind]; rfl) supported
    next kind => exact assertionCode_eq below (by rw [kind]; rfl) supported
    next kind => exact assertionCode_eq below (by rw [kind]; rfl) supported
    next kind => rw [kind] at element; cases element
    next kind => rw [kind] at element; cases element
    next kind => rw [kind] at element; cases element
    next noExport noRequired noOptional noAs noSatisfies noNonNull _ _ _ =>
      have plain : isAssertion node.kind = false := by
        simp only [isAssertion, Bool.or_eq_false_iff, beq_eq_false_iff_ne]
        exact ⟨⟨noAs, noSatisfies⟩, noNonNull⟩
      have shown : exportsTypesOnly node = false := by
        rw [exportsTypesOnly, beq_eq_false_iff_ne.mpr noExport, Bool.false_and]
      have parameter : isParameter node.kind = false := by
        simp only [isParameter, Bool.or_eq_false_iff, beq_eq_false_iff_ne]
        exact ⟨noRequired, noOptional⟩
      have fine : refusal? source node = none := by
        rw [refusal?_of_supported source supported, parameter]
        rfl
      exact below.copy_eq plain shown fine

/-- Every tree without markup is lowered as it should be. -/
theorem lowersExactly {node : Node} (covered : node.stop ≤ source.size)
    (placed : ∀ other ∈ node.preorder, WellPlaced other)
    (plain : ∀ other ∈ node.preorder, isElement other.kind = false) :
    LowersExactly source node := by
  induction node using Node.induct with
  | step node inductionHypothesis =>
      intro depth deep
      rw [Node.height_eq] at deep
      obtain ⟨depth, rfl⟩ : ∃ left, depth = left + 1 := ⟨depth - 1, by omega⟩
      have here := placed node node.mem_preorder_self
      have below : Below source depth node := by
        refine ⟨covered, placed, ?_, ?_⟩
        · intro child member
          have between := here.follows.between member
          exact inductionHypothesis child member (by omega)
            (fun other visited => placed other (Node.mem_preorder_of_child member visited))
            (fun other visited => plain other (Node.mem_preorder_of_child member visited))
        · intro child member
          have := Node.height_le_heightAll member
          omega
      rw [render_succ]
      exact nodeCode_eq below (plain node node.mem_preorder_self)

/-- The lowering of a tree as a whole, with what stands around it. -/
theorem lowerWithin_eq {root : Node} (wellFormed : WellFormed source root)
    (plain : ∀ node ∈ root.preorder, isElement node.kind = false) {depth : Nat}
    (deep : root.height ≤ depth) :
    lowerWithin depth source root =
      verdict source (reached root) (bytesOutside source (removedRanges root) 0 source.size) := by
  have extent := (wellFormed.placed root root.mem_preorder_self).follows.le
  have within : ∀ range ∈ removedRanges root, root.start ≤ range.1 ∧ range.2 ≤ root.stop :=
    fun range => removedRanges_within wellFormed.placed
  have covered := wellFormed.covered
  have front : bytesOutside source (removedRanges root) 0 root.start =
      Utf8.slice source 0 root.start :=
    bytesOutside_of_clear (by omega) fun _ _ before => isInside_eq_false within (Or.inl before)
  have back : bytesOutside source (removedRanges root) root.stop source.size =
      Utf8.slice source root.stop source.size :=
    bytesOutside_of_clear (Nat.le_refl _) fun _ past _ => isInside_eq_false within (Or.inr past)
  rw [lowerWithin, lowersExactly covered wellFormed.placed plain depth deep,
    ← bytesOutside_append (Nat.zero_le _) (Nat.le_trans extent covered),
    ← bytesOutside_append extent covered, front, back]
  unfold verdict
  cases (reached root).findSome? (refusal? source) with
  | some fault => rfl
  | none =>
      rw [← ByteArray.append_assoc]
      rfl

/-! ## Exactly what is erased is taken out -/

/-- Is a node refused: is it a construct that cannot be lowered, or a parameter with a modifier? -/
def Refused (node : Node) : Prop :=
  (unsupportedConstruct node.kind).isSome = true ∨
    (isParameter node.kind = true ∧ ∃ part ∈ node.children, isParameterModifier part.kind = true)

/-- Is nothing taken out at a node: it is no assertion, no export of types alone, and none of its
children is erased? -/
def Intact (node : Node) : Prop :=
  isAssertion node.kind = false ∧ exportsTypesOnly node = false ∧
    ∀ child ∈ node.children, isErased node.kind child = false

theorem refused_iff (source : ByteArray) (node : Node) :
    Refused node ↔ (refusal? source node).isSome = true := by
  unfold Refused refusal?
  cases unsupportedConstruct node.kind with
  | some construct => simp
  | none => simp

theorem rangesAt_of_intact {node : Node} (intact : Intact node) : rangesAt node = [] := by
  obtain ⟨plain, shown, kept⟩ := intact
  rw [rangesAt, plain, shown]
  simpa using kept

/-- Over a tree without markup that belongs to a source, and whatever its depth, the lowering refuses
the first node it comes to that is to be refused, and there is one or it does not fail. What it makes
is the source without exactly the ranges of what is erased, of exports of types alone and of the parts
of assertions around the first named one; where nothing is erased that is the source itself. -/
theorem lowered_bytes_exact {root : Node} (wellFormed : WellFormed source root)
    (plain : ∀ node ∈ root.preorder, isElement node.kind = false) {depth : Nat}
    (deep : root.height ≤ depth) :
    lowerWithin depth source root =
        verdict source (reached root) (bytesOutside source (removedRanges root) 0 source.size) ∧
      (root.height ≤ maxDepth → lowerTree source root = lowerWithin depth source root) ∧
      ((∃ fault, lowerWithin depth source root = .error fault) ↔ ∃ node ∈ reached root, Refused node) ∧
      ((∀ node ∈ reached root, ¬ Refused node ∧ Intact node) →
        lowerWithin depth source root = .ok source) := by
  have lowered := lowerWithin_eq wellFormed plain deep
  refine ⟨lowered, ?_, ?_, ?_⟩
  · intro shallow
    rw [lowerTree_eq, lowered, lowerWithin_eq wellFormed plain shallow]
  · rw [lowered, verdict]
    constructor
    · rintro ⟨fault, failed⟩
      split at failed
      next refused found =>
        obtain ⟨node, comes, same⟩ := List.exists_of_findSome?_eq_some found
        exact ⟨node, comes, (refused_iff source node).mpr (by rw [same]; rfl)⟩
      next => cases failed
    · rintro ⟨node, comes, refused⟩
      have some := (refused_iff source node).mp refused
      split
      next fault _ => exact ⟨fault, rfl⟩
      next none =>
        rw [List.findSome?_eq_none_iff.mp none node comes] at some
        cases some
  · intro whole
    have noRanges : removedRanges root = [] := by
      rw [removedRanges, List.flatMap_eq_nil_iff]
      exact fun node comes => rangesAt_of_intact (whole node comes).2
    have fine : (reached root).findSome? (refusal? source) = none := by
      rw [List.findSome?_eq_none_iff]
      intro node comes
      cases refusal : refusal? source node with
      | none => rfl
      | some fault =>
          exact absurd ((refused_iff source node).mpr (by rw [refusal]; rfl))
            (whole node comes).1
    rw [lowered, verdict, fine, noRanges, bytesOutside_of_clear (Nat.le_refl _) fun _ _ _ => rfl]
    exact congrArg Except.ok ByteArray.extract_zero_size

/-- A declaration with a type, whose value is asserted not to be null. -/
private def annotated : String := "let a: T = b!;"

/-- Its tree. -/
private def annotatedTree : Node :=
  ⟨.program, true, 0, 14, none, false, [
    ⟨.lexicalDeclaration, true, 0, 14, none, false, [
      ⟨.lexeme "let", false, 0, 3, none, false, []⟩,
      ⟨.variableDeclarator, true, 4, 13, none, false, [
        ⟨.identifier, true, 4, 5, some .name, false, []⟩,
        ⟨.typeMark, true, 5, 8, none, false, [
          ⟨.lexeme ":", false, 5, 6, none, false, []⟩,
          ⟨.typeIdentifier, true, 7, 8, none, false, []⟩]⟩,
        ⟨.lexeme "=", false, 9, 10, none, false, []⟩,
        ⟨.nonNullExpression, true, 11, 13, some .value, false, [
          ⟨.identifier, true, 11, 12, none, false, []⟩,
          ⟨.lexeme "!", false, 12, 13, none, false, []⟩]⟩]⟩,
      ⟨.lexeme ";", false, 13, 14, none, false, []⟩]⟩]⟩

/-- The type and the assertion are taken out, and all else is kept. -/
theorem lowered_bytes_exact_annotated :
    (WellFormed annotated.toUTF8 annotatedTree ∧
      (∀ node ∈ annotatedTree.preorder, isElement node.kind = false) ∧
      annotatedTree.height ≤ maxDepth) ∧
    lowerTree annotated.toUTF8 annotatedTree = .ok "let a = b;".toUTF8 := by
  have wellFormed : WellFormed annotated.toUTF8 annotatedTree := by decide +kernel
  have plain : ∀ node ∈ annotatedTree.preorder, isElement node.kind = false := by decide +kernel
  have shallow : annotatedTree.height ≤ maxDepth := by decide +kernel
  have fine : (reached annotatedTree).findSome? (refusal? annotated.toUTF8) = none := by
    decide +kernel
  have left : bytesOutside annotated.toUTF8 (removedRanges annotatedTree) 0 annotated.toUTF8.size =
      "let a = b;".toUTF8 := by decide +kernel
  refine ⟨⟨wellFormed, plain, shallow⟩, ?_⟩
  rw [lowerTree_eq, (lowered_bytes_exact wellFormed plain shallow).1, verdict, fine, left]

end Lectern.Module
