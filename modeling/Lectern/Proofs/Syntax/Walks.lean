/-
Module: Lectern.Proofs.Syntax.Walks
Purpose: Induction over syntax trees, what the walks over them visit, the paths that lead to their
  nodes, and trees whose parts stand where a reading of the source puts them. The walk along a stack
  visits what the recursive one does, each node once and in the order of the paths.
Trusted boundary: none
Main exports: Node.induct, Node.preorder, Node.mem_preorder, Node.lineages, Node.walk_eq, Node.at?,
  Node.paths, Node.mem_paths, Node.paths_ascending, Node.map_walk_paths, Node.mem_around, Node.height,
  Node.Follows, Node.Follows.between, Node.Follows.apart, Node.Follows.filter, Node.Follows.pairwise,
  Node.Follows.before, Node.Nested, Node.Nested.within, Node.Nested.around_or_before, Position.le_iff,
  Position.ofOffset_le, Node.Nested.position_le
-/
import Mathlib.Data.List.Basic
import Lectern.Syntax.Node

namespace Lectern.Syntax.Node

/-- What holds of a node if it holds of its children holds of all nodes. -/
theorem induct {motive : Node → Prop}
    (step : ∀ node, (∀ child ∈ node.children, motive child) → motive node) : ∀ node, motive node
  | ⟨kind, named, start, stop, field, missing, children⟩ =>
    step ⟨kind, named, start, stop, field, missing, children⟩ fun child member =>
      have : sizeOf child < sizeOf children := List.sizeOf_lt_of_mem member
      induct step child
termination_by node => sizeOf node
decreasing_by
  simp only [Node.mk.sizeOf_spec]
  omega

/-! ## Walks -/

mutual

/-- A node, then the nodes below it, in document order. -/
def preorder : Node → List Node
  | ⟨kind, named, start, stop, field, missing, children⟩ =>
    ⟨kind, named, start, stop, field, missing, children⟩ :: preorderAll children

/-- The nodes of neighbouring subtrees, in document order. -/
def preorderAll : List Node → List Node
  | [] => []
  | child :: rest => preorder child ++ preorderAll rest

end

theorem preorderAll_eq (nodes : List Node) : preorderAll nodes = nodes.flatMap preorder := by
  induction nodes with
  | nil => rfl
  | cons first rest inductionHypothesis =>
      rw [preorderAll, inductionHypothesis, List.flatMap_cons]

theorem preorder_eq (node : Node) : node.preorder = node :: node.children.flatMap preorder := by
  cases node
  rw [preorder, preorderAll_eq]

/-- A walk visits its root and what the walks over the children visit. -/
theorem mem_preorder {node root : Node} :
    node ∈ root.preorder ↔ node = root ∨ ∃ child ∈ root.children, node ∈ child.preorder := by
  rw [preorder_eq, List.mem_cons, List.mem_flatMap]

@[simp]
theorem mem_preorder_self (node : Node) : node ∈ node.preorder := mem_preorder.mpr (Or.inl rfl)

theorem mem_preorder_of_child {node child root : Node} (inside : child ∈ root.children)
    (visited : node ∈ child.preorder) : node ∈ root.preorder :=
  mem_preorder.mpr (Or.inr ⟨child, inside, visited⟩)

theorem mem_preorder_trans {node middle root : Node} (outer : middle ∈ root.preorder)
    (inner : node ∈ middle.preorder) : node ∈ root.preorder := by
  induction root using induct with
  | step root inductionHypothesis =>
      rcases mem_preorder.mp outer with rfl | ⟨child, member, inside⟩
      · exact inner
      · exact mem_preorder_of_child member (inductionHypothesis child member inside)

/-! ## Nodes with those above them -/

mutual

/-- The nodes of a tree in document order, each with the nodes above it, the nearest first; `above` are
those above the tree. -/
def lineages (above : List Node) : Node → List (Node × List Node)
  | ⟨kind, named, start, stop, field, missing, children⟩ =>
    let node : Node := ⟨kind, named, start, stop, field, missing, children⟩
    (node, above) :: lineagesAll (node :: above) children

/-- The nodes of neighbouring trees with the nodes above them. -/
def lineagesAll (above : List Node) : List Node → List (Node × List Node)
  | [] => []
  | child :: rest => lineages above child ++ lineagesAll above rest

end

theorem lineages_eq (above : List Node) (root : Node) :
    root.lineages above = (root, above) :: root.children.flatMap (lineages (root :: above)) := by
  have all (above nodes : List Node) : lineagesAll above nodes = nodes.flatMap (lineages above) := by
    induction nodes with
    | nil => rfl
    | cons first rest inductionHypothesis =>
        rw [lineagesAll, inductionHypothesis, List.flatMap_cons]
  cases root
  rw [lineages, all]

/-- Each node of a tree is listed once, in the order of the walk over the tree. -/
theorem map_lineages (above : List Node) (root : Node) :
    (root.lineages above).map Prod.fst = root.preorder := by
  induction root using induct generalizing above with
  | step root inductionHypothesis =>
      rw [lineages_eq, preorder_eq, List.map_cons, List.map_flatMap, List.flatMap_def, List.flatMap_def]
      congr 2
      apply List.map_congr_left
      intro child member
      exact inductionHypothesis child member (root :: above)

theorem walkFrom_eq (stack : List (Node × List Node)) :
    walkFrom stack = stack.flatMap fun visit => visit.1.lineages visit.2 := by
  induction stack using walkFrom.induct with
  | case1 => rw [walkFrom, List.flatMap_nil]
  | case2 node around later inductionHypothesis =>
      have below : (node.childVisits around).flatMap (fun visit => visit.1.lineages visit.2) =
          node.children.flatMap (lineages (node :: around)) := by
        rw [childVisits, List.flatMap_map]
      rw [walkFrom, inductionHypothesis, pushAll_eq, List.reverse_reverse, List.flatMap_append, below,
        List.flatMap_cons, lineages_eq, List.cons_append]

/-- The walk along a stack comes to the nodes of a tree as the recursion does. -/
theorem walk_eq (root : Node) : root.walk = root.lineages [] := by
  rw [walk, walkFrom_eq, List.flatMap_singleton]

theorem map_walk (root : Node) : root.walk.map Prod.fst = root.preorder := by
  rw [walk_eq, map_lineages]

/-! ## Paths -/

/-- The node that a path leads to: each number tells to which child. -/
def at? : Node → List Nat → Option Node
  | node, [] => some node
  | node, index :: path => node.children[index]?.bind fun child => child.at? path

mutual

/-- The paths of a tree. -/
def paths : Node → List (List Nat)
  | ⟨_, _, _, _, _, _, children⟩ => [] :: pathsAll 0 children

/-- The paths through some neighbours, the first of which has a number. -/
def pathsAll (first : Nat) : List Node → List (List Nat)
  | [] => []
  | child :: rest => child.paths.map (first :: ·) ++ pathsAll (first + 1) rest

end

theorem paths_eq (root : Node) :
    root.paths = [] :: root.children.zipIdx.flatMap fun child => child.1.paths.map (child.2 :: ·) := by
  have all (first : Nat) (nodes : List Node) :
      pathsAll first nodes =
        (nodes.zipIdx first).flatMap fun child => child.1.paths.map (child.2 :: ·) := by
    induction nodes generalizing first with
    | nil => rfl
    | cons child rest inductionHypothesis =>
        rw [pathsAll, inductionHypothesis, List.zipIdx_cons, List.flatMap_cons]
  cases root
  rw [paths, all]

/-- What the children of a node give, told of the children with their numbers. -/
theorem flatMap_children {β : Type} (root : Node) (gives : Node → List β) :
    root.children.flatMap gives = root.children.zipIdx.flatMap fun child => gives child.1 := by
  calc root.children.flatMap gives
    _ = (root.children.zipIdx.map Prod.fst).flatMap gives := by rw [List.zipIdx_map_fst]
    _ = root.children.zipIdx.flatMap fun child => gives child.1 := List.flatMap_map ..

theorem at?_cons {root : Node} {index : Nat} {child : Node}
    (found : root.children[index]? = some child) (path : List Nat) :
    root.at? (index :: path) = child.at? path := by
  rw [at?, found, Option.bind_some]

theorem at?_append (root : Node) (path further : List Nat) :
    root.at? (path ++ further) = (root.at? path).bind (·.at? further) := by
  induction path generalizing root with
  | nil => rfl
  | cons index path inductionHypothesis =>
      rw [List.cons_append, at?, at?, Option.bind_assoc]
      exact congrArg _ (funext fun child => inductionHypothesis child)

/-- The paths of a tree are those that lead to a node. -/
theorem mem_paths {root : Node} {path : List Nat} :
    path ∈ root.paths ↔ (root.at? path).isSome = true := by
  induction root using induct generalizing path with
  | step root inductionHypothesis =>
      rw [paths_eq, List.mem_cons, List.mem_flatMap]
      cases path with
      | nil => exact iff_of_true (.inl rfl) rfl
      | cons index path =>
          constructor
          · rintro (impossible | ⟨⟨child, number⟩, member, leads⟩)
            · cases impossible
            · obtain ⟨inside, leads, same⟩ := List.mem_map.mp leads
              cases same
              have found := List.mk_mem_zipIdx_iff_getElem?.mp member
              rw [at?_cons found]
              exact (inductionHypothesis child (List.mem_of_getElem? found)).mp leads
          · intro leads
            obtain ⟨node, leads⟩ := Option.isSome_iff_exists.mp leads
            obtain ⟨child, found, leads⟩ := Option.bind_eq_some_iff.mp leads
            refine .inr ⟨(child, index), List.mk_mem_zipIdx_iff_getElem?.mpr found, ?_⟩
            apply List.mem_map_of_mem
            rw [inductionHypothesis child (List.mem_of_getElem? found), leads]
            rfl

/-- The paths stand in the order of their numbers, so there is each once. -/
theorem paths_ascending (root : Node) : root.paths.Pairwise (· < ·) := by
  induction root using induct with
  | step root inductionHypothesis =>
      rw [paths_eq, List.pairwise_cons, List.pairwise_flatMap]
      refine ⟨?_, ?_, ?_⟩
      · intro path member
        obtain ⟨child, _, leads⟩ := List.mem_flatMap.mp member
        obtain ⟨inside, _, rfl⟩ := List.mem_map.mp leads
        exact List.nil_lt_cons _ _
      · rintro ⟨child, index⟩ member
        have found := List.mk_mem_zipIdx_iff_getElem?.mp member
        rw [List.pairwise_map]
        refine (inductionHypothesis child (List.mem_of_getElem? found)).imp ?_
        intro one other before
        exact List.cons_lt_cons_iff.mpr (.inr ⟨rfl, before⟩)
      · have numbered : (root.children.zipIdx.map (·.2)).Pairwise (· < ·) := by
          rw [List.zipIdx_map_snd]
          exact List.pairwise_lt_range'
        refine (List.pairwise_map.mp numbered).imp ?_
        intro one other before path leads second leadsOther
        obtain ⟨_, _, rfl⟩ := List.mem_map.mp leads
        obtain ⟨_, _, rfl⟩ := List.mem_map.mp leadsOther
        exact List.cons_lt_cons_iff.mpr (.inl before)

/-! ## Nodes with those around them -/

/-- The node that a path leads to with the nodes that it lies in, the innermost first; `around` are
those around the tree. -/
def visitAt? (around : List Node) : Node → List Nat → Option (Node × List Node)
  | node, [] => some (node, around)
  | node, index :: path =>
    node.children[index]?.bind fun child => child.visitAt? (node :: around) path

theorem visitAt?_cons {root : Node} {index : Nat} {child : Node} (around : List Node)
    (found : root.children[index]? = some child) (path : List Nat) :
    root.visitAt? around (index :: path) = child.visitAt? (root :: around) path := by
  rw [visitAt?, found, Option.bind_some]

theorem map_visitAt? (around : List Node) (root : Node) (path : List Nat) :
    (root.visitAt? around path).map Prod.fst = root.at? path := by
  induction path generalizing root around with
  | nil => rfl
  | cons index path inductionHypothesis =>
      cases found : root.children[index]? with
      | none => simp [visitAt?, at?, found]
      | some child => rw [visitAt?_cons around found, at?_cons found, inductionHypothesis]

/-- The recursion comes to the nodes in the order of their paths. -/
theorem map_lineages_paths (around : List Node) (root : Node) :
    (root.lineages around).map some = root.paths.map (root.visitAt? around) := by
  induction root using induct generalizing around with
  | step root inductionHypothesis =>
      rw [lineages_eq, paths_eq, List.map_cons, List.map_cons, List.map_flatMap, List.map_flatMap,
        visitAt?, flatMap_children]
      congr 1
      apply List.flatMap_congr
      rintro ⟨child, index⟩ member
      have found := List.mk_mem_zipIdx_iff_getElem?.mp member
      rw [inductionHypothesis child (List.mem_of_getElem? found), List.map_map]
      apply List.map_congr_left
      intro path _
      exact (visitAt?_cons around found path).symm

/-- The walk comes to the nodes in the order of their paths. -/
theorem map_walk_paths (root : Node) : root.walk.map some = root.paths.map (root.visitAt? []) := by
  rw [walk_eq, map_lineages_paths]

theorem map_paths (root : Node) : root.paths.map root.at? = root.preorder.map some := by
  have walked := congrArg (List.map (Option.map Prod.fst)) (map_lineages_paths [] root)
  rw [List.map_map, List.map_map] at walked
  rw [← map_lineages [] root, List.map_map]
  refine Eq.trans ?_ (walked.symm.trans rfl)
  exact List.map_congr_left fun path _ => (map_visitAt? [] root path).symm

/-- The nodes around one are those that its path goes through on the way to it. -/
theorem mem_around {around all : List Node} {root node : Node} {path : List Nat}
    (visited : root.visitAt? around path = some (node, all)) {outer : Node} :
    outer ∈ all ↔ outer ∈ around ∨
      ∃ front index rest, path = front ++ index :: rest ∧ root.at? front = some outer := by
  induction path generalizing root around with
  | nil =>
      cases visited
      exact ⟨.inl, fun either => either.elim id fun ⟨front, _, _, split, _⟩ => by simp at split⟩
  | cons first path inductionHypothesis =>
      obtain ⟨child, found, visited⟩ := Option.bind_eq_some_iff.mp visited
      rw [inductionHypothesis visited, List.mem_cons]
      constructor
      · rintro ((rfl | before) | ⟨front, index, rest, rfl, leads⟩)
        · exact .inr ⟨[], first, path, rfl, rfl⟩
        · exact .inl before
        · exact .inr ⟨first :: front, index, rest, rfl, by rwa [at?_cons found]⟩
      · rintro (before | ⟨front, index, rest, split, leads⟩)
        · exact .inl (.inr before)
        · cases front with
          | nil =>
              cases leads
              exact .inl (.inl rfl)
          | cons number front =>
              cases split
              rw [at?_cons found] at leads
              exact .inr ⟨front, index, rest, rfl, leads⟩

theorem mem_preorder_of_at? {root node : Node} {path : List Nat} (leads : root.at? path = some node) :
    node ∈ root.preorder := by
  have listed : some node ∈ root.paths.map root.at? :=
    List.mem_map.mpr ⟨path, mem_paths.mpr (by rw [leads]; rfl), leads⟩
  rw [map_paths, List.mem_map] at listed
  obtain ⟨other, visited, same⟩ := listed
  exact Option.some.inj same ▸ visited

/-! ## Depth -/

mutual

/-- How many levels of nodes a tree has. -/
def height : Node → Nat
  | ⟨_, _, _, _, _, _, children⟩ => heightAll children + 1

/-- How many levels of nodes the highest of some trees has. -/
def heightAll : List Node → Nat
  | [] => 0
  | child :: rest => max (height child) (heightAll rest)

end

theorem height_eq (node : Node) : node.height = heightAll node.children + 1 := by
  cases node
  rfl

theorem height_le_heightAll {child : Node} {nodes : List Node} (member : child ∈ nodes) :
    child.height ≤ heightAll nodes := by
  induction nodes with
  | nil => cases member
  | cons first rest inductionHypothesis =>
      rw [heightAll]
      rcases List.mem_cons.mp member with rfl | inside
      · exact Nat.le_max_left _ _
      · exact Nat.le_trans (inductionHypothesis inside) (Nat.le_max_right _ _)

/-! ## Places -/

/-- Neighbours stand one behind the other between two offsets. -/
def Follows (start stop : Nat) : List Node → Prop
  | [] => start ≤ stop
  | child :: rest => start ≤ child.start ∧ child.start ≤ child.stop ∧ Follows child.stop stop rest

instance decidableFollows (start stop : Nat) : (nodes : List Node) → Decidable (Follows start stop nodes)
  | [] => inferInstanceAs (Decidable (start ≤ stop))
  | child :: rest =>
    have := decidableFollows child.stop stop rest
    inferInstanceAs (Decidable (start ≤ child.start ∧ child.start ≤ child.stop ∧
      Follows child.stop stop rest))

theorem Follows.le {start stop : Nat} {nodes : List Node} (follows : Follows start stop nodes) :
    start ≤ stop := by
  induction nodes generalizing start with
  | nil => exact follows
  | cons first rest inductionHypothesis =>
      obtain ⟨behind, extent, others⟩ := follows
      have := inductionHypothesis others
      omega

/-- Each of some neighbours lies between the offsets. -/
theorem Follows.between {start stop : Nat} {nodes : List Node} (follows : Follows start stop nodes)
    {child : Node} (member : child ∈ nodes) :
    start ≤ child.start ∧ child.start ≤ child.stop ∧ child.stop ≤ stop := by
  induction nodes generalizing start with
  | nil => cases member
  | cons first rest inductionHypothesis =>
      obtain ⟨behind, extent, others⟩ := follows
      rcases List.mem_cons.mp member with rfl | inside
      · exact ⟨behind, extent, others.le⟩
      · have := inductionHypothesis others inside
        omega

/-- Of two neighbours one stands before the other. -/
theorem Follows.apart {start stop : Nat} {nodes : List Node} (follows : Follows start stop nodes)
    {first second : Node} (one : first ∈ nodes) (other : second ∈ nodes) :
    first = second ∨ first.stop ≤ second.start ∨ second.stop ≤ first.start := by
  induction nodes generalizing start with
  | nil => cases one
  | cons node rest inductionHypothesis =>
      obtain ⟨_, _, others⟩ := follows
      rcases List.mem_cons.mp one with rfl | firstInside
      · rcases List.mem_cons.mp other with rfl | secondInside
        · exact Or.inl rfl
        · exact Or.inr (Or.inl (others.between secondInside).1)
      · rcases List.mem_cons.mp other with rfl | secondInside
        · exact Or.inr (Or.inr (others.between firstInside).1)
        · exact inductionHypothesis others firstInside secondInside

theorem Follows.mono {start later stop : Nat} {nodes : List Node} (ahead : start ≤ later)
    (follows : Follows later stop nodes) : Follows start stop nodes := by
  cases nodes with
  | nil => exact Nat.le_trans ahead follows
  | cons first rest => exact ⟨Nat.le_trans ahead follows.1, follows.2⟩

/-- Some of the neighbours stand one behind the other as well. -/
theorem Follows.filter {start stop : Nat} {nodes : List Node} (follows : Follows start stop nodes)
    (counts : Node → Bool) : Follows start stop (nodes.filter counts) := by
  induction nodes generalizing start with
  | nil => exact follows
  | cons first rest inductionHypothesis =>
      obtain ⟨behind, extent, others⟩ := follows
      have later := inductionHypothesis others
      rw [List.filter_cons]
      split
      · exact ⟨behind, extent, later⟩
      · exact later.mono (Nat.le_trans behind extent)

/-- Each neighbour ends before those behind it start. -/
theorem Follows.pairwise {start stop : Nat} {nodes : List Node} (follows : Follows start stop nodes) :
    nodes.Pairwise fun one other => one.stop ≤ other.start := by
  induction nodes generalizing start with
  | nil => exact .nil
  | cons first rest inductionHypothesis =>
      obtain ⟨_, _, others⟩ := follows
      exact .cons (fun other member => (others.between member).1) (inductionHypothesis others)

/-- The neighbours before one of them stand before its start. -/
theorem Follows.before {start stop : Nat} {front back : List Node} {node : Node}
    (follows : Follows start stop (front ++ node :: back)) : Follows start node.start front := by
  induction front generalizing start with
  | nil => exact follows.1
  | cons first rest inductionHypothesis =>
      obtain ⟨behind, extent, others⟩ := follows
      exact ⟨behind, extent, inductionHypothesis others⟩

/-- The parts of each node of a tree stand one behind the other inside of it. -/
def Nested (root : Node) : Prop :=
  ∀ node ∈ root.preorder, Follows node.start node.stop node.children

namespace Nested

variable {root : Node}

theorem below (nested : root.Nested) {inner : Node} (visited : inner ∈ root.preorder) : inner.Nested :=
  fun node inside => nested node (mem_preorder_trans visited inside)

theorem child (nested : root.Nested) {child : Node} (member : child ∈ root.children) :
    child.Nested :=
  nested.below (mem_preorder_of_child member child.mem_preorder_self)

/-- All nodes of a tree lie between its ends. -/
theorem within (nested : root.Nested) {node : Node} (visited : node ∈ root.preorder) :
    root.start ≤ node.start ∧ node.start ≤ node.stop ∧ node.stop ≤ root.stop := by
  induction root using induct with
  | step root inductionHypothesis =>
      have here := nested root root.mem_preorder_self
      rcases mem_preorder.mp visited with rfl | ⟨child, member, inside⟩
      · exact ⟨Nat.le_refl _, here.le, Nat.le_refl _⟩
      · have below := inductionHypothesis child member (nested.child member) inside
        have between := here.between member
        omega

/-- A node with a lesser path lies around the other one or ends before it. -/
theorem around_or_before (nested : root.Nested) {path other : List Nat} {node second : Node}
    (leads : root.at? path = some node) (leadsOther : root.at? other = some second)
    (before : path < other) :
    (∃ index rest, other = path ++ index :: rest) ∨ node.stop ≤ second.start := by
  induction path generalizing root other with
  | nil =>
      cases other with
      | nil => exact absurd before (List.not_lt_nil _)
      | cons index rest => exact .inl ⟨index, rest, rfl⟩
  | cons first path inductionHypothesis =>
      cases other with
      | nil => exact absurd before (List.not_lt_nil _)
      | cons number other =>
          obtain ⟨child, found, leads⟩ := Option.bind_eq_some_iff.mp leads
          obtain ⟨sibling, foundOther, leadsOther⟩ := Option.bind_eq_some_iff.mp leadsOther
          have member := List.mem_of_getElem? found
          rcases List.cons_lt_cons_iff.mp before with less | ⟨rfl, deeper⟩
          · right
            obtain ⟨inside, rfl⟩ := List.getElem?_eq_some_iff.mp found
            obtain ⟨insideOther, rfl⟩ := List.getElem?_eq_some_iff.mp foundOther
            have apart := List.pairwise_iff_getElem.mp
              (nested root root.mem_preorder_self).pairwise first number inside insideOther less
            have one := (nested.child member).within (mem_preorder_of_at? leads)
            have two := (nested.child (List.getElem_mem insideOther)).within
              (mem_preorder_of_at? leadsOther)
            omega
          · cases found.symm.trans foundOther
            rcases inductionHypothesis (nested.child member) leads leadsOther deeper with
              ⟨index, rest, rfl⟩ | apart
            · exact .inl ⟨index, rest, rfl⟩
            · exact .inr apart

end Nested

end Lectern.Syntax.Node

namespace Lectern.Syntax

open Lectern.Text

/-! ## Lines and columns -/

/-- Reading a byte string from an offset on gives its bytes from there on. -/
theorem toList_loop (bytes : ByteArray) (index : Nat) (read : List UInt8) :
    ByteArray.toList.loop bytes index read = read.reverse ++ bytes.data.toList.drop index := by
  induction index, read using ByteArray.toList.loop.induct bytes with
  | case1 index read inside inductionHypothesis =>
      have next : bytes.data.toList.drop index =
          bytes.data[index] :: bytes.data.toList.drop (index + 1) :=
        List.drop_eq_getElem_cons (by simpa using inside)
      rw [ByteArray.toList.loop, if_pos inside, inductionHypothesis, next]
      simp [ByteArray.get!, inside]
  | case2 index read past =>
      have none : bytes.data.toList.drop index = [] :=
        List.drop_eq_nil_of_le (by simpa using past)
      rw [ByteArray.toList.loop, if_neg past, none, List.append_nil]

theorem toList_eq (bytes : ByteArray) : bytes.toList = bytes.data.toList :=
  toList_loop bytes 0 []

namespace Position

/-- Places are in the order of their lines, and on one line in that of their columns. -/
instance : LE Position :=
  ⟨fun one other => one.line < other.line ∨ one.line = other.line ∧ one.column ≤ other.column⟩

theorem le_iff {one other : Position} :
    one ≤ other ↔ one.line < other.line ∨ one.line = other.line ∧ one.column ≤ other.column :=
  Iff.rfl

theorem advance_append (place : Position) (bytes others : List UInt8) :
    place.advance (bytes ++ others) = (place.advance bytes).advance others := by
  induction bytes generalizing place with
  | nil => rfl
  | cons byte rest inductionHypothesis =>
      rw [List.cons_append, Position.advance, Position.advance]
      split
      next => exact inductionHypothesis _
      next => exact inductionHypothesis _

theorem le_advance (place : Position) (bytes : List UInt8) : place ≤ place.advance bytes := by
  induction bytes generalizing place with
  | nil => exact le_iff.mpr (.inr ⟨rfl, Nat.le_refl _⟩)
  | cons byte rest inductionHypothesis =>
      rw [advance]
      split
      next =>
        have further := le_iff.mp (inductionHypothesis ⟨place.line + 1, 1⟩)
        rw [le_iff]
        dsimp only at further
        omega
      next =>
        have further := le_iff.mp (inductionHypothesis ⟨place.line, place.column + 1⟩)
        rw [le_iff]
        dsimp only at further
        omega

/-- A later byte stands at a later place. -/
theorem ofOffset_le (source : ByteArray) {one other : Nat} (ahead : one ≤ other) :
    ofOffset source one ≤ ofOffset source other := by
  have split : Utf8.slice source 0 other = Utf8.slice source 0 one ++ Utf8.slice source one other :=
    ByteArray.extract_eq_extract_append_extract one (Nat.zero_le _) ahead
  unfold ofOffset
  rw [split, toList_eq (_ ++ _), ByteArray.data_append, Array.toList_append, advance_append,
    ← toList_eq]
  exact le_advance _ _

end Position

namespace Node.Nested

variable {root node second : Node} {path other : List Nat}

/-- The nodes of a tree start in the order of their paths. -/
theorem position_le (nested : root.Nested) (source : ByteArray) (leads : root.at? path = some node)
    (leadsOther : root.at? other = some second) (before : path < other) :
    node.position source ≤ second.position source := by
  apply Position.ofOffset_le
  rcases nested.around_or_before leads leadsOther before with ⟨index, rest, rfl⟩ | apart
  · rw [at?_append, leads, Option.bind_some] at leadsOther
    exact (nested.below (mem_preorder_of_at? leads)).within (mem_preorder_of_at? leadsOther) |>.1
  · exact Nat.le_trans (nested.within (mem_preorder_of_at? leads)).2.1 apart

end Node.Nested

end Lectern.Syntax
