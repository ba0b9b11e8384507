/-
Module: Lectern.Proofs.Page.Order
Purpose: The order of elements. A query runs over the elements of a document as they stand in it, with
  shadow trees left out. Elements that stay hung up keep their order, whatever is hung up behind them
  or taken down among them.
Trusted boundary: none
Main exports: Page.light, Page.select, Page.find?_light_children, Page.Moves, find?_of_row,
  find?_eq_some_iff_idxOf
-/
import Mathlib.Data.List.Basic
import Lectern.Proofs.Keyed
import Lectern.Proofs.Page.Links

namespace Lectern

/-! ## Attributes -/

namespace Element

theorem attribute?_setAttribute (element : Element) (name value asked : String) :
    (element.setAttribute name value).attribute? asked =
      if asked = name then some value else element.attribute? asked := by
  have found := Keyed.find?_put Prod.fst (name, value) element.attributes asked
  unfold setAttribute attribute?
  dsimp only
  rw [found]
  split <;> rfl

theorem attribute?_removeAttribute (element : Element) (name : String) :
    (element.removeAttribute name).attribute? name = none := by
  unfold removeAttribute attribute?
  dsimp only
  rw [Option.map_eq_none_iff, List.find?_eq_none]
  intro entry member
  simpa using List.of_mem_filter member

/-- An attribute is told by those of its name, and so does not depend on those of another one. -/
theorem attribute?_of_filter {element other : Element} {name hidden : String} (apart : name ≠ hidden)
    (same : element.attributes.filter (·.1 != hidden) = other.attributes.filter (·.1 != hidden)) :
    element.attribute? name = other.attribute? name := by
  have found (entries : List (String × String)) :
      (entries.filter (·.1 != hidden)).find? (·.1 == name) = entries.find? (·.1 == name) := by
    rw [List.find?_filter]
    congr 1
    funext entry
    by_cases here : entry.1 = name
    · simp [here, apart]
    · simp [here]
  unfold attribute?
  rw [← found element.attributes, same, found]

end Element

namespace Page

/-! ## Document order -/

/-- An element and all below it to some depth, in the order of the document. Shadow trees are no part
of it. -/
def light (page : Page) : Nat → Nat → List Nat
  | 0, _ => []
  | depth + 1, id => id :: (page.get id).children.flatMap (page.light depth)

/-- Does an element have an attribute of some value? -/
def bears (page : Page) (name value : String) (id : Nat) : Bool :=
  (page.get id).attribute? name == some value

/-- The first element of a tree that has an attribute of some value, as a query for it finds it. -/
def select (page : Page) (depth root : Nat) (name value : String) : Option Nat :=
  (page.light depth root).find? (page.bears name value)

variable {page : Page}

theorem bears_iff {name value : String} {id : Nat} :
    page.bears name value id = true ↔ (page.get id).attribute? name = some value := by
  simp [bears]

/-- What stands in a tree is its root or hangs under something that stands in it. -/
theorem mem_light {depth root id : Nat} (member : id ∈ page.light depth root) :
    id = root ∨ ∃ parent ∈ page.light depth root, id ∈ (page.get parent).children := by
  induction depth generalizing root with
  | zero => cases member
  | succ depth inductionHypothesis =>
      rcases List.mem_cons.mp member with here | below
      · exact .inl here
      · obtain ⟨child, hangs, inside⟩ := List.mem_flatMap.mp below
        rcases inductionHypothesis inside with rfl | ⟨parent, above, under⟩
        · exact .inr ⟨root, List.mem_cons_self, hangs⟩
        · exact .inr ⟨parent, List.mem_cons_of_mem _ (List.mem_flatMap.mpr ⟨child, hangs, above⟩),
            under⟩

/-- Where all that is wanted in a tree hangs right under its root, and the root hangs nowhere, the first
that is wanted is the first among the children of the root. -/
theorem find?_light_children {depth root : Nat} {wanted : Nat → Bool}
    (free : ∀ id, root ∉ (page.get id).children) (other : wanted root = false)
    (direct : ∀ id ∈ page.light (depth + 2) root, ∀ child ∈ (page.get id).children,
      wanted child = true → id = root) :
    (page.light (depth + 2) root).find? wanted = (page.get root).children.find? wanted := by
  have inner (child : Nat) (hangs : child ∈ (page.get root).children) :
      (page.light (depth + 1) child).find? wanted = Option.guard wanted child := by
    rw [light, List.find?_cons]
    cases found : wanted child with
    | true => simp [Option.guard, found]
    | false =>
        rw [show Option.guard wanted child = none by simp [Option.guard, found],
          List.find?_eq_none]
        intro id below here
        have inside : id ∈ page.light (depth + 1) child := List.mem_cons_of_mem child below
        rcases mem_light inside with rfl | ⟨parent, above, under⟩
        · simp [found] at here
        -- What is wanted below the child would put the root there as well.
        · have inTree : parent ∈ page.light (depth + 2) root :=
            List.mem_cons_of_mem root (List.mem_flatMap.mpr ⟨child, hangs, above⟩)
          obtain rfl := direct parent inTree id under here
          rcases mem_light above with rfl | ⟨place, -, hung⟩
          · exact free _ hangs
          · exact free place hung
  rw [light, List.find?_cons_of_neg (by simp [other]), List.find?_flatMap,
    List.find?_eq_findSome?_guard]
  generalize (page.get root).children = children at inner
  induction children with
  | nil => rfl
  | cons child rest inductionHypothesis =>
      rw [List.findSome?_cons, List.findSome?_cons, inner child List.mem_cons_self,
        inductionHypothesis fun later member => inner later (List.mem_cons_of_mem child member)]

/-! ## Order among children -/

/-- A new element is hung up behind all others. -/
theorem children_hungUp {element : Element} (children : element.children = [])
    (parent : element.parent = none) {place : Nat} (there : place < page.nextId) (id : Nat) :
    (((page.create element).1.append place page.nextId).get id).children =
      if id = place then (page.get id).children ++ [page.nextId] else (page.get id).children := by
  have created : ((page.create element).1.get id).children = (page.get id).children := by
    rw [get_create]
    split
    · next here => rw [here, get_of_le (Nat.le_refl _), children]; rfl
    · rfl
  have free : (page.create element).1.detach page.nextId = (page.create element).1 := by
    unfold detach
    rw [get_create, if_pos rfl, parent]
  rw [children_append _ _ _ _ (by rw [nextId_create]; omega), free, created]

theorem bare_hungUp (page : Page) (element : Element) (place : Nat) {id : Nat}
    (there : id < page.nextId) :
    bare (((page.create element).1.append place page.nextId).get id) = bare (page.get id) := by
  rw [bare_append, get_create, if_neg (Nat.ne_of_lt there)]

/-- From one page to another, elements are hung up behind those that are there, and of these only some
are taken down. -/
structure Moves (gone : Nat → Prop) (page after : Page) : Prop where
  grown : page.nextId ≤ after.nextId
  rows : ∀ (id : Nat) (row : List Nat), row.Sublist (page.get id).children →
    (∀ node ∈ row, ¬ gone node) →
    row.Sublist (after.get id).children
  adds : ∀ id, ∀ child ∈ (after.get id).children,
    child ∈ (page.get id).children ∨ page.nextId ≤ child

namespace Moves

variable {gone : Nat → Prop}

theorem refl (page : Page) : Moves gone page page where
  grown := Nat.le_refl _
  rows := fun _ _ ordered _ => ordered
  adds := fun _ _ member => .inl member

theorem trans {next last : Page} (left : Moves gone page next) (right : Moves gone next last) :
    Moves gone page last where
  grown := Nat.le_trans left.grown right.grown
  rows := fun id row ordered stays => right.rows id row (left.rows id row ordered stays) stays
  adds := by
    intro id child member
    rcases right.adds id child member with before | new
    · exact left.adds id child before
    · exact .inr (Nat.le_trans left.grown new)

theorem mono {fewer : Nat → Prop} {after : Page} (moves : Moves fewer page after)
    (more : ∀ node, fewer node → gone node) : Moves gone page after where
  grown := moves.grown
  rows := fun id row ordered stays =>
    moves.rows id row ordered fun node member left => stays node member (more node left)
  adds := moves.adds

/-- Changes that leave all children where they are. -/
theorem of_children {after : Page} (grown : page.nextId ≤ after.nextId)
    (same : ∀ id, (after.get id).children = (page.get id).children) : Moves gone page after where
  grown := grown
  rows := by
    intro id row ordered _
    rw [same]
    exact ordered
  adds := by
    intro id child member
    rw [same] at member
    exact .inl member

theorem modify (id : Nat) (change : Element → Element)
    (same : ∀ element, (change element).children = element.children) :
    Moves gone page (page.modify id change) :=
  .of_children (by simp) fun other => proj_modify Element.children change same page id other

theorem detach (id : Nat) : Moves (· = id) page (page.detach id) where
  grown := by simp
  rows := by
    intro other row ordered stays
    rw [children_detach]
    split
    · have absent : id ∉ row := fun member => stays id member rfl
      rw [← List.erase_of_not_mem absent]
      exact ordered.erase id
    · exact ordered
  adds := by
    intro other child member
    rw [children_detach] at member
    split at member
    · exact .inl (List.mem_of_mem_erase member)
    · exact .inl member

theorem takenDown (nodes : List Nat) : Moves (· ∈ nodes) page (nodes.foldl Page.detach page) := by
  induction nodes generalizing page with
  | nil => exact .refl page
  | cons node rest inductionHypothesis =>
      refine .trans (.mono (.detach node) ?_) (.mono inductionHypothesis ?_)
      · rintro _ rfl
        exact List.mem_cons_self
      · intro other later
        exact List.mem_cons_of_mem node later

theorem hungUp {element : Element} (children : element.children = []) (parent : element.parent = none)
    {place : Nat} (there : place < page.nextId) :
    Moves gone page ((page.create element).1.append place page.nextId) := by
  have hung := children_hungUp children parent there
  refine ⟨by simp, ?_, ?_⟩
  · intro id row ordered _
    rw [hung]
    split
    · exact ordered.trans (List.sublist_append_left _ _)
    · exact ordered
  · intro id child member
    rw [hung] at member
    split at member
    · rcases List.mem_append.mp member with before | new
      · exact .inl before
      · exact .inr (Nat.le_of_eq (List.mem_singleton.mp new).symm)
    · exact .inl member

theorem attachShadow (host : Nat) : Moves gone page (page.attachShadow host).1 := by
  rcases page.attachShadow_cases host with ⟨root, -, same⟩ | ⟨-, made⟩
  · rw [same]
    exact .refl page
  · rw [made]
    refine .trans (.of_children (by simp) ?_) (.modify host _ fun _ => rfl)
    intro id
    rw [get_create]
    split
    · next here => rw [here, get_of_le (Nat.le_refl _)]; rfl
    · rfl

end Moves

end Page

/-- Of a row of elements that stand once in a list, in this order, the first one is found first. -/
theorem find?_of_row {wanted : Nat → Bool} {first : Nat} {row items : List Nat}
    (ordered : (first :: row).Sublist items) (here : wanted first = true)
    (inside : ∀ item ∈ items, wanted item = true → item ∈ first :: row)
    (once : ∀ item ∈ row, items.count item ≤ 1) : items.find? wanted = some first := by
  obtain ⟨front, back, rfl, member, later⟩ := List.cons_sublist_iff.mp ordered
  rw [List.find?_append]
  cases found : front.find? wanted with
  | none => simp [List.find?_eq_none.mp found first member] at here
  | some item =>
      have left : item ∈ front := List.mem_of_find?_eq_some found
      rcases List.mem_cons.mp (inside item (List.mem_append_left _ left)
        (List.find?_some found)) with rfl | other
      · rfl
      · have most := once item other
        have right := List.count_pos_iff.mpr (later.subset other)
        have left := List.count_pos_iff.mpr left
        rw [List.count_append] at most
        omega

/-- An item that is wanted is found exactly if none is wanted that comes before it. -/
theorem find?_eq_some_iff_idxOf {wanted : Nat → Bool} {item : Nat} {items : List Nat}
    (member : item ∈ items) (here : wanted item = true) :
    items.find? wanted = some item ↔
      ∀ other, items.idxOf other < items.idxOf item → wanted other = false := by
  induction items with
  | nil => cases member
  | cons first rest inductionHypothesis =>
      by_cases same : first = item
      · subst same
        simp [here]
      · have inside : item ∈ rest := (List.mem_cons.mp member).resolve_left (Ne.symm same)
        have apart : (first == item) = false := by simpa using same
        cases found : wanted first with
        | true =>
            rw [List.find?_cons_of_pos found]
            refine ⟨fun equal => absurd (Option.some.inj equal) same, fun none => ?_⟩
            have missing := none first (by simp [List.idxOf_cons, apart])
            rw [found] at missing
            cases missing
        | false =>
            rw [List.find?_cons_of_neg (by simp [found]), inductionHypothesis inside]
            refine forall_congr' fun other => ?_
            by_cases head : first = other
            · simp [← head, found]
            · have different : (first == other) = false := by simpa using head
              simp [List.idxOf_cons, apart, different]

end Lectern
