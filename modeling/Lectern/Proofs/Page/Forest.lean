/-
Module: Lectern.Proofs.Page.Forest
Purpose: Elements stand in a forest, whatever is made, hung up, moved, taken down and given a shadow
  root, as long as nothing is hung up below itself. Parents and lists of children agree, a host keeps
  its shadow root, and a walk below an element ends and meets each element there once.
Trusted boundary: none
Main exports: Page.Above, Page.Forest, Page.Operation, Page.Permits, Page.Orderly,
  Page.orderly_performAll
-/
import Mathlib.Data.List.Nodup
import Mathlib.Data.List.Perm.Subperm
import Mathlib.Logic.Relation
import Mathlib.Order.WellFounded
import Lectern.Proofs.Page.Links

namespace Lectern.Page

open Relation (ReflTransGen TransGen)

/-! ## Above and below -/

/-- One element is right above another one: its parent, or the host of the shadow tree whose root it
is. -/
def Above (page : Page) (upper lower : Nat) : Prop :=
  (page.get lower).parent = some upper ∨ (page.get upper).shadowRoot = some lower

/-- The elements right below an element, its shadow root first. -/
def below (page : Page) (id : Nat) : List Nat :=
  (page.get id).shadowRoot.toList ++ (page.get id).children

/-- The elements of a page stand in a forest: lists of children and parents agree, a shadow root has a
host and no parent, and going up from an element comes to an end. -/
structure Forest (page : Page) : Prop where
  linked : page.Linked 0
  rootFree : ∀ host root, (page.get host).shadowRoot = some root → (page.get root).parent = none
  hostUnique : ∀ host other root, (page.get host).shadowRoot = some root →
    (page.get other).shadowRoot = some root → host = other
  grounded : WellFounded page.Above

namespace Forest

variable {page : Page} {id upper lower other : Nat}

/-- An element with something below it is in the page. -/
theorem upper_lt (forest : page.Forest) (above : page.Above upper lower) : upper < page.nextId := by
  apply Nat.lt_of_not_le
  intro beyond
  have missing := get_of_le beyond
  rcases above with hangs | rooted
  · have named := forest.linked.named upper lower (Nat.zero_le _)
    rw [missing, if_pos hangs] at named
    cases named
  · rw [missing] at rooted
    cases rooted

/-- An element with something above it is in the page. -/
theorem lower_lt (forest : page.Forest) (above : page.Above upper lower) : lower < page.nextId :=
  above.elim lt_of_parent (forest.linked.rooted upper lower)

theorem mem_below (forest : page.Forest) : lower ∈ page.below upper ↔ page.Above upper lower := by
  unfold below Above
  rw [List.mem_append, Option.mem_toList, forest.linked.mem_children (Nat.zero_le _), or_comm]

theorem upper_unique (forest : page.Forest) (above : page.Above upper id)
    (also : page.Above other id) : upper = other := by
  rcases above with hangs | rooted
  · rcases also with there | rooted
    · rw [hangs] at there
      exact Option.some.inj there
    · rw [forest.rootFree other id rooted] at hangs
      cases hangs
  · rcases also with hangs | there
    · rw [forest.rootFree upper id rooted] at hangs
      cases hangs
    · exact forest.hostUnique upper other id rooted there

/-- No element is above itself. -/
theorem acyclic (forest : page.Forest) (id : Nat) : ¬ TransGen page.Above id id :=
  forest.grounded.transGen.irrefl.irrefl id

/-- What is right below an element is not above it. -/
theorem not_reaches_back (forest : page.Forest) (above : page.Above upper lower) :
    ¬ ReflTransGen page.Above lower upper := by
  intro back
  exact forest.acyclic upper (TransGen.head' above back)

theorem nodup_below (forest : page.Forest) (id : Nat) : (page.below id).Nodup := by
  have children : (page.get id).children.Nodup := by
    rw [List.nodup_iff_count_le_one]
    intro child
    rw [forest.linked.named id child (Nat.zero_le _)]
    split <;> omega
  unfold below
  cases rooted : (page.get id).shadowRoot with
  | none => exact children
  | some root =>
      refine List.nodup_cons.mpr ⟨?_, children⟩
      intro member
      have hangs := (forest.linked.mem_children (Nat.zero_le _)).mp member
      rw [forest.rootFree id root rooted] at hangs
      cases hangs

/-! ## The walk below an element -/

theorem reaches_of_mem_descend (forest : page.Forest) {depth : Nat}
    (member : other ∈ page.descend depth id) : ReflTransGen page.Above id other := by
  induction depth generalizing id with
  | zero => cases member
  | succ depth inductionHypothesis =>
      rcases List.mem_cons.mp member with rfl | deeper
      · exact .refl
      · obtain ⟨child, inside, found⟩ := List.mem_flatMap.mp deeper
        exact .head (forest.mem_below.mp inside) (inductionHypothesis found)

/-- More depth finds nothing more once it and the way from above make up for all elements of a page.
The way cannot pass an element twice, so it is never longer than there are elements. -/
theorem descend_succ (forest : page.Forest) {depth : Nat} {path : List Nat}
    (above : ∀ passed ∈ path, ReflTransGen page.Above passed id) (distinct : path.Nodup)
    (inside : ∀ passed ∈ path, passed < page.nextId)
    (enough : page.nextId < depth + path.length) :
    page.descend depth id = page.descend (depth + 1) id := by
  induction depth generalizing id path with
  | zero =>
      have fits : path.Subperm (List.range page.nextId) :=
        distinct.subperm fun passed member => List.mem_range.mpr (inside passed member)
      have short := fits.length_le
      rw [List.length_range] at short
      omega
  | succ depth inductionHypothesis =>
      show id :: (page.below id).flatMap _ = id :: (page.below id).flatMap _
      congr 1
      apply List.flatMap_congr
      intro child member
      have under := forest.mem_below.mp member
      refine @inductionHypothesis child (child :: path) ?_ ?_ ?_ ?_
      · refine List.forall_mem_cons.mpr ⟨.refl, fun passed earlier => ?_⟩
        exact (above passed earlier).tail under
      · refine List.nodup_cons.mpr ⟨fun earlier => ?_, distinct⟩
        exact forest.not_reaches_back under (above child earlier)
      · exact List.forall_mem_cons.mpr ⟨forest.lower_lt under, inside⟩
      · rw [List.length_cons]
        omega

/-- A walk meets an element, and then all that is below what is right below it. -/
theorem subtree_eq (forest : page.Forest) (inside : id < page.nextId) :
    page.subtree id = id :: (page.below id).flatMap page.subtree := by
  refine @descend_succ page id forest page.nextId [id] ?_ ?_ ?_ ?_
  · exact List.forall_mem_singleton.mpr .refl
  · exact List.nodup_singleton id
  · exact List.forall_mem_singleton.mpr inside
  · exact Nat.lt_succ_self _

theorem mem_subtree (forest : page.Forest) (inside : id < page.nextId) :
    other ∈ page.subtree id ↔ ReflTransGen page.Above id other := by
  constructor
  · exact forest.reaches_of_mem_descend
  · intro reaches
    induction reaches using ReflTransGen.head_induction_on with
    | refl =>
        rw [forest.subtree_eq inside]
        exact List.mem_cons_self
    | head above _ inductionHypothesis =>
        rw [forest.subtree_eq inside]
        refine List.mem_cons_of_mem _ (List.mem_flatMap.mpr ⟨_, forest.mem_below.mpr above, ?_⟩)
        exact inductionHypothesis (forest.lower_lt above)

/-- Two elements right below one have nothing below them in common. -/
theorem apart (forest : page.Forest) {first second : Nat} (one : page.Above id first)
    (two : page.Above id second) (reaches : ReflTransGen page.Above first other)
    (also : ReflTransGen page.Above second other) : first = second := by
  -- From below the way up is unique, so one of the two is on the way to the other.
  have comes {start finish : Nat} (goes : ReflTransGen page.Above start finish)
      (under : page.Above id start) (also : page.Above id finish) : start = finish := by
    rcases ReflTransGen.cases_tail goes with same | ⟨between, way, last⟩
    · exact same.symm
    · rw [forest.upper_unique last also] at way
      exact absurd way (forest.not_reaches_back under)
  have unique : Relator.RightUnique (Function.swap page.Above) :=
    fun _ _ _ left right => forest.upper_unique left right
  rcases ReflTransGen.total_of_right_unique unique (Relation.reflTransGen_swap.mpr reaches)
    (Relation.reflTransGen_swap.mpr also) with up | up
  · exact (comes (Relation.reflTransGen_swap.mp up) two one).symm
  · exact comes (Relation.reflTransGen_swap.mp up) one two

theorem nodup_descend (forest : page.Forest) (depth id : Nat) : (page.descend depth id).Nodup := by
  induction depth generalizing id with
  | zero => exact List.nodup_nil
  | succ depth inductionHypothesis =>
      refine List.nodup_cons.mpr ⟨?_, List.nodup_flatMap.mpr
        ⟨fun child _ => inductionHypothesis child, ?_⟩⟩
      · intro member
        obtain ⟨child, inside, found⟩ := List.mem_flatMap.mp member
        exact forest.not_reaches_back (forest.mem_below.mp inside)
          (forest.reaches_of_mem_descend found)
      · refine (forest.nodup_below id).imp_of_mem ?_
        intro first second one two different
        refine List.disjoint_left.mpr fun shared left right => different ?_
        exact forest.apart (forest.mem_below.mp one) (forest.mem_below.mp two)
          (forest.reaches_of_mem_descend left) (forest.reaches_of_mem_descend right)

/-- Going down from an element comes to an end. -/
theorem bottomed (forest : page.Forest) :
    WellFounded fun lower upper => page.Above upper lower := by
  refine Subrelation.wf ?_ (measure fun id => (page.subtree id).length).wf
  intro lower upper above
  obtain ⟨front, back, split⟩ := List.append_of_mem (forest.mem_below.mpr above)
  show (page.subtree lower).length < (page.subtree upper).length
  rw [forest.subtree_eq (forest.upper_lt above), split, List.flatMap_append, List.flatMap_cons]
  simp only [List.length_cons, List.length_append]
  omega

end Forest

/-! ## Changes -/

/-- Where one more link leads from above to below, and not back up, going up still comes to an end. -/
private theorem wellFounded_linked {relation after : Nat → Nat → Prop} {upper lower : Nat}
    (wellFounded : WellFounded relation)
    (only : ∀ first second, after first second →
      relation first second ∨ first = upper ∧ second = lower)
    (apart : ¬ ReflTransGen relation lower upper) : WellFounded after := by
  -- The link is above nothing but what is below its lower end.
  have outside (id : Nat) : ¬ ReflTransGen relation lower id → Acc after id := by
    induction id using wellFounded.induction with
    | _ id inductionHypothesis =>
        intro unreached
        refine .intro id fun above leads => ?_
        rcases only above id leads with before | ⟨-, rfl⟩
        · exact inductionHypothesis above before fun reached => unreached (reached.tail before)
        · exact absurd .refl unreached
  refine ⟨fun id => ?_⟩
  induction id using wellFounded.induction with
  | _ id inductionHypothesis =>
      refine .intro id fun above leads => ?_
      rcases only above id leads with before | ⟨rfl, -⟩
      · exact inductionHypothesis above before
      · exact outside above apart

/-- A change of a page. -/
inductive Operation where
  /-- An element is made that hangs nowhere. -/
  | new (tag : String) (attributes : List (String × String)) (text : String)
  | append (parent child : Nat)
  | detach (id : Nat)
  | attachShadow (host : Nat)
  deriving DecidableEq, Repr

/-- What a change makes of a page. -/
def perform (page : Page) : Operation → Page
  | .new tag attributes text => (page.create { tag, attributes, text }).1
  | .append parent child => page.append parent child
  | .detach id => page.detach id
  | .attachShadow host => (page.attachShadow host).1

/-- What changes one after the other make of a page. -/
def performAll (page : Page) (operations : List Operation) : Page := operations.foldl perform page

/-- May a page be changed so? The elements that are named are there, and what is hung up is no shadow
root, nor the place that it is hung up at, nor above that. -/
def Permits (page : Page) : Operation → Prop
  | .new _ _ _ => True
  | .append parent child => parent < page.nextId ∧ child < page.nextId ∧
      (∀ host, (page.get host).shadowRoot ≠ some child) ∧ ¬ ReflTransGen page.Above child parent
  | .detach id => id < page.nextId
  | .attachShadow host => host < page.nextId

/-- May a page be changed so, one change after the other? -/
def PermitsAll : Page → List Operation → Prop
  | _, [] => True
  | page, operation :: rest =>
    page.Permits operation ∧ (page.perform operation).PermitsAll rest

namespace Forest

theorem empty : Forest {} where
  linked := ⟨fun _ _ _ => rfl, nofun⟩
  rootFree := nofun
  hostUnique := nofun
  grounded := ⟨fun id => .intro id fun _ above => above.elim nofun nofun⟩

variable {page : Page}

theorem create (forest : page.Forest) {element : Element} (children : element.children = [])
    (parent : element.parent = none) (root : element.shadowRoot = none) :
    (page.create element).1.Forest := by
  have parents (id : Nat) : ((page.create element).1.get id).parent = (page.get id).parent := by
    rw [get_create]
    split
    · next new => rw [new, get_of_le (Nat.le_refl _), parent]; rfl
    · rfl
  have roots (id : Nat) :
      ((page.create element).1.get id).shadowRoot = (page.get id).shadowRoot := by
    rw [get_create]
    split
    · next new => rw [new, get_of_le (Nat.le_refl _), root]; rfl
    · rfl
  have above : (page.create element).1.Above = page.Above := by
    funext upper lower
    simp only [Above, parents, roots]
  refine ⟨forest.linked.create element children parent root, ?_, ?_, above ▸ forest.grounded⟩
  · intro host found named
    rw [roots] at named
    rw [parents]
    exact forest.rootFree host found named
  · intro host other found first second
    rw [roots] at first second
    exact forest.hostUnique host other found first second

theorem detach (forest : page.Forest) (id : Nat) : (page.detach id).Forest := by
  have roots (other : Nat) : ((page.detach id).get other).shadowRoot = (page.get other).shadowRoot :=
    shadowRoot_of_bare (bare_detach page id other)
  refine ⟨forest.linked.detach id, ?_, ?_, Subrelation.wf ?_ forest.grounded⟩
  · intro host root named
    rw [roots] at named
    rw [parent_detach, forest.rootFree host root named, ite_self]
  · intro host other root first second
    rw [roots] at first second
    exact forest.hostUnique host other root first second
  · rintro upper lower (hangs | rooted)
    · rw [parent_detach] at hangs
      split at hangs
      · cases hangs
      · exact .inl hangs
    · exact .inr ((roots upper).symm.trans rooted)

theorem append (forest : page.Forest) {parent child : Nat} (place : parent < page.nextId)
    (there : child < page.nextId) (noRoot : ∀ host, (page.get host).shadowRoot ≠ some child)
    (apart : ¬ ReflTransGen page.Above child parent) : (page.append parent child).Forest := by
  have roots (id : Nat) :
      ((page.append parent child).get id).shadowRoot = (page.get id).shadowRoot :=
    shadowRoot_of_bare (bare_append page parent child id)
  refine ⟨forest.linked.append place there, ?_, ?_,
    wellFounded_linked forest.grounded ?_ apart⟩
  · intro host root named
    rw [roots] at named
    rw [parent_append _ _ _ _ there, if_neg]
    · exact forest.rootFree host root named
    · rintro rfl
      exact noRoot host named
  · intro host other root first second
    rw [roots] at first second
    exact forest.hostUnique host other root first second
  · rintro upper lower (hangs | rooted)
    · rw [parent_append _ _ _ _ there] at hangs
      split at hangs
      · next here => exact .inr ⟨(Option.some.inj hangs).symm, here⟩
      · exact .inl (.inl hangs)
    · exact .inl (.inr ((roots upper).symm.trans rooted))

theorem attachShadow (forest : page.Forest) {host : Nat} (inside : host < page.nextId) :
    (page.attachShadow host).1.Forest := by
  rcases page.attachShadow_cases host with ⟨_, _, same⟩ | ⟨missing, made⟩
  · rw [same]
    exact forest
  have linked := (forest.linked.attachShadow host).1
  have parents (id : Nat) := parent_attachShadow page host id
  have rooted {id root : Nat}
      (named : ((page.attachShadow host).1.get id).shadowRoot = some root) :
      (page.get id).shadowRoot = some root ∨ id = host ∧ root = page.nextId := by
    rw [made, get_modify, nextId_create] at named
    split at named
    · next here => exact .inr ⟨here.1, (Option.some.inj named).symm⟩
    · rw [get_create] at named
      split at named
      · cases named
      · exact .inl named
  have fresh {id : Nat} (named : (page.get id).shadowRoot = some page.nextId) : False :=
    Nat.lt_irrefl _ (forest.linked.rooted id _ named)
  -- Nothing is below the new root, so it is not above its host.
  have apart : ¬ ReflTransGen page.Above page.nextId host := by
    intro reaches
    rcases ReflTransGen.cases_head reaches with same | ⟨lower, above, -⟩
    · exact Nat.ne_of_gt inside same
    · exact Nat.lt_irrefl _ (forest.upper_lt above)
  refine ⟨linked, ?_, ?_, wellFounded_linked forest.grounded ?_ apart⟩
  · intro id root named
    rw [parents]
    rcases rooted named with before | ⟨-, rfl⟩
    · exact forest.rootFree id root before
    · rw [get_of_le (Nat.le_refl _)]
      rfl
  · intro id other root first second
    rcases rooted first with before | ⟨rfl, rfl⟩
    · rcases rooted second with also | ⟨-, rfl⟩
      · exact forest.hostUnique id other root before also
      · exact (fresh before).elim
    · rcases rooted second with also | ⟨same, -⟩
      · exact (fresh also).elim
      · exact same.symm
  · rintro upper lower (hangs | named)
    · exact .inl (.inl ((parents lower).symm.trans hangs))
    · exact (rooted named).imp_left .inr

/-- Every change that is permitted keeps the forest. -/
theorem perform (forest : page.Forest) {operation : Operation} (permitted : page.Permits operation) :
    (page.perform operation).Forest := by
  cases operation with
  | new tag attributes text => exact forest.create rfl rfl rfl
  | append parent child =>
      obtain ⟨place, there, noRoot, apart⟩ := permitted
      exact forest.append place there noRoot apart
  | detach id => exact forest.detach id
  | attachShadow host => exact forest.attachShadow permitted

theorem performAll (forest : page.Forest) {operations : List Operation}
    (permitted : page.PermitsAll operations) : (page.performAll operations).Forest := by
  induction operations generalizing page with
  | nil => exact forest
  | cons operation rest inductionHypothesis =>
      exact inductionHypothesis (forest.perform permitted.1) permitted.2

end Forest

/-! ## Permission as a check -/

/-- The check of whether a page may be changed so. -/
def permits (page : Page) : Operation → Bool
  | .new _ _ _ => true
  | .append parent child => parent < page.nextId && child < page.nextId &&
      ((List.range page.nextId).all fun host => (page.get host).shadowRoot != some child) &&
      !(page.subtree child).contains parent
  | .detach id => id < page.nextId
  | .attachShadow host => host < page.nextId

/-- The check of whether a page may be changed so, one change after the other. -/
def permitsAll : Page → List Operation → Bool
  | _, [] => true
  | page, operation :: rest => page.permits operation && (page.perform operation).permitsAll rest

theorem Forest.permits_iff {page : Page} (forest : page.Forest) {operation : Operation} :
    page.permits operation = true ↔ page.Permits operation := by
  cases operation with
  | new tag attributes text => simp [permits, Permits]
  | detach id => exact decide_eq_true_iff
  | attachShadow host => exact decide_eq_true_iff
  | append parent child =>
      have roots : (∀ host < page.nextId, (page.get host).shadowRoot ≠ some child) ↔
          ∀ host, (page.get host).shadowRoot ≠ some child := by
        refine ⟨fun known host => ?_, fun all host _ => all host⟩
        rcases Nat.lt_or_ge host page.nextId with inside | beyond
        · exact known host inside
        · rw [get_of_le beyond]
          exact nofun
      simp only [permits, Permits, Bool.and_eq_true, decide_eq_true_eq, List.all_eq_true,
        List.mem_range, bne_iff_ne, Bool.not_eq_true', roots, and_assoc]
      refine and_congr_right fun _ => and_congr_right fun there => and_congr_right fun _ => ?_
      rw [← Bool.not_eq_true, List.contains_iff_mem, forest.mem_subtree there]

theorem Forest.permitsAll_iff {page : Page} (forest : page.Forest) {operations : List Operation} :
    page.permitsAll operations = true ↔ page.PermitsAll operations := by
  induction operations generalizing page with
  | nil => exact ⟨fun _ => trivial, fun _ => rfl⟩
  | cons operation rest inductionHypothesis =>
      rw [permitsAll, PermitsAll, Bool.and_eq_true, forest.permits_iff]
      exact and_congr_right fun permitted => inductionHypothesis (forest.perform permitted)

/-! ## Shadow roots -/

/-- No change takes a shadow root from its host. -/
theorem shadowRoot_perform {page : Page} {host root : Nat}
    (found : (page.get host).shadowRoot = some root) (operation : Operation) :
    ((page.perform operation).get host).shadowRoot = some root := by
  cases operation with
  | new tag attributes text =>
      show ((page.create _).1.get host).shadowRoot = _
      rw [get_create]
      split
      · next new =>
          rw [new, get_of_le (Nat.le_refl _)] at found
          cases found
      · exact found
  | append parent child => exact (shadowRoot_of_bare (bare_append page parent child host)).trans found
  | detach id => exact (shadowRoot_of_bare (bare_detach page id host)).trans found
  | attachShadow other =>
      show ((page.attachShadow other).1.get host).shadowRoot = _
      rcases page.attachShadow_cases other with ⟨_, _, same⟩ | ⟨missing, made⟩
      · rw [same]
        exact found
      · rw [made, get_modify, nextId_create, if_neg, get_create, if_neg]
        · exact found
        · rintro rfl
          rw [get_of_le (Nat.le_refl _)] at found
          cases found
        · rintro ⟨rfl, -⟩
          rw [missing] at found
          cases found

theorem shadowRoot_performAll {page : Page} {host root : Nat}
    (found : (page.get host).shadowRoot = some root) (operations : List Operation) :
    ((page.performAll operations).get host).shadowRoot = some root := by
  induction operations generalizing page with
  | nil => exact found
  | cons operation rest inductionHypothesis =>
      exact inductionHypothesis (shadowRoot_perform found operation)

theorem attachShadow_of_found {page : Page} {host root : Nat}
    (found : (page.get host).shadowRoot = some root) : page.attachShadow host = (page, root) := by
  unfold attachShadow
  rw [found]

/-! ## What holds of a page -/

/-- What can be relied on for the elements of a page. -/
structure Orderly (page : Page) : Prop where
  /-- An element is among the children of its parent, once, and among those of no other element. -/
  named : ∀ owner id, (page.get owner).children.count id =
    if (page.get id).parent = some owner then 1 else 0
  /-- At most one element is right above another one, and none is above itself. -/
  single : ∀ first second id, page.Above first id → page.Above second id → first = second
  acyclic : ∀ id, ¬ TransGen page.Above id id
  /-- However a page is changed, a host answers with the shadow root that it answered with first. -/
  sameRoot : ∀ host < page.nextId, ∀ operations,
    let later := (page.attachShadow host).1.performAll operations
    later.attachShadow host = (later, (page.attachShadow host).2)
  /-- Going down comes to an end. A walk meets an element first, then all that is in its shadow tree,
  then all that is below its children, and it meets each of them once. -/
  ends : WellFounded fun lower upper => page.Above upper lower
  walk : ∀ id < page.nextId, page.subtree id =
    id :: ((page.get id).shadowRoot.toList ++ (page.get id).children).flatMap page.subtree
  once : ∀ id, (page.subtree id).Nodup
  all : ∀ id < page.nextId, ∀ other,
    other ∈ page.subtree id ↔ ReflTransGen page.Above id other

theorem Forest.orderly {page : Page} (forest : page.Forest) : page.Orderly where
  named := fun owner id => forest.linked.named owner id (Nat.zero_le _)
  single := fun _ _ _ one other => forest.upper_unique one other
  acyclic := forest.acyclic
  sameRoot := by
    intro host inside operations
    exact attachShadow_of_found (shadowRoot_performAll (shadowRoot_attachShadow inside) operations)
  ends := forest.bottomed
  walk := fun _ inside => forest.subtree_eq inside
  once := forest.nodup_descend page.elements.size
  all := fun _ inside _ => forest.mem_subtree inside

/-- Whatever elements are made, hung up, moved, taken down and given shadow roots, as long as none is
hung up below itself and no shadow root is hung up, the page is orderly. -/
theorem orderly_performAll {operations : List Operation} (permitted : PermitsAll {} operations) :
    (performAll {} operations).Orderly :=
  (Forest.empty.performAll permitted).orderly

/-- An element is hung into a shadow tree, moved among the children of another one, and hung up there
once more, before that one is taken down and hung up under the host. -/
theorem orderly_performAll_moved :
    let operations : List Operation := [.new "div" [] "", .new "p" [] "a", .new "p" [] "",
      .attachShadow 0, .append 3 1, .append 0 2, .append 2 1, .append 2 1, .detach 2, .append 0 2]
    PermitsAll {} operations ∧ (performAll {} operations).Orderly := by
  intro operations
  have permitted : PermitsAll {} operations := Forest.empty.permitsAll_iff.mp (by decide +kernel)
  exact ⟨permitted, orderly_performAll permitted⟩

/-- A walk meets a shadow tree before the children of its host. -/
example : (performAll {} [.new "div" [] "", .new "p" [] "", .append 0 1, .attachShadow 0,
    .new "p" [] "", .append 2 3]).subtree 0 = [0, 2, 3, 1] := by decide +kernel

end Lectern.Page
