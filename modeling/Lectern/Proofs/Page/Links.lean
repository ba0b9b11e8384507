/-
Module: Lectern.Proofs.Page.Links
Purpose: Elements and the lists that name them. From some element on, each one is named exactly
  once by its parent and nowhere else, whatever is hung up, moved or taken down.
Trusted boundary: none
Main exports: Page.Closed, Page.Linked, Page.Linked.detach, Page.Linked.append,
  Page.Linked.attachShadow
-/
import Lectern.Page.Basic

namespace Lectern.Page

/-! ## What a change does to each element -/

@[simp] theorem nextId_modify (page : Page) (id : Nat) (change : Element → Element) :
    (page.modify id change).nextId = page.nextId :=
  Array.size_modify

@[simp] theorem nextId_create (page : Page) (element : Element) :
    (page.create element).1.nextId = page.nextId + 1 :=
  Array.size_push _

@[simp] theorem create_snd (page : Page) (element : Element) :
    (page.create element).2 = page.nextId := rfl

theorem get_of_le {page : Page} {id : Nat} (beyond : page.nextId ≤ id) :
    page.get id = default := by
  unfold get
  rw [Array.getElem?_eq_none beyond]
  rfl

theorem get_modify (page : Page) (id : Nat) (change : Element → Element) (other : Nat) :
    (page.modify id change).get other =
      if other = id ∧ id < page.nextId then change (page.get id) else page.get other := by
  unfold get modify nextId
  rw [Array.getElem?_modify]
  by_cases same : other = id
  · subst same
    by_cases inside : other < page.elements.size
    · simp [inside]
    · simp [inside]
  · simp [same, Ne.symm same]

theorem get_create (page : Page) (element : Element) (other : Nat) :
    (page.create element).1.get other =
      if other = page.nextId then element else page.get other := by
  unfold get create nextId
  rw [Array.getElem?_push]
  split <;> rfl

/-- What a change leaves alone in the element it is made to, it leaves alone everywhere. -/
theorem proj_modify {α : Type} (proj : Element → α) (change : Element → Element)
    (kept : ∀ element, proj (change element) = proj element) (page : Page) (id other : Nat) :
    proj ((page.modify id change).get other) = proj (page.get other) := by
  rw [get_modify]
  split
  · next here => rw [kept, here.1]
  · rfl

/-- An element that has a parent is in the page. -/
theorem lt_of_parent {page : Page} {id parent : Nat}
    (hangs : (page.get id).parent = some parent) : id < page.nextId := by
  apply Nat.lt_of_not_le
  intro beyond
  rw [get_of_le beyond] at hangs
  cases hangs

/-- An element apart from where it hangs and what hangs under it. -/
def bare (element : Element) : Element := { element with children := [], parent := none }

theorem shadowRoot_of_bare {element other : Element} (same : bare element = bare other) :
    element.shadowRoot = other.shadowRoot := by
  have roots := congrArg Element.shadowRoot same
  exact roots

theorem attribute?_of_bare {element other : Element} (same : bare element = bare other)
    (name : String) : element.attribute? name = other.attribute? name := by
  have attributes : element.attributes = other.attributes := by
    have kept := congrArg Element.attributes same
    exact kept
  unfold Element.attribute?
  rw [attributes]

section Detaching

variable (page : Page) (id other : Nat)

@[simp] theorem nextId_detach : (page.detach id).nextId = page.nextId := by
  unfold detach
  split <;> simp

@[simp] theorem parent_detach :
    ((page.detach id).get other).parent =
      if other = id then none else (page.get other).parent := by
  unfold detach
  cases hangs : (page.get id).parent with
  | none =>
      dsimp only
      split
      · next same => rw [same, hangs]
      · rfl
  | some parent =>
      dsimp only
      have inside := lt_of_parent hangs
      rw [get_modify, nextId_modify]
      by_cases same : other = id
      · rw [if_pos ⟨same, inside⟩, if_pos same]
      · rw [if_neg (fun both => same both.1), if_neg same]
        exact proj_modify Element.parent
          (fun element => { element with children := element.children.erase id })
          (fun _ => rfl) page parent other

theorem children_detach :
    ((page.detach id).get other).children =
      if (page.get id).parent = some other then (page.get other).children.erase id
      else (page.get other).children := by
  unfold detach
  cases hangs : (page.get id).parent with
  | none => simp
  | some parent =>
      dsimp only
      rw [proj_modify Element.children (fun element => { element with parent := none })
        (fun _ => rfl), get_modify]
      by_cases same : other = parent
      · subst same
        by_cases inside : other < page.nextId
        · simp [inside]
        · simp [inside, get_of_le (Nat.le_of_not_lt inside), show (default : Element).children = []
            from rfl]
      · simp [same, Ne.symm same]

@[simp] theorem bare_detach : bare ((page.detach id).get other) = bare (page.get other) := by
  unfold detach
  cases (page.get id).parent with
  | none => rfl
  | some parent =>
      dsimp only
      rw [proj_modify bare (fun element => { element with parent := none }) (fun _ => rfl),
        proj_modify bare (fun element => { element with children := element.children.erase id })
          (fun _ => rfl)]

end Detaching

section Appending

variable (page : Page) (parent child other : Nat)

@[simp] theorem nextId_append : (page.append parent child).nextId = page.nextId := by
  simp [append]

theorem parent_append (inside : child < page.nextId) :
    ((page.append parent child).get other).parent =
      if other = child then some parent else (page.get other).parent := by
  unfold append
  rw [proj_modify Element.parent
    (fun element => { element with children := element.children ++ [child] }) (fun _ => rfl),
    get_modify, nextId_detach]
  by_cases same : other = child
  · simp [same, inside]
  · simp [same]

theorem children_append (inside : parent < page.nextId) :
    ((page.append parent child).get other).children =
      if other = parent then ((page.detach child).get other).children ++ [child]
      else ((page.detach child).get other).children := by
  unfold append
  rw [get_modify, nextId_modify, nextId_detach]
  have kept (id : Nat) := proj_modify Element.children
    (fun element => { element with parent := some parent }) (fun _ => rfl) (page.detach child)
    child id
  by_cases same : other = parent
  · subst same
    simp [inside, kept]
  · simp [same, kept]

@[simp] theorem bare_append :
    bare ((page.append parent child).get other) = bare (page.get other) := by
  unfold append
  rw [proj_modify bare (fun element => { element with children := element.children ++ [child] })
    (fun _ => rfl), proj_modify bare (fun element => { element with parent := some parent })
    (fun _ => rfl), bare_detach]

end Appending

section AttachingShadows

variable (page : Page) (host other : Nat)

/-- Attaching a shadow root either finds it or makes it. -/
theorem attachShadow_cases :
    (∃ root, (page.get host).shadowRoot = some root ∧ page.attachShadow host = (page, root)) ∨
    ((page.get host).shadowRoot = none ∧
      page.attachShadow host =
        ((page.create { tag := shadowTag }).1.modify host fun element =>
          { element with shadowRoot := some page.nextId }, page.nextId)) := by
  unfold attachShadow
  cases found : (page.get host).shadowRoot with
  | some root => exact .inl ⟨root, rfl, rfl⟩
  | none => exact .inr ⟨rfl, rfl⟩

@[simp] theorem parent_attachShadow :
    ((page.attachShadow host).1.get other).parent = (page.get other).parent := by
  rcases page.attachShadow_cases host with ⟨root, -, same⟩ | ⟨-, made⟩
  · rw [same]
  · rw [made, proj_modify Element.parent
      (fun element => { element with shadowRoot := some page.nextId }) (fun _ => rfl), get_create]
    split
    · next fresh => rw [fresh, get_of_le (Nat.le_refl _)]; rfl
    · rfl

theorem shadowRoot_attachShadow {page : Page} {host : Nat} (inside : host < page.nextId) :
    ((page.attachShadow host).1.get host).shadowRoot = some (page.attachShadow host).2 := by
  rcases page.attachShadow_cases host with ⟨root, found, same⟩ | ⟨-, made⟩
  · rw [same, found]
  · rw [made, get_modify, nextId_create, if_pos ⟨rfl, Nat.lt_succ_of_lt inside⟩]

end AttachingShadows

/-! ## Links -/

/-- From an element on, each one is named once by its parent and nowhere else; and every shadow root
that is named is there. -/
structure Linked (first : Nat) (page : Page) : Prop where
  named : ∀ id node, first ≤ node → (page.get id).children.count node =
    if (page.get node).parent = some id then 1 else 0
  rooted : ∀ id root, (page.get id).shadowRoot = some root → root < page.nextId

/-- Does a page name none but its own elements? -/
def Closed (page : Page) : Prop :=
  ∀ element ∈ page.elements.toList, (∀ child ∈ element.children, child < page.nextId) ∧
    ∀ root ∈ element.shadowRoot, root < page.nextId

instance (page : Page) : Decidable page.Closed :=
  inferInstanceAs (Decidable (∀ element ∈ page.elements.toList, _ ∧ _))

theorem get_cases (page : Page) (id : Nat) :
    page.get id = default ∨ page.get id ∈ page.elements.toList := by
  unfold get
  rcases Nat.lt_or_ge id page.elements.size with inside | beyond
  · right
    rw [Array.getElem?_eq_getElem inside, Option.getD_some, Array.mem_toList_iff]
    exact Array.getElem_mem inside
  · left
    rw [Array.getElem?_eq_none beyond]
    rfl

/-- Elements that are not there yet are named nowhere. -/
theorem Closed.linked {page : Page} (closed : page.Closed) : page.Linked page.nextId where
  named := by
    intro id node beyond
    rw [get_of_le beyond]
    have absent : node ∉ (page.get id).children := by
      intro member
      rcases page.get_cases id with missing | there
      · rw [missing] at member
        cases member
      · have inside := (closed _ there).1 node member
        omega
    rw [List.count_eq_zero_of_not_mem absent]
    rfl
  rooted := by
    intro id root found
    rcases page.get_cases id with missing | there
    · rw [missing] at found
      cases found
    · exact (closed _ there).2 root found

namespace Linked

variable {first : Nat} {page : Page}

/-- A child is one by the word of both. -/
theorem mem_children (linked : page.Linked first) {id node : Nat} (new : first ≤ node) :
    node ∈ (page.get id).children ↔ (page.get node).parent = some id := by
  rw [← List.count_pos_iff, linked.named id node new]
  split <;> simp [*]

theorem detach (linked : page.Linked first) (id : Nat) : (page.detach id).Linked first where
  named := by
    intro other node new
    have before := linked.named other node new
    rw [children_detach, parent_detach]
    by_cases same : node = id
    · subst same
      by_cases parent : (page.get node).parent = some other
      · rw [if_pos parent, if_pos rfl, List.count_erase_self, before, if_pos parent]
        rfl
      · rw [if_neg parent, if_pos rfl, before, if_neg parent]
        rfl
    · rw [if_neg same]
      split
      · rw [List.count_erase_of_ne same, before]
      · exact before
  rooted := by
    intro other root found
    rw [shadowRoot_of_bare (bare_detach page id other)] at found
    rw [nextId_detach]
    exact linked.rooted other root found

theorem append (linked : page.Linked first) {parent child : Nat} (host : parent < page.nextId)
    (inside : child < page.nextId) : (page.append parent child).Linked first where
  named := by
    intro other node new
    have before := (linked.detach child).named other node new
    rw [parent_detach] at before
    rw [children_append _ _ _ _ host, parent_append _ _ _ _ inside]
    by_cases same : node = child
    · subst same
      rw [if_pos rfl] at before ⊢
      by_cases here : other = parent
      · subst here
        simp [before]
      · simp [before, here, Ne.symm here]
    · rw [if_neg same] at before ⊢
      split
      · rw [List.count_append, before]
        simp [Ne.symm same]
      · exact before
  rooted := by
    intro other root found
    rw [shadowRoot_of_bare (bare_append page parent child other)] at found
    rw [nextId_append]
    exact linked.rooted other root found

theorem create (linked : page.Linked first) (element : Element) (children : element.children = [])
    (parent : element.parent = none) (root : element.shadowRoot = none) :
    (page.create element).1.Linked first where
  named := by
    intro other node new
    have before := linked.named other node new
    rw [get_create, get_create]
    by_cases fresh : node = page.nextId
    · subst fresh
      rw [get_of_le (Nat.le_refl _)] at before
      by_cases here : other = page.nextId
      · simp [here, children, parent]
      · simp [here, parent, before, show (default : Element).parent = none from rfl]
    · rw [if_neg fresh]
      by_cases here : other = page.nextId
      · subst here
        rw [if_pos rfl, children, ← before, get_of_le (Nat.le_refl _)]
        rfl
      · rw [if_neg here, before]
  rooted := by
    intro other found named
    rw [get_create] at named
    rw [nextId_create]
    split at named
    · rw [root] at named
      cases named
    · exact Nat.lt_succ_of_lt (linked.rooted other found named)

/-- A change to an element that leaves its links alone. -/
theorem modify (linked : page.Linked first) (id : Nat) (change : Element → Element)
    (children : ∀ element, (change element).children = element.children)
    (parent : ∀ element, (change element).parent = element.parent)
    (root : ∀ element, (change element).shadowRoot = element.shadowRoot) :
    (page.modify id change).Linked first where
  named := by
    intro other node new
    rw [proj_modify Element.children change children, proj_modify Element.parent change parent]
    exact linked.named other node new
  rooted := by
    intro other found named
    rw [proj_modify Element.shadowRoot change root] at named
    rw [nextId_modify]
    exact linked.rooted other found named

theorem attachShadow (linked : page.Linked first) (host : Nat) :
    (page.attachShadow host).1.Linked first ∧
      (page.attachShadow host).2 < (page.attachShadow host).1.nextId := by
  rcases page.attachShadow_cases host with ⟨root, found, same⟩ | ⟨-, made⟩
  · rw [same]
    exact ⟨linked, linked.rooted host root found⟩
  · have created := linked.create { tag := shadowTag } rfl rfl rfl
    rw [made]
    refine ⟨⟨?_, ?_⟩, by simp⟩
    · intro other node new
      rw [proj_modify Element.children
        (fun element => { element with shadowRoot := some page.nextId }) (fun _ => rfl),
        proj_modify Element.parent
        (fun element => { element with shadowRoot := some page.nextId }) (fun _ => rfl)]
      exact created.named other node new
    · intro other root named
      rw [get_modify] at named
      rw [nextId_modify]
      split at named
      · obtain rfl := Option.some.inj named
        simp
      · exact created.rooted other root named

end Linked

end Lectern.Page
