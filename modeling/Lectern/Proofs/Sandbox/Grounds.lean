/-
Module: Lectern.Proofs.Sandbox.Grounds
Purpose: What sessions do to the page. A session hangs new elements under one place and takes just
  those down again; of the elements that were there before, the children that were there before
  and all else but the marker and the shadow root of a host stay as they are.
Trusted boundary: none
Main exports: Kept, Gathered, acquire_gathered
-/
import Mathlib.Data.List.Nodup
import Lectern.Proofs.Page.Links
import Lectern.Sandbox.Isolation

namespace Lectern.Sandbox

/-! ## What is kept -/

/-- An element as of a page with so many elements: less the children that came later. -/
def asOf (first : Nat) (element : Element) : Element :=
  { element with children := element.children.filter (· < first) }

/-- An element apart from what a mount may do to its host. -/
def unmarked (element : Element) : Element :=
  { element with
    attributes := element.attributes.filter (·.1 != markerName)
    shadowRoot := none }

/-- Nothing changes about the first elements of a page, but that hosts get markers and shadow roots,
and that later elements may come and go among their children. Of a later element, only its place and
its children change. -/
structure Kept (first : Nat) (hosts : Nat → Prop) (page after : Page) : Prop where
  grown : page.nextId ≤ after.nextId
  plain : ∀ id < first, ¬ hosts id → asOf first (after.get id) = asOf first (page.get id)
  hosted : ∀ id < first, hosts id →
    unmarked (asOf first (after.get id)) = unmarked (asOf first (page.get id))
  root : ∀ id root, hosts id → (page.get id).shadowRoot = some root →
    (after.get id).shadowRoot = some root
  made : ∀ id root, hosts id → (after.get id).shadowRoot = some root →
    (page.get id).shadowRoot = some root ∨ page.nextId ≤ root
  later : ∀ id, first ≤ id → id < page.nextId → Page.bare (after.get id) = Page.bare (page.get id)

namespace Kept

variable {first : Nat} {hosts : Nat → Prop} {page : Page}

theorem refl (page : Page) : Kept first hosts page page where
  grown := Nat.le_refl _
  plain := fun _ _ _ => rfl
  hosted := fun _ _ _ => rfl
  root := fun _ _ _ found => found
  made := fun _ _ _ found => .inl found
  later := fun _ _ _ => rfl

theorem trans {next last : Page} (left : Kept first hosts page next)
    (right : Kept first hosts next last) : Kept first hosts page last where
  grown := Nat.le_trans left.grown right.grown
  plain := fun id inside other => (right.plain id inside other).trans (left.plain id inside other)
  hosted := fun id inside host => (right.hosted id inside host).trans (left.hosted id inside host)
  root := fun id root host found => right.root id root host (left.root id root host found)
  made := by
    intro id root host found
    rcases right.made id root host found with before | new
    · exact left.made id root host before
    · exact .inr (Nat.le_trans left.grown new)
  later := fun id new inside =>
    (right.later id new (Nat.lt_of_lt_of_le inside left.grown)).trans (left.later id new inside)

/-- Other hosts are not touched either. -/
theorem mono {others : Nat → Prop} {after : Page} (kept : Kept first hosts page after)
    (more : ∀ id, hosts id → others id)
    (roots : ∀ id, others id → id < first) : Kept first others page after where
  grown := kept.grown
  plain := fun id inside other => kept.plain id inside (fun host => other (more id host))
  hosted := by
    intro id inside _
    by_cases host : hosts id
    · exact kept.hosted id inside host
    · rw [kept.plain id inside host]
  root := by
    intro id root other found
    by_cases host : hosts id
    · exact kept.root id root host found
    · have same := congrArg Element.shadowRoot (kept.plain id (roots id other) host)
      exact same.trans found
  made := by
    intro id root other found
    by_cases host : hosts id
    · exact kept.made id root host found
    · have same := congrArg Element.shadowRoot (kept.plain id (roots id other) host)
      exact .inl (same.symm.trans found)
  later := kept.later

/-- A change that keeps every first element as it was. -/
theorem of_asOf {after : Page} (grown : page.nextId ≤ after.nextId)
    (hosted : ∀ id, hosts id → id < first)
    (same : ∀ id < first, asOf first (after.get id) = asOf first (page.get id))
    (later : ∀ id < page.nextId, Page.bare (after.get id) = Page.bare (page.get id)) :
    Kept first hosts page after where
  grown := grown
  plain := fun id old _ => same id old
  hosted := fun id old _ => congrArg unmarked (same id old)
  root := by
    intro id root host found
    exact (congrArg Element.shadowRoot (same id (hosted id host))).trans found
  made := by
    intro id root host found
    exact .inl ((congrArg Element.shadowRoot (same id (hosted id host))).symm.trans found)
  later := fun id _ inside => later id inside

end Kept

private theorem asOf_eq {first : Nat} {element other : Element}
    (bare : Page.bare element = Page.bare other) (parent : element.parent = other.parent)
    (children : element.children.filter (· < first) = other.children.filter (· < first)) :
    asOf first element = asOf first other := by
  cases element
  cases other
  simp only [Page.bare, asOf, Element.mk.injEq] at *
  tauto

section Changes

variable {first : Nat} {hosts : Nat → Prop} {page : Page}

private theorem filter_erase {id : Nat} (new : first ≤ id) (children : List Nat) :
    (children.erase id).filter (· < first) = children.filter (· < first) := by
  rw [← List.erase_filter, List.erase_of_not_mem]
  intro member
  have old := List.of_mem_filter member
  simp at old
  omega

private theorem asOf_detach {id : Nat} (new : first ≤ id) {other : Nat} (old : other < first) :
    asOf first ((page.detach id).get other) = asOf first (page.get other) := by
  refine asOf_eq (Page.bare_detach page id other) ?_ ?_
  · rw [Page.parent_detach, if_neg (by omega)]
  · rw [Page.children_detach]
    split
    · exact filter_erase new _
    · rfl

theorem kept_detach (hosted : ∀ id, hosts id → id < first) {id : Nat} (new : first ≤ id) :
    Kept first hosts page (page.detach id) :=
  .of_asOf (by simp) hosted (fun _ old => asOf_detach new old)
    fun other _ => Page.bare_detach page id other

theorem kept_append (hosted : ∀ id, hosts id → id < first) {parent child : Nat}
    (new : first ≤ child) (there : child < page.nextId) (place : parent < page.nextId) :
    Kept first hosts page (page.append parent child) := by
  refine .of_asOf (by simp) hosted ?_ fun other _ => Page.bare_append page parent child other
  intro other old
  have detached : asOf first ((page.detach child).get other) = asOf first (page.get other) :=
    asOf_detach new old
  rw [← detached]
  refine asOf_eq ?_ ?_ ?_
  · rw [Page.bare_append, Page.bare_detach]
  · rw [Page.parent_append _ _ _ _ there, Page.parent_detach, if_neg (by omega),
      if_neg (by omega)]
  · rw [Page.children_append _ _ _ _ place]
    split
    · rw [List.filter_append]
      simp [new]
    · rfl

theorem kept_create (hosted : ∀ id, hosts id → id < first) (inside : first ≤ page.nextId)
    (element : Element) : Kept first hosts page (page.create element).1 := by
  refine .of_asOf (by simp) hosted ?_ ?_
  · intro other old
    rw [Page.get_create, if_neg (by omega)]
  · intro other inside
    rw [Page.get_create, if_neg (by omega)]

/-- A host may be changed in its marker and its shadow root, as long as no shadow root is taken from
it. -/
theorem kept_modify (hosted : ∀ id, hosts id → id < first) {host : Nat} (known : hosts host)
    (change : Element → Element)
    (same : ∀ element, unmarked (asOf first (change element)) = unmarked (asOf first element))
    (root : ∀ root, (page.get host).shadowRoot = some root →
      (change (page.get host)).shadowRoot = some root)
    (made : ∀ root, (change (page.get host)).shadowRoot = some root →
      (page.get host).shadowRoot = some root ∨ page.nextId ≤ root) :
    Kept first hosts page (page.modify host change) where
  grown := by simp
  plain := by
    intro id old other
    rw [Page.get_modify, if_neg]
    rintro ⟨rfl, -⟩
    exact other known
  hosted := by
    intro id old _
    exact Page.proj_modify (fun element => unmarked (asOf first element)) change same page host id
  root := by
    intro id found _ had
    rw [Page.get_modify]
    split
    · next here =>
        rw [here.1] at had
        exact root found had
    · exact had
  made := by
    intro id found _ has
    rw [Page.get_modify] at has
    split at has
    · next here =>
        rw [here.1]
        exact made found has
    · exact .inl has
  later := by
    intro id new _
    have old := hosted host known
    rw [Page.get_modify, if_neg (by omega)]

/-- Markers are no part of what is kept. -/
theorem unmarked_setAttribute (element : Element) (value : String) :
    unmarked (asOf first (element.setAttribute markerName value)) =
      unmarked (asOf first element) := by
  have kept : (element.setAttribute markerName value).attributes.filter (·.1 != markerName) =
      element.attributes.filter (·.1 != markerName) := by
    unfold Element.setAttribute
    dsimp only
    split
    · induction element.attributes with
      | nil => rfl
      | cons entry rest inductionHypothesis =>
          rw [List.map_cons, List.filter_cons, List.filter_cons, inductionHypothesis]
          by_cases marker : entry.1 = markerName
          · simp [marker]
          · simp [marker]
    · rw [List.filter_append]
      simp
  simp only [unmarked, asOf, kept]
  rfl

theorem unmarked_removeAttribute (element : Element) :
    unmarked (asOf first (element.removeAttribute markerName)) =
      unmarked (asOf first element) := by
  simp [unmarked, asOf, Element.removeAttribute]

theorem kept_attachShadow (hosted : ∀ id, hosts id → id < first) (inside : first ≤ page.nextId)
    {host : Nat} (known : hosts host) : Kept first hosts page (page.attachShadow host).1 := by
  rcases page.attachShadow_cases host with ⟨root, -, same⟩ | ⟨missing, made⟩
  · rw [same]
    exact .refl page
  · have old := hosted host known
    have created := @kept_create first hosts page hosted inside { tag := Page.shadowTag }
    have none : ((page.create { tag := Page.shadowTag }).1.get host).shadowRoot = none := by
      rw [Page.get_create, if_neg (by omega), missing]
    rw [made]
    -- Only the two changes together make a root that is new to the page.
    refine ⟨?_, ?_, ?_, ?_, ?_, ?_⟩
    · rw [Page.nextId_modify]
      exact created.grown
    · intro id inFirst other
      rw [Page.get_modify, if_neg]
      · exact created.plain id inFirst other
      · rintro ⟨rfl, -⟩
        exact other known
    · intro id inFirst host
      refine Eq.trans ?_ (created.hosted id inFirst host)
      exact Page.proj_modify (fun element => unmarked (asOf first element))
        (fun element => { element with shadowRoot := some page.nextId }) (fun _ => rfl) _ _ _
    · intro id root host found
      have before := created.root id root host found
      rw [Page.get_modify]
      split
      · next here =>
          rw [here.1, none] at before
          cases before
      · exact before
    · intro id root host found
      rw [Page.get_modify] at found
      split at found
      · exact .inr (Nat.le_of_eq (Option.some.inj found))
      · exact created.made id root host found
    · intro id new inPage
      rw [Page.get_modify, if_neg (by omega)]
      exact created.later id new inPage

end Changes

/-! ## Taking down -/

section Release

variable {first : Nat} {hosts : Nat → Prop}

theorem nextId_takenDown (nodes : List Nat) (page : Page) :
    (nodes.foldl Page.detach page).nextId = page.nextId := by
  induction nodes generalizing page with
  | nil => rfl
  | cons node rest inductionHypothesis =>
      rw [List.foldl_cons, inductionHypothesis, Page.nextId_detach]

theorem parent_takenDown (nodes : List Nat) (page : Page) (other : Nat) :
    ((nodes.foldl Page.detach page).get other).parent =
      if other ∈ nodes then none else (page.get other).parent := by
  induction nodes generalizing page with
  | nil => rfl
  | cons node rest inductionHypothesis =>
      rw [List.foldl_cons, inductionHypothesis, Page.parent_detach]
      by_cases later : other ∈ rest
      · simp [later]
      · simp [later]

theorem bare_takenDown (nodes : List Nat) (page : Page) (other : Nat) :
    Page.bare ((nodes.foldl Page.detach page).get other) = Page.bare (page.get other) := by
  induction nodes generalizing page with
  | nil => rfl
  | cons node rest inductionHypothesis =>
      rw [List.foldl_cons, inductionHypothesis, Page.bare_detach]

theorem linked_takenDown {page : Page} (linked : page.Linked first) (nodes : List Nat) :
    (nodes.foldl Page.detach page).Linked first := by
  induction nodes generalizing page with
  | nil => exact linked
  | cons node rest inductionHypothesis => exact inductionHypothesis (linked.detach node)

theorem kept_takenDown (hosted : ∀ id, hosts id → id < first) (nodes : List Nat)
    (new : ∀ node ∈ nodes, first ≤ node) (page : Page) :
    Kept first hosts page (nodes.foldl Page.detach page) := by
  induction nodes generalizing page with
  | nil => exact .refl page
  | cons node rest inductionHypothesis =>
      rw [List.forall_mem_cons] at new
      exact (kept_detach hosted new.1).trans (inductionHypothesis new.2 _)

end Release

/-! ## Hanging up -/

/-- An element that hangs nowhere and has nothing below it. -/
structure Single (element : Element) : Prop where
  children : element.children = []
  parent : element.parent = none
  shadowRoot : element.shadowRoot = none

/-- What a session under construction has brought to the page: new elements of some kind, all under
one place. -/
structure Gathered (kind : Element → Prop) (first host place : Nat) (origin : Page)
    (session : MountSession) (page : Page) : Prop where
  linked : page.Linked first
  kept : Kept first (· = host) origin page
  new : ∀ node ∈ session.nodes, origin.nextId ≤ node ∧ node < page.nextId
  distinct : session.nodes.Nodup
  hung : ∀ node, (page.get node).parent =
    if node ∈ session.nodes then some place else (origin.get node).parent
  brought : ∀ node ∈ session.nodes, kind (Page.bare (page.get node))

namespace Gathered

variable {kind : Element → Prop} {first host place : Nat} {origin page : Page} {session : MountSession}

theorem attach (gathered : Gathered kind first host place origin session page) (inside : host < first)
    (first_le : first ≤ origin.nextId) (there : place < page.nextId) (registry : Registry)
    {element : Element} (single : Single element) (fits : kind (Page.bare element)) :
    Gathered kind first host place origin (session.attach ⟨page, registry⟩ place element).1
      (session.attach ⟨page, registry⟩ place element).2.1.page := by
  have hosted : ∀ id, id = host → id < first := by
    rintro id rfl
    exact inside
  have grown := gathered.kept.grown
  have created := gathered.linked.create element single.children single.parent single.shadowRoot
  have size := Page.nextId_create page element
  have fresh : first ≤ (page.create element).2 := by
    rw [Page.create_snd]
    omega
  have inPage : (page.create element).2 < (page.create element).1.nextId := by
    rw [Page.create_snd, size]
    exact Nat.lt_succ_self _
  have placed : place < (page.create element).1.nextId := by
    omega
  have stays : Kept first (· = host) page
      ((page.create element).1.append place (page.create element).2) :=
    (kept_create hosted (by omega) element).trans (kept_append hosted fresh inPage placed)
  refine ⟨created.append placed inPage, gathered.kept.trans stays, ?_, ?_, ?_, ?_⟩
  · intro node member
    simp only [Session.attach, List.mem_append, List.mem_singleton] at member
    simp only [Session.attach, Page.nextId_append, size]
    rcases member with earlier | rfl
    · have bounds := gathered.new node earlier
      omega
    · rw [Page.create_snd]
      omega
  · simp only [Session.attach]
    rw [List.nodup_append]
    refine ⟨gathered.distinct, by simp, ?_⟩
    intro node member last here
    have bounds := gathered.new node member
    rw [List.mem_singleton, Page.create_snd] at here
    omega
  · intro node
    simp only [Session.attach, List.mem_append, List.mem_singleton]
    rw [Page.parent_append _ _ _ _ inPage, Page.get_create, Page.create_snd]
    by_cases last : node = page.nextId
    · simp [last]
    · simp [last, gathered.hung node]
  · intro node member
    simp only [Session.attach, List.mem_append, List.mem_singleton] at member ⊢
    rcases member with earlier | rfl
    · have bounds := gathered.new node earlier
      rw [stays.later node (by omega) bounds.2]
      exact gathered.brought node earlier
    · rw [Page.bare_append, Page.get_create, if_pos (Page.create_snd page element)]
      exact fits

/-- What a session brought does not depend on its handles and tasks. -/
theorem of_nodes (gathered : Gathered kind first host place origin session page)
    {other : MountSession} (same : other.nodes = session.nodes) :
    Gathered kind first host place origin other page := by
  cases gathered
  constructor <;> simp_all

theorem onDispose (gathered : Gathered kind first host place origin session page) (task : Marker) :
    Gathered kind first host place origin (session.onDispose task) page :=
  gathered.of_nodes rfl

/-- The host may be marked on the way. -/
theorem mark (gathered : Gathered kind first host place origin session page)
    (inside : host < first) (first_le : first ≤ origin.nextId) (value : String) :
    Gathered kind first host place origin session
      (page.modify host (·.setAttribute markerName value)) := by
  have hosted : ∀ id, id = host → id < first := by
    rintro id rfl
    exact inside
  have marked : Kept first (· = host) page
      (page.modify host (·.setAttribute markerName value)) :=
    kept_modify hosted rfl _ (fun element => unmarked_setAttribute element value)
      (fun _ found => found) fun _ found => .inl found
  refine ⟨gathered.linked.modify host _ (fun _ => rfl) (fun _ => rfl) (fun _ => rfl),
    gathered.kept.trans marked, by simpa using gathered.new, gathered.distinct, ?_, ?_⟩
  · intro node
    rw [Page.proj_modify Element.parent (·.setAttribute markerName value) (fun _ => rfl)]
    exact gathered.hung node
  · intro node member
    have bounds := gathered.new node member
    rw [marked.later node (by omega) bounds.2]
    exact gathered.brought node member

theorem attachAll (gathered : Gathered kind first host place origin session page)
    (inside : host < first) (first_le : first ≤ origin.nextId) (there : place < page.nextId)
    (registry : Registry) (elements : List Element)
    (single : ∀ element ∈ elements, Single element)
    (fits : ∀ element ∈ elements, kind (Page.bare element)) :
    let all := elements.foldl (fun (session, around) element =>
      let (session, around, _) := Session.attach session around place element
      (session, around)) (session, (⟨page, registry⟩ : Surroundings))
    Gathered kind first host place origin all.1 all.2.page := by
  induction elements generalizing session page registry with
  | nil => exact gathered
  | cons element rest inductionHypothesis =>
      rw [List.forall_mem_cons] at single fits
      have attached := gathered.attach inside first_le there registry single.1 fits.1
      refine inductionHypothesis attached ?_ registry single.2 fits.2
      have grown := Page.nextId_create page element
      show place < ((page.create element).1.append place (page.create element).2).nextId
      rw [Page.nextId_append]
      omega

end Gathered

/-- A session that has brought nothing. -/
theorem gathered_nothing (kind : Element → Prop) {first : Nat} {page : Page}
    (linked : page.Linked first) (host place version : Nat) : Gathered kind first host place page { version } page where
  linked := linked
  kept := .refl page
  new := by simp
  distinct := List.nodup_nil
  hung := by simp
  brought := by simp

/-- Does an element show an error in place of a lesson? -/
def isDiagnostic (element : Element) : Bool :=
  (element.attribute? "data-lf-diagnostic").isSome

/-- An element that belongs to a lesson. -/
abbrev OfLesson (element : Element) : Prop := isDiagnostic element = false

theorem shadowElements_ofLesson (styleText : String) (version : Nat) :
    ∀ element ∈ shadowElements styleText version, OfLesson (Page.bare element) := by
  simp only [shadowElements, List.forall_mem_cons]
  refine ⟨?_, ?_, ?_, ?_, by simp⟩
  all_goals simp [OfLesson, isDiagnostic, Element.attribute?, Page.bare]

theorem shadowElements_single (styleText : String) (version : Nat) :
    ∀ element ∈ shadowElements styleText version, Single element := by
  simp only [shadowElements, List.forall_mem_cons]
  exact ⟨⟨rfl, rfl, rfl⟩, ⟨rfl, rfl, rfl⟩, ⟨rfl, rfl, rfl⟩, ⟨rfl, rfl, rfl⟩, by simp⟩

section Acquiring

variable {first host : Nat} {around : Surroundings}

theorem acquireFrame_gathered (linked : around.page.Linked first) (inside : host < first)
    (first_le : first ≤ around.page.nextId) (settings : SandboxSettings) (content : LoadedModule)
    (version : Nat) :
    Gathered OfLesson first host host around.page (acquireFrame settings host content version around).1
      (acquireFrame settings host content version around).2.page := by
  have single (document : String) : Single (frameElement settings document version) :=
    ⟨rfl, rfl, rfl⟩
  have minted (handles : List String) : Gathered OfLesson first host host around.page
      { version, handles } around.page :=
    (gathered_nothing OfLesson linked host host version).of_nodes rfl
  exact (minted _).attach inside first_le (by omega) _ (single _)
    (by simp [frameElement, OfLesson, isDiagnostic, Element.attribute?, Page.bare, markerName])

/-- What a mount brings to a shadow root, once that is there. -/
theorem acquireShadow_brought (linked : around.page.Linked first) (inside : host < first)
    (first_le : first ≤ around.page.nextId) (content : LoadedModule) (version : Nat) :
    Gathered OfLesson first host (around.page.attachShadow host).2 (around.page.attachShadow host).1
      (acquireShadow host content version around).1
      (acquireShadow host content version around).2.page := by
  have hosted : ∀ id, id = host → id < first := by
    rintro id rfl
    exact inside
  obtain ⟨shadowed, there⟩ := linked.attachShadow host
  have shadow : Kept first (· = host) around.page (around.page.attachShadow host).1 :=
    kept_attachShadow hosted first_le rfl
  have first_le' := Nat.le_trans first_le shadow.grown
  let root := (around.page.attachShadow host).2
  let opening := Session.mint { version : MountSession }
    { around with page := (around.page.attachShadow host).1 } content.moduleText "text/javascript"
  have opened : Gathered OfLesson first host root (around.page.attachShadow host).1 opening.1
      (around.page.attachShadow host).1 :=
    (gathered_nothing OfLesson shadowed host root version).of_nodes rfl
  have brought := opened.attachAll inside first_le' there opening.2.1.registry
    (shadowElements content.styleText version) (shadowElements_single content.styleText version)
    (shadowElements_ofLesson content.styleText version)
  have tasked := (brought.onDispose ⟨version⟩).mark inside first_le' (toString version)
  have placed := Nat.lt_of_lt_of_le there tasked.kept.grown
  have single (text : String) :
      Single { tag := "script", attributes := [("type", "module")], text } := ⟨rfl, rfl, rfl⟩
  exact tasked.attach inside first_le' placed _ (single (bootstrapScript opening.2.2 version))
    (by simp [OfLesson, isDiagnostic, Element.attribute?, Page.bare])

theorem acquireShadow_gathered (linked : around.page.Linked first) (inside : host < first)
    (first_le : first ≤ around.page.nextId) (content : LoadedModule) (version : Nat) :
    let root := (around.page.attachShadow host).2
    let acquired := acquireShadow host content version around
    (acquired.2.page.get host).shadowRoot = some root ∧
      Gathered OfLesson first host root around.page acquired.1 acquired.2.page := by
  intro root acquired
  have hosted : ∀ id, id = host → id < first := by
    rintro id rfl
    exact inside
  have shadow : Kept first (· = host) around.page (around.page.attachShadow host).1 :=
    kept_attachShadow hosted first_le rfl
  have gathered : Gathered OfLesson first host root (around.page.attachShadow host).1 acquired.1
      acquired.2.page :=
    acquireShadow_brought linked inside first_le content version
  refine ⟨?_, ?_⟩
  · exact gathered.kept.root host root rfl
      (Page.shadowRoot_attachShadow (Nat.lt_of_lt_of_le inside first_le))
  · exact {
      linked := gathered.linked
      kept := shadow.trans gathered.kept
      new := by
        intro node member
        have bounds := gathered.new node member
        have grown := shadow.grown
        omega
      distinct := gathered.distinct
      hung := by
        intro node
        rw [gathered.hung node, Page.parent_attachShadow]
      brought := gathered.brought }

/-- What a session that is acquired brings hangs under the host or under its shadow root. -/
theorem acquire_gathered (linked : around.page.Linked first) (inside : host < first)
    (first_le : first ≤ around.page.nextId) (settings : SandboxSettings) (content : LoadedModule)
    (version : Nat) :
    let acquired := acquire settings host content version around
    ∃ place, (place = host ∨ (acquired.2.page.get host).shadowRoot = some place) ∧
      Gathered OfLesson first host place around.page acquired.1 acquired.2.page := by
  unfold acquire
  cases settings.isolation with
  | frame =>
      exact ⟨host, .inl rfl,
        acquireFrame_gathered linked inside first_le settings content version⟩
  | shadow =>
      obtain ⟨root, gathered⟩ := acquireShadow_gathered linked inside first_le content version
      exact ⟨_, .inr root, gathered⟩

end Acquiring

end Lectern.Sandbox
