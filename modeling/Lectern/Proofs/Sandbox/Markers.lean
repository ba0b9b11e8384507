/-
Module: Lectern.Proofs.Sandbox.Markers
Purpose: What lessons in a shadow root look like. Their elements keep their order as long as they are
  hung up. Marks are set in the order of the mounts and taken back in whatever order these are let go,
  and at each moment the marker of the host names the newest mount that stands.
Trusted boundary: none
Main exports: lessonElements, Scene.Posted, Scene.Labelled, Scene.step_labelled, Scene.labelled_run,
  Executor.Stands, Scene.marker_names_newest
-/
import Lectern.Proofs.Page.Order
import Lectern.Proofs.Sandbox.Newest

namespace Lectern.Sandbox

/-! ## What a mount hangs up -/

/-- The attribute that names the mount which an element of a shadow root belongs to. -/
def versionName : String := "data-lf-version"

/-- The script of a mount. -/
def bootstrapElement (handle : String) (version : Nat) : Element where
  tag := "script"
  attributes := [("type", "module")]
  text := bootstrapScript handle version

/-- The elements of a mount in a shadow root, in their order. -/
def lessonElements (styleText handle : String) (version : Nat) : List Element :=
  shadowElements styleText version ++ [bootstrapElement handle version]

/-- Some elements were hung up at a place for a session, in this order. -/
structure Filled (place : Nat) (session : MountSession) (page : Page) (elements : List Element) :
    Prop where
  contents : session.nodes.map (fun node => Page.bare (page.get node)) = elements
  row : session.nodes.Sublist (page.get place).children
  within : ∀ node ∈ session.nodes, node < page.nextId

theorem Single.bare {element : Element} (single : Single element) : Page.bare element = element := by
  obtain ⟨children, parent, -⟩ := single
  cases element
  simp_all [Page.bare]

namespace Filled

variable {place : Nat} {session : MountSession} {page : Page} {elements : List Element}

theorem nothing (place version : Nat) (page : Page) : Filled place { version } page [] where
  contents := rfl
  row := List.nil_sublist _
  within := by simp

/-- What is hung up does not depend on the handles and tasks of the session. -/
theorem of_nodes (filled : Filled place session page elements) {other : MountSession}
    (same : other.nodes = session.nodes) : Filled place other page elements := by
  cases filled
  constructor <;> simp_all

theorem attach (filled : Filled place session page elements) (there : place < page.nextId)
    (registry : Registry) {element : Element} (single : Single element) :
    Filled place (session.attach ⟨page, registry⟩ place element).1
      (session.attach ⟨page, registry⟩ place element).2.1.page (elements ++ [element]) where
  contents := by
    simp only [Session.attach, List.map_append, List.map_singleton, Page.bare_append,
      Page.get_create, Page.create_snd, if_true, single.bare, ← filled.contents]
    congr 1
    apply List.map_congr_left
    intro node member
    rw [if_neg (Nat.ne_of_lt (filled.within node member))]
  row := by
    simp only [Session.attach, Page.create_snd]
    rw [Page.children_hungUp single.children single.parent there, if_pos rfl]
    exact filled.row.append (List.Sublist.refl _)
  within := by
    intro node member
    simp only [Session.attach, List.mem_append, List.mem_singleton, Page.create_snd] at member
    simp only [Session.attach, Page.nextId_append, Page.nextId_create]
    rcases member with earlier | rfl
    · exact Nat.lt_succ_of_lt (filled.within node earlier)
    · exact Nat.lt_succ_self _

/-- All of some elements are hung up, one after the other. -/
theorem attachAll (filled : Filled place session page elements) (there : place < page.nextId)
    (registry : Registry) (more : List Element) (single : ∀ element ∈ more, Single element) :
    let all := more.foldl (fun (session, around) element =>
      let (session, around, _) := Session.attach session around place element
      (session, around)) (session, (⟨page, registry⟩ : Surroundings))
    Filled place all.1 all.2.page (elements ++ more) ∧
      Page.Moves (fun _ => False) page all.2.page := by
  induction more generalizing session page registry elements with
  | nil => exact ⟨by simpa using filled, .refl page⟩
  | cons element rest inductionHypothesis =>
      rw [List.forall_mem_cons] at single
      have attached := filled.attach there registry single.1
      have moved : Page.Moves (fun _ => False) page
          (session.attach ⟨page, registry⟩ place element).2.1.page :=
        .hungUp single.1.children single.1.parent there
      have later := inductionHypothesis attached (Nat.lt_of_lt_of_le there moved.grown) registry
        single.2
      rw [List.append_assoc] at later
      exact ⟨later.1, moved.trans later.2⟩

/-- The host may be marked on the way. -/
theorem mark (filled : Filled place session page elements) {host : Nat}
    (other : host ∉ session.nodes) (value : String) :
    Filled place session (page.modify host (·.setAttribute markerName value)) elements where
  contents := by
    rw [← filled.contents]
    apply List.map_congr_left
    intro node member
    rw [Page.get_modify, if_neg]
    rintro ⟨rfl, -⟩
    exact other member
  row := by
    rw [Page.proj_modify Element.children (·.setAttribute markerName value) fun _ => rfl]
    exact filled.row
  within := by simpa using filled.within

/-- The host is marked, and then the last element is hung up. -/
theorem finish {all : MountSession × Surroundings}
    (filled : Filled place all.1 all.2.page elements) {host : Nat} (other : host ∉ all.1.nodes)
    (inside : host < all.2.page.nextId) (there : place < all.2.page.nextId) (version : Nat)
    {element : Element} (single : Single element) :
    let marked := all.2.page.modify host (·.setAttribute markerName (toString version))
    let last := Session.attach (all.1.onDispose ⟨version⟩) { all.2 with page := marked } place element
    Filled place last.1 last.2.1.page (elements ++ [element]) ∧
      (last.2.1.page.get host).attribute? markerName = some (toString version) ∧
      Page.Moves (fun _ => False) all.2.page last.2.1.page := by
  intro marked last
  have labelled : Page.Moves (fun _ => False) all.2.page marked := .modify host _ fun _ => rfl
  have placed : place < marked.nextId := Nat.lt_of_lt_of_le there labelled.grown
  have tasked : Filled place (all.1.onDispose ⟨version⟩) marked elements :=
    (filled.mark other (toString version)).of_nodes rfl
  refine ⟨tasked.attach placed _ single, ?_,
    labelled.trans (.hungUp single.children single.parent placed)⟩
  have bare : Page.bare (last.2.1.page.get host) = Page.bare (marked.get host) :=
    Page.bare_hungUp marked element place (Nat.lt_of_lt_of_le inside labelled.grown)
  rw [Page.attribute?_of_bare bare, Page.get_modify, if_pos ⟨rfl, inside⟩,
    Element.attribute?_setAttribute, if_pos rfl]

end Filled

section Acquiring

variable {first host : Nat} {around : Surroundings}

/-- A mount in a shadow root hangs up its elements in their order, marks the host with its version, and
leaves what was there where it was. -/
theorem acquireShadow_filled (linked : around.page.Linked first) (inside : host < first)
    (first_le : first ≤ around.page.nextId) (content : LoadedModule) (version : Nat) :
    let root := (around.page.attachShadow host).2
    let acquired := acquireShadow host content version around
    acquired.1.afterwards = [⟨version⟩] ∧
      (∃ handle ∈ acquired.1.handles, Filled root acquired.1 acquired.2.page
        (lessonElements content.styleText handle version)) ∧
      (acquired.2.page.get host).attribute? markerName = some (toString version) ∧
      Page.Moves (fun _ => False) around.page acquired.2.page := by
  intro root acquired
  have there := (linked.attachShadow host).2
  have shadow : Page.Moves (fun _ => False) around.page (around.page.attachShadow host).1 :=
    .attachShadow host
  let opening := Session.mint { version : MountSession }
    { around with page := (around.page.attachShadow host).1 } content.moduleText "text/javascript"
  have opened : Filled root opening.1 (around.page.attachShadow host).1 [] :=
    (Filled.nothing root version _).of_nodes rfl
  obtain ⟨filled, hung⟩ := opened.attachAll there opening.2.1.registry
    (shadowElements content.styleText version) (shadowElements_single content.styleText version)
  have moved := shadow.trans hung
  have brought := acquireShadow_brought linked inside first_le content version
  have last := filled.finish (fun member => ?_)
    (Nat.lt_of_lt_of_le (Nat.lt_of_lt_of_le inside first_le) moved.grown)
    (Nat.lt_of_lt_of_le there hung.grown) version
    (⟨rfl, rfl, rfl⟩ : Single (bootstrapElement opening.2.2 version))
  · exact ⟨rfl, ⟨opening.2.2, List.mem_singleton_self _, last.1⟩, last.2.1, moved.trans last.2.2⟩
  · have bounds := brought.new host (List.mem_append_left _ member)
    have grown := shadow.grown
    omega

/-- A shadow root that is made for a mount has a tag, and nothing else of its own. -/
theorem acquireShadow_root (linked : around.page.Linked first) (inside : host < first)
    (first_le : first ≤ around.page.nextId) (content : LoadedModule) (version : Nat)
    (missing : (around.page.get host).shadowRoot = none) :
    Page.bare ((acquireShadow host content version around).2.page.get
      (around.page.attachShadow host).2) = { tag := Page.shadowTag } := by
  have later := (acquireShadow_brought linked inside first_le content version).kept.later
  rcases around.page.attachShadow_cases host with ⟨root, found, -⟩ | ⟨-, made⟩
  · rw [missing] at found
    cases found
  · rw [made] at later ⊢
    rw [later _ first_le (by simp), Page.get_modify, if_neg (by omega), Page.get_create, if_pos rfl]
    rfl

end Acquiring

namespace Scene

/-! ## Lessons as they stand -/

/-- What a mount hung into the shadow root of its host has the contents that it was given, and stands
there in its order until it is let go. -/
structure Posted (scene : Scene) (session : MountSession) : Prop where
  tasks : session.afterwards = [⟨session.version⟩]
  lesson : ∃ styleText, ∃ handle ∈ session.handles,
    session.nodes.map (fun node => Page.bare (scene.around.page.get node)) =
      lessonElements styleText handle session.version
  row : session.disposed = false → ∃ root,
    (scene.around.page.get scene.executor.host).shadowRoot = some root ∧
      session.nodes.Sublist (scene.around.page.get root).children

/-- The host of an executor is marked with its newest live mount, and all that hangs in its shadow root
is what the executor hung there. -/
structure Labelled (first : Nat) (scene : Scene) : Prop where
  isolation : scene.executor.settings.isolation = .shadow
  marked : ∀ version, version ∈ scene.executor.marked ↔ version ∈ scene.executor.kept
  marker : (scene.around.page.get scene.executor.host).attribute? markerName =
    scene.executor.marked.max?.map toString
  posted : ∀ session ∈ scene.executor.sessions, scene.Posted session
  errors : ∀ node, scene.executor.diagnostic = some node → ∃ message,
    Page.bare (scene.around.page.get node) = diagnosticElement message
  root : ∀ root, (scene.around.page.get scene.executor.host).shadowRoot = some root →
    first ≤ root → Page.bare (scene.around.page.get root) = { tag := Page.shadowTag }

variable {first : Nat} {scene after : Scene} {gone : Nat → Prop}

/-- What was posted still is, if what belongs to it stays as it was and where it was. -/
theorem Posted.carried {session : MountSession} (posted : scene.Posted session)
    (host : after.executor.host = scene.executor.host)
    (contents : ∀ node ∈ session.nodes,
      Page.bare (after.around.page.get node) = Page.bare (scene.around.page.get node))
    (moves : Page.Moves gone scene.around.page after.around.page)
    (roots : ∀ root, (scene.around.page.get scene.executor.host).shadowRoot = some root →
      (after.around.page.get scene.executor.host).shadowRoot = some root)
    (disposed : Bool)
    (stays : disposed = false → session.disposed = false ∧ ∀ node ∈ session.nodes, ¬ gone node) :
    after.Posted { session with disposed } where
  tasks := posted.tasks
  lesson := by
    obtain ⟨styleText, handle, own, same⟩ := posted.lesson
    refine ⟨styleText, handle, own, Eq.trans ?_ same⟩
    exact List.map_congr_left contents
  row := by
    intro alive
    obtain ⟨before, left⟩ := stays alive
    obtain ⟨root, found, row⟩ := posted.row before
    refine ⟨root, ?_, moves.rows root _ row left⟩
    rw [host]
    exact roots root found

/-- An executor is labelled behind a change that leaves alone what it has hung up. -/
theorem Labelled.carried (labelled : scene.Labelled first) (neat : scene.Neat first)
    (host : after.executor.host = scene.executor.host)
    (settings : after.executor.settings = scene.executor.settings)
    (later : ∀ id, first ≤ id → id < scene.around.page.nextId →
      Page.bare (after.around.page.get id) = Page.bare (scene.around.page.get id))
    (moves : Page.Moves gone scene.around.page after.around.page)
    (roots : ∀ root, (scene.around.page.get scene.executor.host).shadowRoot = some root →
      (after.around.page.get scene.executor.host).shadowRoot = some root)
    (made : ∀ root, (after.around.page.get scene.executor.host).shadowRoot = some root →
      (scene.around.page.get scene.executor.host).shadowRoot = some root ∨
        Page.bare (after.around.page.get root) = { tag := Page.shadowTag })
    (sessions : ∀ session ∈ after.executor.sessions, after.Posted session ∨
      ∃ before ∈ scene.executor.sessions, ∃ disposed, session = { before with disposed } ∧
        (disposed = false → before.disposed = false ∧ ∀ node ∈ before.nodes, ¬ gone node))
    (errors : ∀ node, after.executor.diagnostic = some node →
      scene.executor.diagnostic = some node ∨ ∃ message,
        Page.bare (after.around.page.get node) = diagnosticElement message)
    (marked : ∀ version, version ∈ after.executor.marked ↔ version ∈ after.executor.kept)
    (marker : (after.around.page.get scene.executor.host).attribute? markerName =
      after.executor.marked.max?.map toString) :
    after.Labelled first where
  isolation := by rw [settings, labelled.isolation]
  marked := marked
  marker := by rw [host, marker]
  posted := by
    intro session member
    rcases sessions session member with posted | ⟨before, inside, disposed, rfl, stays⟩
    · exact posted
    · refine (labelled.posted before inside).carried host ?_ moves roots disposed stays
      intro node own
      have bounds := neat.within node (Executor.mem_nodes.mpr (.inr ⟨before, inside, own⟩))
      exact later node bounds.1 bounds.2
  errors := by
    intro node shown
    rcases errors node shown with before | new
    · obtain ⟨message, same⟩ := labelled.errors node before
      have bounds := neat.within node (Executor.mem_nodes.mpr (.inl before))
      exact ⟨message, (later node bounds.1 bounds.2).trans same⟩
    · exact new
  root := by
    intro root found new
    rw [host] at found
    rcases made root found with before | fresh
    · rw [later root new (neat.linked.rooted _ root before)]
      exact labelled.root root before new
    · exact fresh

/-! ## Labels behind each chore -/

/-- Behind a change of an executor it is labelled, and of what others hung up all keeps its order. -/
def Labelling (first : Nat) (scene after : Scene) : Prop :=
  scene.Neat first → scene.Labelled first →
    after.Labelled first ∧
      Page.Moves (· ∈ scene.executor.nodes) scene.around.page after.around.page

/-- A session that is held as before. -/
private theorem carried_session {session : MountSession}
    (member : session ∈ scene.executor.sessions)
    (stays : session.disposed = false → ∀ node ∈ session.nodes, ¬ gone node) :
    ∃ before ∈ scene.executor.sessions, ∃ disposed, session = { before with disposed } ∧
      (disposed = false → before.disposed = false ∧ ∀ node ∈ before.nodes, ¬ gone node) :=
  ⟨session, member, session.disposed, rfl, fun alive => ⟨alive, stays alive⟩⟩

private theorem labelling_books {executor : Executor}
    (host : executor.host = scene.executor.host)
    (settings : executor.settings = scene.executor.settings)
    (marked : executor.marked = scene.executor.marked)
    (sessions : executor.sessions = scene.executor.sessions)
    (diagnostic : executor.diagnostic = scene.executor.diagnostic) :
    Labelling first scene { scene with executor } := by
  intro neat labelled
  have kept : executor.kept = scene.executor.kept := by
    simp only [Executor.kept, sessions]
  refine ⟨?_, .refl _⟩
  refine labelled.carried neat host settings (fun _ _ _ => rfl)
    (.refl _ : Page.Moves (fun _ => False) _ _) (fun _ found => found) (fun _ found => .inl found)
    ?_ ?_ ?_ ?_
  · intro session member
    exact .inr (carried_session (sessions ▸ member) fun _ _ _ never => never)
  · intro node shown
    exact .inl (diagnostic ▸ shown)
  · rw [marked, kept]
    exact labelled.marked
  · rw [marked]
    exact labelled.marker

private theorem labelling_clear (scene : Scene) : Labelling first scene scene.clearDiagnostic := by
  intro neat labelled
  cases shown : scene.executor.diagnostic with
  | none =>
      rw [clearDiagnostic_of_none shown]
      exact ⟨labelled, .refl _⟩
  | some node =>
      have minds := ((Chore.clear scene).upkeep neat).2
      have moves : Page.Moves (· = node) scene.around.page (scene.around.page.detach node) :=
        .detach node
      have cleared : scene.clearDiagnostic =
          { scene with executor := { scene.executor with diagnostic := none } }.modifyPage
            (·.detach node) := by
        unfold clearDiagnostic
        rw [shown]
      rw [cleared] at minds ⊢
      have bare := Page.bare_detach scene.around.page node
      refine ⟨?_, moves.mono ?_⟩
      · refine labelled.carried neat rfl rfl minds.kept.later moves (minds.kept.root _ · rfl ·) ?_ ?_
          (fun _ none => by cases none) labelled.marked ?_
        · intro root found
          exact .inl ((Page.shadowRoot_of_bare (bare scene.executor.host)).symm.trans found)
        · intro session member
          refine .inr (carried_session member ?_)
          rintro _ other own rfl
          exact neat.error_apart shown member own
        · exact (Page.attribute?_of_bare (bare scene.executor.host) markerName).trans labelled.marker
      · rintro _ rfl
        exact Executor.mem_nodes.mpr (.inl shown)

private theorem labelling_display (scene : Scene) (message : String)
    (clear : scene.executor.diagnostic = none) :
    Labelling first scene (scene.showDiagnostic message) := by
  intro neat labelled
  have minds := ((Chore.display scene message clear).upkeep neat).2
  obtain ⟨place, target⟩ : ∃ place, place =
      ((scene.around.page.get scene.executor.host).shadowRoot).getD scene.executor.host := ⟨_, rfl⟩
  have displayed : scene.showDiagnostic message = {
      executor := { scene.executor with diagnostic := some scene.around.page.nextId }
      around := { scene.around with
        page := (scene.around.page.create (diagnosticElement message)).1.append place
          scene.around.page.nextId } } := by
    unfold showDiagnostic
    rw [clearDiagnostic_of_none clear, target]
    rfl
  rw [displayed] at minds ⊢
  have there : place < scene.around.page.nextId := by
    rw [target]
    cases found : (scene.around.page.get scene.executor.host).shadowRoot with
    | none => exact Nat.lt_of_lt_of_le neat.host neat.first_le
    | some root => exact neat.linked.rooted _ root found
  have single : Single (diagnosticElement message) := ⟨rfl, rfl, rfl⟩
  have moves : Page.Moves (fun _ => False) scene.around.page
      ((scene.around.page.create (diagnosticElement message)).1.append place
        scene.around.page.nextId) := .hungUp single.children single.parent there
  have bare := Page.bare_hungUp scene.around.page (diagnosticElement message) place
    (Nat.lt_of_lt_of_le neat.host neat.first_le)
  refine ⟨?_, moves.mono fun _ never => never.elim⟩
  refine labelled.carried neat rfl rfl minds.kept.later moves (minds.kept.root _ · rfl ·) ?_ ?_ ?_
    labelled.marked ?_
  · intro root found
    exact .inl ((Page.shadowRoot_of_bare bare).symm.trans found)
  · intro session member
    exact .inr (carried_session member fun _ _ _ never => never)
  · intro node shown
    obtain rfl := Option.some.inj shown
    refine .inr ⟨message, (Page.bare_append _ _ _ _).trans ?_⟩
    rw [Page.get_create, if_pos rfl]
    exact single.bare
  · exact (Page.attribute?_of_bare bare markerName).trans labelled.marker

/-- A session that is let go either was so before, or is released and takes its marker back. -/
private theorem dispose_cases (neat : scene.Neat first) (labelled : scene.Labelled first)
    (version : Nat) :
    scene.dispose version = scene ∨ ∃ session ∈ scene.executor.sessions,
      session.version = version ∧ session.disposed = false ∧
        scene.dispose version =
          unmark { executor := scene.executor.putSession { session with disposed := true }
                   around := session.release scene.around } version := by
  unfold dispose
  cases found : scene.executor.session? version with
  | none => exact .inl rfl
  | some session =>
      obtain ⟨member, rfl⟩ := Executor.session?_mem found
      cases gone : session.disposed with
      | true =>
          left
          simp only [Session.dispose, gone, if_true, List.foldl_nil]
          rw [Executor.putSession_self neat.versions member]
      | false =>
          right
          refine ⟨session, member, rfl, gone, ?_⟩
          simp only [Session.dispose, gone, Bool.false_eq_true, if_false,
            (labelled.posted session member).tasks, List.foldl_cons, List.foldl_nil]

/-- The marker of a host that is unmarked names the newest of the versions that are left. -/
private theorem marker_unmark (scene : Scene) (version : Nat)
    (inside : scene.executor.host < scene.around.page.nextId) :
    ((scene.unmark version).around.page.get scene.executor.host).attribute? markerName =
      (scene.executor.marked.filter (· != version)).max?.map toString := by
  unfold unmark modifyPage
  dsimp only
  rw [Page.get_modify, if_pos ⟨rfl, inside⟩]
  cases (scene.executor.marked.filter (· != version)).max? with
  | none => exact Element.attribute?_removeAttribute _ _
  | some newest => rw [Element.attribute?_setAttribute, if_pos rfl]; rfl

private theorem labelling_dispose (scene : Scene) (version : Nat) :
    Labelling first scene (scene.dispose version) := by
  intro neat labelled
  rcases dispose_cases neat labelled version with same | ⟨session, member, known, alive, same⟩
  · rw [same]
    exact ⟨labelled, .refl _⟩
  · have minds := ((Chore.dispose scene version).upkeep neat).2
    have executor := dispose_executor scene version
    rw [same] at minds executor ⊢
    generalize released : Scene.mk (scene.executor.putSession { session with disposed := true })
      (session.release scene.around) = next at minds executor ⊢
    obtain ⟨change, written, writes⟩ := next.unmark_writes version
    have links (element : Element) : (change element).children = element.children ∧
        (change element).shadowRoot = element.shadowRoot := by
      rcases writes with ⟨value, rfl⟩ | rfl <;> exact ⟨rfl, rfl⟩
    have inside : next.executor.host < next.around.page.nextId := by
      rw [← released]
      exact Nat.lt_of_lt_of_le (Nat.lt_of_lt_of_le neat.host neat.first_le)
        (Nat.le_of_eq (nextId_takenDown _ _).symm)
    have marker := next.marker_unmark version inside
    rw [written] at minds executor marker ⊢
    have moves : Page.Moves (· ∈ session.nodes.reverse) scene.around.page
        (next.around.page.modify next.executor.host change) := by
      rw [← released]
      exact .trans (.takenDown _) (.modify _ _ (links · |>.1))
    refine ⟨?_, moves.mono ?_⟩
    · refine labelled.carried neat minds.host ?_ minds.kept.later moves (minds.kept.root _ · rfl ·)
        ?_ ?_ ?_ ?_ ?_
      · rw [← released]
        rfl
      · intro root found
        rw [Page.proj_modify Element.shadowRoot change (links · |>.2), ← released] at found
        exact .inl ((Page.shadowRoot_of_bare (bare_takenDown _ _ _)).symm.trans found)
      · intro other inside
        rw [← released] at inside
        obtain ⟨before, there, rfl⟩ := List.mem_map.mp inside
        split
        · exact .inr ⟨session, member, true, rfl, fun never => by cases never⟩
        · next apart =>
            refine .inr (carried_session there ?_)
            intro _ node own shared
            have one := neat.session_of_node there member own (List.mem_reverse.mp shared)
            rw [one, known] at apart
            simp at apart
      · intro node shown
        rw [← released] at shown
        exact .inl shown
      · intro other
        rw [executor, Executor.mem_kept_letGo, ← labelled.marked, ← executor, ← released]
        simp only [Executor.putSession, List.mem_filter, bne_iff_ne]
      · rw [← released] at marker ⊢
        exact marker
    · intro node own
      exact Executor.mem_nodes.mpr (.inr ⟨session, member, List.mem_reverse.mp own⟩)

private theorem labelling_hang (scene : Scene) (content : LoadedModule) (version : Nat)
    (newest : ∀ earlier ∈ scene.executor.made, earlier < version) :
    Labelling first scene (scene.hang content version) := by
  intro neat labelled
  have minds := ((Chore.hang scene content version newest).upkeep neat).2
  have ⟨tasks, ⟨handle, own, filled⟩, marker, moves⟩ :=
    acquireShadow_filled neat.linked neat.host neat.first_le content version
  have rooted :=
    (acquireShadow_gathered neat.linked neat.host neat.first_le content version).1
  have made := acquireShadow_root neat.linked neat.host neat.first_le content version
  have ⟨known, alive⟩ :=
    acquire_own scene.executor.settings scene.executor.host content version scene.around
  unfold hang at minds ⊢
  have shadow : acquire scene.executor.settings scene.executor.host content version scene.around =
      acquireShadow scene.executor.host content version scene.around := by
    unfold acquire
    rw [labelled.isolation]
  rw [shadow] at minds known alive ⊢
  generalize acquireShadow scene.executor.host content version scene.around = acquired at *
  obtain ⟨session, around⟩ := acquired
  dsimp only at *
  have marks : scene.executor.marked ++ session.afterwards.map (·.version) =
      scene.executor.marked ++ [version] := by
    rw [tasks]
    rfl
  rw [marks] at minds ⊢
  refine ⟨?_, moves.mono fun _ never => never.elim⟩
  refine labelled.carried neat rfl rfl minds.kept.later moves (minds.kept.root _ · rfl ·) ?_ ?_
    (fun _ shown => .inl shown) ?_ ?_
  · intro other found
    dsimp only at found
    rw [rooted] at found
    obtain rfl := Option.some.inj found
    rcases scene.around.page.attachShadow_cases scene.executor.host with
      ⟨old, before, same⟩ | ⟨missing, -⟩
    · rw [same]
      exact .inl before
    · exact .inr (made missing)
  · intro other inside
    rcases List.mem_append.mp inside with before | last
    · exact .inr (carried_session before fun _ _ _ never => never)
    · obtain rfl := List.mem_singleton.mp last
      refine .inl ⟨by rw [tasks, known], ⟨content.styleText, handle, own, ?_⟩, fun _ => ?_⟩
      · rw [known]
        exact filled.contents
      · exact ⟨_, rooted, filled.row⟩
  · intro other
    rw [Executor.mem_kept_takeIn _ _ _ _ alive, ← labelled.marked, known]
    simp [Executor.takeIn]
  · have last : (scene.executor.marked ++ [version]).max? = some version := by
      rw [List.max?_eq_some_iff]
      refine ⟨List.mem_append_right _ (List.mem_singleton_self version), ?_⟩
      intro other inside
      rcases List.mem_append.mp inside with before | same
      · exact Nat.le_of_lt
          (newest other (Executor.made_of_kept ((labelled.marked other).mp before)))
      · exact Nat.le_of_eq (List.mem_singleton.mp same)
    refine marker.trans ?_
    show _ = (scene.executor.marked ++ [version]).max?.map toString
    rw [last]
    rfl

/-- Each chore keeps the labels. -/
theorem Chore.labelling (chore : Chore scene after) : Labelling first scene after := by
  cases chore with
  | books host settings marked sessions diagnostic =>
      exact labelling_books host settings marked sessions diagnostic
  | hang content version newest => exact labelling_hang scene content version newest
  | dispose version => exact labelling_dispose scene version
  | clear => exact labelling_clear scene
  | display message clear => exact labelling_display scene message clear

/-- What changes one after the other do to the labels. What is new to the page counts as an executor's
own here, as another change may take it down again. -/
private def Relabelling (first : Nat) (scene after : Scene) : Prop :=
  Upkeep first scene after ∧ (scene.Neat first → scene.Labelled first →
    after.Labelled first ∧
      Page.Moves (fun node => node ∈ scene.executor.nodes ∨ scene.around.page.nextId ≤ node)
        scene.around.page after.around.page)

private theorem relabelling_refl (scene : Scene) : Relabelling first scene scene :=
  ⟨.refl scene, fun _ labelled => ⟨labelled, .refl _⟩⟩

private theorem relabelling_trans {next last : Scene} (left : Relabelling first scene next)
    (right : Relabelling first next last) : Relabelling first scene last := by
  refine ⟨left.1.trans right.1, ?_⟩
  intro neat labelled
  obtain ⟨between, minds⟩ := left.1 neat
  obtain ⟨still, moves⟩ := left.2 neat labelled
  obtain ⟨final, further⟩ := right.2 between still
  refine ⟨final, moves.trans (further.mono ?_)⟩
  rintro node (own | new)
  · exact minds.own node own
  · exact .inr (Nat.le_trans moves.grown new)

/-- Each event keeps the labels, and of what others hung up all keeps its order. -/
theorem step_labelled (custody : scene.executor.Custody) (event : Event) (neat : scene.Neat first)
    (labelled : scene.Labelled first) :
    (scene.step event).Labelled first ∧
      Page.Moves (fun node => node ∈ scene.executor.nodes ∨ scene.around.page.nextId ≤ node)
        scene.around.page (scene.step event).around.page := by
  have relabelling : Relabelling first scene (scene.step event) := by
    refine (step_chores custody event).induct relabelling_refl relabelling_trans ?_
    intro before after chore
    refine ⟨chore.upkeep, fun neat labelled => ?_⟩
    obtain ⟨still, moves⟩ := chore.labelling neat labelled
    exact ⟨still, moves.mono fun node own => .inl own⟩
  exact relabelling.2 neat labelled

/-- An executor that has done nothing is labelled on a host that is not marked. -/
theorem labelled_fresh {page : Page} (linked : page.Linked page.nextId) {host : Nat}
    {settings : SandboxSettings} (isolation : settings.isolation = .shadow)
    (unmarked : (page.get host).attribute? markerName = none) (registry : Registry) :
    Labelled page.nextId { executor := { host, settings }, around := { page, registry } } where
  isolation := isolation
  marked := by simp [Executor.kept]
  marker := unmarked
  posted := by simp
  errors := by simp
  root := by
    intro root found beyond
    exact absurd (linked.rooted host root found) (Nat.not_lt_of_le beyond)

/-- A history keeps the labels. -/
theorem labelled_run (custody : scene.executor.Custody) (neat : scene.Neat first)
    (labelled : scene.Labelled first) (events : List Event) :
    (scene.run events).Labelled first := by
  induction events generalizing scene with
  | nil => exact labelled
  | cons event rest inductionHypothesis =>
      have moved := (scene.step_move event).custody custody
      have kept := (step_upkeep custody event neat).1
      have still := (step_labelled custody event neat labelled).1
      exact inductionHypothesis moved kept still

end Scene

/-! ## What the marker of a host says -/

/-- Did the mount with a version mark the host, and was not let go since? -/
def Executor.Stands (executor : Executor) (version : Nat) : Prop :=
  ∃ session ∈ executor.sessions, session.version = version ∧ ⟨version⟩ ∈ session.afterwards ∧
    session.disposed = false

namespace Scene

variable {first : Nat} {scene : Scene}

/-- In a shadow root every mount marks the host. -/
theorem Labelled.marks (labelled : scene.Labelled first) {session : MountSession}
    (member : session ∈ scene.executor.sessions) : ⟨session.version⟩ ∈ session.afterwards := by
  rw [(labelled.posted session member).tasks]
  exact List.mem_singleton_self _

/-- So the mounts that stand are those that were not let go. -/
theorem Labelled.stands_iff (labelled : scene.Labelled first) (version : Nat) :
    scene.executor.Stands version ↔ version ∈ scene.executor.marked := by
  rw [labelled.marked, Executor.mem_kept]
  constructor
  · rintro ⟨session, member, same, -, alive⟩
    exact ⟨session, member, alive, same⟩
  · rintro ⟨session, member, alive, rfl⟩
    exact ⟨session, member, rfl, labelled.marks member, alive⟩

/-- The newest mark is that of the newest mount that stands. -/
theorem Labelled.max?_marked_eq_some_iff (labelled : scene.Labelled first) (version : Nat) :
    scene.executor.marked.max? = some version ↔
      scene.executor.Stands version ∧
        ∀ other, scene.executor.Stands other → other ≤ version := by
  simp only [List.max?_eq_some_iff, labelled.stands_iff]

/-- Whatever mounts, failures, unmounts and teardowns follow each other, every mount that comes to a
shadow root marks the host. The marker is the version of the newest mount that stands, and there is none
exactly if no mount stands. -/
theorem marker_names_newest {page : Page} (closed : page.Closed) {host : Nat}
    (inside : host < page.nextId) (unmarked : (page.get host).attribute? markerName = none)
    (settings : SandboxSettings) (isolation : settings.isolation = .shadow) (registry : Registry)
    (events : List Event) :
    let scene := run { executor := { host, settings }, around := { page, registry } } events
    (∀ session ∈ scene.executor.sessions, ⟨session.version⟩ ∈ session.afterwards) ∧
    (∀ text, (scene.around.page.get host).attribute? markerName = some text ↔
      ∃ version, text = toString version ∧ scene.executor.Stands version ∧
        ∀ other, scene.executor.Stands other → other ≤ version) ∧
    ((scene.around.page.get host).attribute? markerName = none ↔
      ∀ version, ¬ scene.executor.Stands version) := by
  intro scene
  have custody := Executor.custody_fresh host settings
  have neat := neat_fresh closed inside settings registry
  have fresh := labelled_fresh closed.linked isolation unmarked registry
  have labelled : scene.Labelled page.nextId := labelled_run custody neat fresh events
  have same : scene.executor.host = host := (upkeep_run custody events neat).2.host
  have marker := labelled.marker
  rw [same] at marker
  rw [marker]
  refine ⟨fun session member => labelled.marks member, ?_, ?_⟩
  · intro text
    rw [Option.map_eq_some_iff]
    constructor
    · rintro ⟨version, newest, rfl⟩
      exact ⟨version, rfl, (labelled.max?_marked_eq_some_iff version).mp newest⟩
    · rintro ⟨version, rfl, newest⟩
      exact ⟨version, (labelled.max?_marked_eq_some_iff version).mpr newest, rfl⟩
  · rw [Option.map_eq_none_iff, List.max?_eq_none_iff, List.eq_nil_iff_forall_not_mem]
    simp only [labelled.stands_iff]

/-- Two mounts overlap, and the first one lets go of what it holds when it comes to the page too late:
the second one stands, and the host keeps its marker. -/
theorem marker_names_newest_overtaken :
    let page : Page :=
      ⟨#[{ tag := "body", children := [1] }, { tag := "div", parent := some 0 }]⟩
    let settings : SandboxSettings := { isolation := .shadow }
    let bundle : Bundle :=
      { moduleRef := "/lessons/a/module", integrity := Digest.integrity "" }
    let events : List Event := [.begin bundle, .fetched 1 (.ok ""), .begin bundle,
      .fetched 2 (.ok ""), .loaded 1 (.ok ())]
    let scene := run { executor := { host := 1, settings }
                       around := { page, registry := .ofBase defaultBase } } events
    page.Closed ∧ 1 < page.nextId ∧ (page.get 1).attribute? markerName = none ∧
      settings.isolation = .shadow ∧
      ∃ version, "2" = toString version ∧ scene.executor.Stands version ∧
        ∀ other, scene.executor.Stands other → other ≤ version := by
  intro page settings bundle events scene
  have closed : page.Closed := by decide
  have inside : 1 < page.nextId := by decide
  have unmarked : (page.get 1).attribute? markerName = none := by decide
  have names := marker_names_newest closed inside unmarked settings rfl (.ofBase defaultBase) events
  have newest := (names.2.1 "2").mp (by decide +kernel)
  exact ⟨closed, inside, unmarked, rfl, newest⟩

end Scene

end Lectern.Sandbox
