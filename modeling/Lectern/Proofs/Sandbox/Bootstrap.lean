/-
Module: Lectern.Proofs.Sandbox.Bootstrap
Purpose: Where the script of a mount looks for its place. It asks the document for the marker of its
  version, and the shadow root of what it finds for the element of that version. Versions are counted
  by each executor, so the document can answer with the host of another one.
Trusted boundary: none
Main exports: Asks, bootstrapScript_asks, Ensemble.Staged, Ensemble.Signed, Ensemble.own_host_found_iff
-/
import Lectern.Proofs.Sandbox.Ensemble
import Lectern.Proofs.Sandbox.Markers

namespace Lectern.Sandbox

/-- The version of the newest mount that was not let go. -/
def Executor.newest? (executor : Executor) : Option Nat := executor.kept.max?

/-! ## What the script asks for -/

/-- A query for an element that has an attribute of some value. -/
def attributeQuery (name value : String) : String := "[" ++ name ++ "=\"" ++ value ++ "\"]"

/-- A script asks the document for an element, and then the shadow root of that for another one. -/
def Asks (script document shadow : String) : Prop :=
  ∃ opening between closing, script =
    opening ++ ("document.querySelector(" ++ scriptLiteral document ++ ")") ++ between ++
      ("shadow.querySelector(" ++ scriptLiteral shadow ++ ")") ++ closing

private theorem asks_of_lines (document shadow text : String) (others before after : List String) :
    Asks (joinLines (("const mount = document.querySelector(" ++ scriptLiteral document ++ ");") ::
        others) ++ text ++ "\n" ++
      joinLines (before ++ ("  ReactDOM.createRoot(" ++
        ("shadow.querySelector(" ++ scriptLiteral shadow ++ ")") ++ ").render(") :: after))
      document shadow := by
  have opening : "const mount = document.querySelector(" =
      "const mount = " ++ "document.querySelector(" := rfl
  have closing : ");" = ")" ++ ";" := rfl
  refine ⟨"const mount = ", ";" ++ "\n" ++ joinLines others ++ text ++ "\n" ++ joinLines before ++
    "  ReactDOM.createRoot(", ").render(" ++ "\n" ++ joinLines after, ?_⟩
  unfold joinLines
  rw [opening, closing, List.map_append, List.map_cons, List.map_cons, String.join_append,
    String.join_cons, String.join_cons]
  simp only [String.append_assoc]

/-- The script of a mount asks for its version both times. -/
theorem bootstrapScript_asks (handle : String) (version : Nat) :
    Asks (bootstrapScript handle version) (attributeQuery markerName (toString version))
      (attributeQuery versionName (toString version)) :=
  asks_of_lines (attributeQuery markerName (toString version))
    (attributeQuery versionName (toString version)) errorBoundaryScript _
    ["try \x7b",
      "  const \x7b default: Component \x7d = await import(" ++ scriptLiteral handle ++ ");"] _

/-! ## What is there to be found -/

/-- The element of a mount that its script renders into. -/
def containerElement (version : Nat) : Element where
  tag := "div"
  attributes := [("id", "lf-host"), (versionName, toString version)]

private theorem toString_injective {first second : Nat} (same : toString first = toString second) :
    first = second := by
  have digits : Nat.toDigits 10 first = Nat.toDigits 10 second := String.ofList_injective same
  have read := congrArg (Nat.ofDigitChars 10 · 0) digits
  simpa only [Nat.ofDigitChars_ten_toDigits] using read

/-- The elements of a mount are told from shadow roots, and none is marked like a host or has another
version. -/
theorem lessonElements_told (styleText handle : String) (version : Nat) :
    ∀ element ∈ lessonElements styleText handle version, element.tag ≠ Page.shadowTag ∧
      element.attribute? markerName = none ∧
      ∀ value, element.attribute? versionName = some value → value = toString version := by
  simp only [lessonElements, shadowElements, List.cons_append, List.nil_append,
    List.forall_mem_cons]
  refine ⟨?_, ?_, ?_, ?_, ?_, by simp⟩
  all_goals
    refine ⟨by simp [Page.shadowTag, bootstrapElement],
      by simp [Element.attribute?, markerName, bootstrapElement], ?_⟩
    simp [Element.attribute?, versionName, bootstrapElement, eq_comm]

/-- An element that shows an error is not marked, and has no version. -/
private theorem error_told {element : Element} {message : String}
    (error : Page.bare element = Scene.diagnosticElement message) :
    element.attribute? markerName = none ∧ element.attribute? versionName = none :=
  ⟨congrArg (·.attribute? markerName) error, congrArg (·.attribute? versionName) error⟩

namespace Scene

variable {scene : Scene} {session : MountSession}

/-- The marks of an executor name its newest mount. -/
theorem Labelled.max?_marked {first : Nat} (labelled : scene.Labelled first) :
    scene.executor.marked.max? = scene.executor.newest? := by
  ext version
  simp only [Executor.newest?, List.max?_eq_some_iff, labelled.marked]

theorem Posted.told (posted : scene.Posted session) :
    ∀ node ∈ session.nodes, (scene.around.page.get node).tag ≠ Page.shadowTag ∧
      (scene.around.page.get node).attribute? markerName = none ∧
      ∀ value, (scene.around.page.get node).attribute? versionName = some value →
        value = toString session.version := by
  obtain ⟨styleText, handle, -, same⟩ := posted.lesson
  intro node own
  have element : Page.bare (scene.around.page.get node) ∈
      lessonElements styleText handle session.version :=
    same ▸ List.mem_map_of_mem own
  have told := lessonElements_told styleText handle session.version _ element
  exact told

/-- Every mount has a script, and that asks for its own version. -/
theorem Posted.script (posted : scene.Posted session) :
    ∃ script ∈ session.nodes, ∃ handle ∈ session.handles,
      Page.bare (scene.around.page.get script) = bootstrapElement handle session.version ∧
        Asks (scene.around.page.get script).text
          (attributeQuery markerName (toString session.version))
          (attributeQuery versionName (toString session.version)) := by
  obtain ⟨styleText, handle, own, same⟩ := posted.lesson
  have last : bootstrapElement handle session.version ∈
      lessonElements styleText handle session.version :=
    List.mem_append_right _ (List.mem_singleton_self _)
  rw [← same] at last
  obtain ⟨script, inside, is⟩ := List.mem_map.mp last
  have text := congrArg Element.text is
  change (scene.around.page.get script).text = _ at text
  refine ⟨script, inside, handle, own, is, ?_⟩
  rw [text]
  exact bootstrapScript_asks handle session.version

/-- The element that a mount is rendered into is the first of its elements that has its version. -/
theorem Posted.container (posted : scene.Posted session) :
    ∃ front container back, session.nodes = front ++ container :: back ∧
      Page.bare (scene.around.page.get container) = containerElement session.version ∧
      ∀ node ∈ front, (scene.around.page.get node).attribute? versionName = none := by
  obtain ⟨styleText, handle, -, same⟩ := posted.lesson
  have parted : ∃ styles rest, lessonElements styleText handle session.version =
      styles ++ containerElement session.version :: rest ∧
        ∀ element ∈ styles, element.attribute? versionName = none := by
    refine ⟨(shadowElements styleText session.version).take 2, _, rfl, ?_⟩
    simp [shadowElements, Element.attribute?, versionName]
  obtain ⟨styles, rest, parted, plain⟩ := parted
  rw [parted, List.map_eq_append_iff] at same
  obtain ⟨front, later, nodes, styled, rested⟩ := same
  obtain ⟨container, back, rfl, is, -⟩ := List.map_eq_cons_iff.mp rested
  refine ⟨front, container, back, nodes, is, ?_⟩
  intro node member
  have element : Page.bare (scene.around.page.get node) ∈ styles :=
    styled ▸ List.mem_map_of_mem member
  have missing := plain _ element
  exact missing

end Scene

namespace Ensemble

variable {Name : Type}

/-! ## Labels of all executors -/

/-- Are lessons to be shown in shadow roots, by executors that have a host each? Nothing in the page has
to do with a mount yet, and a shadow root that is there belongs to one host and hangs nowhere. -/
structure Staged (start : Ensemble Name) : Prop where
  isolation : ∀ name, (start.executors name).settings.isolation = .shadow
  alone : ∀ name other, (start.executors name).host = (start.executors other).host → name = other
  clean : ∀ element ∈ start.around.page.elements.toList,
    element.attribute? markerName = none ∧ element.attribute? versionName = none
  rootsApart : ∀ name other root,
    (start.around.page.get (start.executors name).host).shadowRoot = some root →
    (start.around.page.get (start.executors other).host).shadowRoot = some root → name = other
  rootsFree : ∀ name root,
    (start.around.page.get (start.executors name).host).shadowRoot = some root →
    ∀ element ∈ start.around.page.elements.toList, root ∉ element.children

/-- Each executor is labelled, and none has a share in the shadow root of another one. -/
structure Signed (start ensemble : Ensemble Name) : Prop extends Kempt start ensemble where
  labelled : ∀ name, (ensemble.scene name).Labelled start.around.page.nextId
  rootsApart : ∀ name other root,
    (ensemble.around.page.get (start.executors name).host).shadowRoot = some root →
    (ensemble.around.page.get (start.executors other).host).shadowRoot = some root → name = other
  moves : Page.Moves (start.around.page.nextId ≤ ·) start.around.page ensemble.around.page

section Signing

variable {start ensemble : Ensemble Name}

theorem Staged.clean_get (staged : start.Staged) (id : Nat) :
    (start.around.page.get id).attribute? markerName = none ∧
      (start.around.page.get id).attribute? versionName = none := by
  rcases start.around.page.get_cases id with missing | there
  · rw [missing]
    exact ⟨rfl, rfl⟩
  · exact staged.clean _ there

theorem Staged.rootsFree_get (staged : start.Staged) {name : Name} {root : Nat}
    (found : (start.around.page.get (start.executors name).host).shadowRoot = some root) (id : Nat) :
    root ∉ (start.around.page.get id).children := by
  rcases start.around.page.get_cases id with missing | there
  · rw [missing]
    exact List.not_mem_nil
  · exact staged.rootsFree name root found _ there

theorem Opening.signed (opening : start.Opening) (staged : start.Staged) : Signed start start where
  toKempt := opening.kempt
  labelled := by
    intro name
    have clean := (staged.clean_get (start.executors name).host).1
    unfold scene
    rw [opening.new name]
    exact Scene.labelled_fresh opening.kempt.linked (staged.isolation name) clean _
  rootsApart := staged.rootsApart
  moves := .refl _

/-- The labels of an executor stay where another one acts. -/
private theorem labelled_foreign {executor : Executor} {scene after : Scene} {first : Nat}
    (labelled : Scene.Labelled first ⟨executor, scene.around⟩)
    (neat : Scene.Neat first ⟨executor, scene.around⟩) (minds : scene.Minds first after)
    (moves : Page.Moves
      (fun node => node ∈ scene.executor.nodes ∨ scene.around.page.nextId ≤ node)
      scene.around.page after.around.page)
    (host : executor.host ≠ scene.executor.host)
    (apart : ∀ node ∈ executor.nodes, node ∉ scene.executor.nodes) :
    Scene.Labelled first ⟨executor, after.around⟩ := by
  have same := minds.kept.plain executor.host neat.host host
  have root := congrArg Element.shadowRoot same
  have marker := congrArg (·.attribute? markerName) same
  refine labelled.carried neat rfl rfl minds.kept.later moves (fun _ found => root.trans found)
    (fun _ found => .inl (root.symm.trans found)) ?_ (fun _ shown => .inl shown) labelled.marked ?_
  · intro session member
    refine .inr ⟨session, member, session.disposed, rfl, fun alive => ⟨alive, ?_⟩⟩
    intro node own
    have mine := Executor.mem_nodes.mpr (.inr ⟨session, member, own⟩)
    rintro (taken | beyond)
    · exact apart node mine taken
    · exact absurd (neat.within node mine).2 (Nat.not_lt_of_le beyond)
  · exact marker.trans labelled.marker

variable [DecidableEq Name]

/-- Each event keeps the labels of all executors. -/
theorem Signed.step (signed : Signed start ensemble) (staged : start.Staged) (name : Name)
    (event : Scene.Event) : Signed start (ensemble.step (name, event)) := by
  have kempt := signed.toKempt.step name event
  have ⟨neat, minds⟩ := signed.minds name event
  have before := signed.neat name
  have ⟨still, moves⟩ :=
    Scene.step_labelled (signed.custody name) event before (signed.labelled name)
  have hosts (other : Name) (apart : other ≠ name) :
      (ensemble.executors other).host ≠ (ensemble.executors name).host := by
    rw [signed.host, signed.host]
    exact fun same => apart (staged.alone other name same)
  refine ⟨kempt, ?_, ?_, signed.moves.trans (moves.mono ?_)⟩
  · intro other
    by_cases same : other = name
    · subst same
      rw [scene_step_self]
      exact still
    · rw [scene_step_of_ne ensemble same event]
      have labelled : Scene.Labelled start.around.page.nextId
          ⟨ensemble.executors other, (ensemble.scene name).around⟩ := signed.labelled other
      exact labelled_foreign labelled (signed.neat other) minds moves (hosts other same)
        (signed.nodesApart other name same)
  · have known (other : Name) (root : Nat)
        (found : (((ensemble.scene name).step event).around.page.get
          (start.executors other).host).shadowRoot = some root) :
        (ensemble.around.page.get (start.executors other).host).shadowRoot = some root ∨
          other = name ∧ ensemble.around.page.nextId ≤ root := by
      rw [← signed.host] at found ⊢
      by_cases same : other = name
      · subst same
        exact (minds.kept.made _ root rfl found).imp_right (⟨rfl, ·⟩)
      · have kept := minds.kept.plain _ (signed.neat other).host (hosts other same)
        have root := congrArg Element.shadowRoot kept
        exact .inl (root.symm.trans found)
    have old {other : Name} {root : Nat}
        (found : (ensemble.around.page.get (start.executors other).host).shadowRoot = some root) :
        ¬ ensemble.around.page.nextId ≤ root :=
      Nat.not_le_of_lt (signed.linked.rooted _ root found)
    intro left right root inLeft inRight
    rcases known left root inLeft with before | ⟨rfl, new⟩
    · rcases known right root inRight with shared | ⟨-, new⟩
      · exact signed.rootsApart left right root before shared
      · exact absurd new (old before)
    · rcases known right root inRight with before | ⟨rfl, -⟩
      · exact absurd new (old before)
      · rfl
  · rintro node (own | new)
    · exact (before.within node own).1
    · exact Nat.le_trans before.first_le new

/-- A history keeps the labels of all executors. -/
theorem Signed.run (signed : Signed start ensemble) (staged : start.Staged)
    (moments : List (Name × Scene.Event)) : Signed start (ensemble.run moments) := by
  induction moments generalizing ensemble with
  | nil => exact signed
  | cons moment rest inductionHypothesis =>
      exact inductionHypothesis (signed.step staged moment.1 moment.2)

end Signing

/-! ## What the queries find -/

section Queries

variable {start ensemble : Ensemble Name} {name : Name} {session : MountSession} {id child root : Nat}

/-- What was in the page at first never gets a version. -/
theorem Signed.unversioned (signed : Signed start ensemble) (staged : start.Staged)
    (old : id < start.around.page.nextId) :
    (ensemble.around.page.get id).attribute? versionName = none := by
  have same : unmarked (asOf start.around.page.nextId (ensemble.around.page.get id)) =
      unmarked (asOf start.around.page.nextId (start.around.page.get id)) := by
    by_cases host : ∃ name, id = (start.executors name).host
    · exact signed.kept.hosted id old host
    · rw [signed.kept.plain id old host]
  have attributes := congrArg Element.attributes same
  have kept : (ensemble.around.page.get id).attribute? versionName =
      (start.around.page.get id).attribute? versionName :=
    Element.attribute?_of_filter (by decide : versionName ≠ markerName) attributes
  rw [kept]
  exact (staged.clean_get id).2

/-- Of what was in the page at first, just the hosts are marked, with their newest mounts. -/
theorem Signed.marked_old (signed : Signed start ensemble) (staged : start.Staged)
    (old : id < start.around.page.nextId) {value : String}
    (marked : (ensemble.around.page.get id).attribute? markerName = some value) :
    ∃ name, id = (start.executors name).host ∧ ∃ version,
      (ensemble.executors name).newest? = some version ∧ value = toString version := by
  by_cases host : ∃ name, id = (start.executors name).host
  · obtain ⟨name, rfl⟩ := host
    have labelled := signed.labelled name
    have marker := labelled.marker
    rw [labelled.max?_marked] at marker
    simp only [scene, signed.host] at marker
    rw [marked] at marker
    obtain ⟨version, newest, same⟩ := Option.map_eq_some_iff.mp marker.symm
    exact ⟨name, rfl, version, newest, same.symm⟩
  · have kept : (ensemble.around.page.get id).attribute? markerName =
        (start.around.page.get id).attribute? markerName :=
      congrArg (·.attribute? markerName) (signed.kept.plain id old host)
    cases (kept.trans (staged.clean_get id).1).symm.trans marked

/-- Whatever new hangs in the page shows an error, or was hung into a shadow root by a mount that was
not let go. -/
theorem Signed.hung (signed : Signed start ensemble) (new : start.around.page.nextId ≤ child)
    (named : child ∈ (ensemble.around.page.get id).children) :
    (∃ message, Page.bare (ensemble.around.page.get child) = Scene.diagnosticElement message) ∨
      ∃ name, ∃ session ∈ (ensemble.executors name).sessions, child ∈ session.nodes ∧
        (ensemble.around.page.get (start.executors name).host).shadowRoot = some id := by
  obtain ⟨name, held, -⟩ := signed.place_of_child new named
  have labelled := signed.labelled name
  rcases Executor.mem_held.mp held with shown | ⟨session, member, alive, own⟩
  · exact .inl (labelled.errors child shown)
  · obtain ⟨root, found, row⟩ := (labelled.posted session member).row alive
    have place := (signed.linked.mem_children new).mp (row.subset own)
    rw [(signed.linked.mem_children new).mp named] at place
    obtain rfl := Option.some.inj place
    refine .inr ⟨name, session, member, own, ?_⟩
    rw [← signed.host]
    exact found

/-- Shadow roots hang nowhere, and have no version. -/
theorem Signed.root_free (signed : Signed start ensemble) (staged : start.Staged)
    (found : (ensemble.around.page.get (start.executors name).host).shadowRoot = some root) :
    (∀ id, root ∉ (ensemble.around.page.get id).children) ∧
      (ensemble.around.page.get root).attribute? versionName = none := by
  have labelled := signed.labelled name
  rcases Nat.lt_or_ge root start.around.page.nextId with old | new
  · refine ⟨?_, signed.unversioned staged old⟩
    intro id named
    have before := (signed.kept.made _ root ⟨name, rfl⟩ found).resolve_right (Nat.not_le_of_lt old)
    rcases signed.moves.adds id root named with was | later
    · exact staged.rootsFree_get before id was
    · omega
  · have bare := labelled.root root (by rw [← found, ← signed.host]; rfl) new
    refine ⟨?_, ?_⟩
    · intro id named
      have tag : (ensemble.around.page.get root).tag = Page.shadowTag := congrArg Element.tag bare
      rcases signed.hung new named with ⟨message, error⟩ | ⟨other, session, member, own, -⟩
      · have div : (ensemble.around.page.get root).tag = "div" := congrArg Element.tag error
        rw [tag] at div
        exact absurd div (by decide)
      · exact ((signed.labelled other).posted session member |>.told root own).1 tag
    · have missing := congrArg (·.attribute? versionName) bare
      exact missing

/-- What has the version of a mount in the tree of a shadow root was hung there by that mount. -/
theorem Signed.of_version (signed : Signed start ensemble) (staged : start.Staged)
    (member : session ∈ (ensemble.executors name).sessions)
    (found : (ensemble.around.page.get (start.executors name).host).shadowRoot = some root)
    {depth : Nat} (inTree : id ∈ ensemble.around.page.light depth root)
    (named : child ∈ (ensemble.around.page.get id).children)
    (version : (ensemble.around.page.get child).attribute? versionName =
      some (toString session.version)) : id = root ∧ child ∈ session.nodes := by
  have new : start.around.page.nextId ≤ child := by
    apply Nat.le_of_not_lt
    intro old
    cases (signed.unversioned staged old).symm.trans version
  rcases signed.hung new named with ⟨message, error⟩ | ⟨other, rival, inside, own, place⟩
  · cases (error_told error).2.symm.trans version
  -- The place is a shadow root, and none stands in the tree of another one.
  · have here : id = root := by
      rcases Page.mem_light inTree with same | ⟨parent, -, hung⟩
      · exact same
      · exact absurd hung ((signed.root_free staged place).1 parent)
    subst here
    obtain rfl := signed.rootsApart name other id found place
    have same := toString_injective
      (((signed.labelled name).posted rival inside |>.told child own).2.2 _ version)
    refine ⟨rfl, ?_⟩
    rw [Executor.session_unique (signed.neat name).versions member inside same]
    exact own

/-- The first element of a shadow root that has the version of a mount which was not let go is the one
that this mount is rendered into. -/
theorem Signed.select_container (signed : Signed start ensemble) (staged : start.Staged)
    (member : session ∈ (ensemble.executors name).sessions) (alive : session.disposed = false) :
    ∃ root, (ensemble.around.page.get (start.executors name).host).shadowRoot = some root ∧
      ∃ container ∈ session.nodes,
        Page.bare (ensemble.around.page.get container) = containerElement session.version ∧
        ∀ depth, ensemble.around.page.select (depth + 2) root versionName
          (toString session.version) = some container := by
  have posted := (signed.labelled name).posted session member
  obtain ⟨root, found, row⟩ := posted.row alive
  have found : (ensemble.around.page.get (start.executors name).host).shadowRoot = some root := by
    rw [← signed.host]
    exact found
  obtain ⟨front, container, back, nodes, is, plain⟩ := posted.container
  have ⟨free, other⟩ := signed.root_free staged found
  refine ⟨root, found, container, by rw [nodes]; simp, is, ?_⟩
  intro depth
  have wanted {id child : Nat} (inTree : id ∈ ensemble.around.page.light (depth + 2) root)
      (named : child ∈ (ensemble.around.page.get id).children)
      (bears : ensemble.around.page.bears versionName (toString session.version) child = true) :=
    signed.of_version staged member found inTree named (Page.bears_iff.mp bears)
  unfold Page.select
  rw [Page.find?_light_children free (by simp [Page.bears, other])
    fun id inTree child named bears => (wanted inTree named bears).1]
  rw [nodes] at row
  refine find?_of_row ((List.sublist_append_right front _).trans row) ?_ ?_ ?_
  · have version := congrArg (·.attribute? versionName) is
    exact Page.bears_iff.mpr version
  · intro item named bears
    have own := (wanted List.mem_cons_self named bears).2
    rw [nodes] at own
    rcases List.mem_append.mp own with ahead | here
    · cases (plain item ahead).symm.trans (Page.bears_iff.mp bears)
    · exact here
  · intro item later
    have own : item ∈ session.nodes := by
      rw [nodes]
      exact List.mem_append_right _ (List.mem_cons_of_mem _ later)
    have bounds := (signed.neat name).within item
      (Executor.mem_nodes.mpr (.inr ⟨session, member, own⟩))
    rw [signed.linked.named root item bounds.1]
    split <;> decide

/-- An element of a document is marked exactly if it is a host, with the newest mount there. -/
theorem Signed.bears_iff (signed : Signed start ensemble) (staged : start.Staged)
    {depth document : Nat} (inside : document < start.around.page.nextId)
    (inTree : id ∈ ensemble.around.page.light depth document) (version : Nat) :
    ensemble.around.page.bears markerName (toString version) id = true ↔
      ∃ name, id = (start.executors name).host ∧
        (ensemble.executors name).newest? = some version := by
  constructor
  · intro bears
    have marked := Page.bears_iff.mp bears
    rcases Nat.lt_or_ge id start.around.page.nextId with old | new
    · obtain ⟨name, host, other, newest, same⟩ := signed.marked_old staged old marked
      rw [toString_injective same]
      exact ⟨name, host, newest⟩
    · rcases Page.mem_light inTree with rfl | ⟨parent, -, named⟩
      · exact absurd inside (Nat.not_lt_of_le new)
      · rcases signed.hung new named with ⟨message, error⟩ | ⟨name, session, member, own, -⟩
        · cases (error_told error).1.symm.trans marked
        · cases ((signed.labelled name).posted session member |>.told id own).2.1.symm.trans marked
  · rintro ⟨name, rfl, newest⟩
    have labelled := signed.labelled name
    have marker := labelled.marker
    rw [labelled.max?_marked] at marker
    simp only [scene, newest, signed.host] at marker
    exact Page.bears_iff.mpr marker

/-- The newest mount of an executor was not let go. -/
theorem Kempt.alive_of_newest (kempt : Kempt start ensemble)
    (member : session ∈ (ensemble.executors name).sessions)
    (newest : (ensemble.executors name).newest? = some session.version) :
    session.disposed = false := by
  obtain ⟨other, inside, alive, same⟩ := Executor.mem_kept.mp (List.max?_mem newest)
  rw [Executor.session_unique (kempt.neat name).versions member inside same.symm]
  exact alive

/-- In every state that executors can come to, the script of the newest mount on a host asks for the
version of that mount, and with its second query it finds the element that the mount is rendered into.
With its first query it finds a host whose newest mount has this version, and that is its own host
exactly if none of the hosts before it in the document has a newest mount of the same version: each
executor counts its versions alone. -/
theorem own_host_found_iff [DecidableEq Name] (opening : start.Opening) (staged : start.Staged)
    (moments : List (Name × Scene.Event))
    (member : session ∈ ((start.run moments).executors name).sessions)
    (newest : ((start.run moments).executors name).newest? = some session.version) :
    let page := (start.run moments).around.page
    let host (name : Name) := (start.executors name).host
    (∃ script ∈ session.nodes, ∃ handle ∈ session.handles,
      Page.bare (page.get script) = bootstrapElement handle session.version ∧
        Asks (page.get script).text (attributeQuery markerName (toString session.version))
          (attributeQuery versionName (toString session.version))) ∧
    (∃ root, (page.get (host name)).shadowRoot = some root ∧
      ∃ container ∈ session.nodes,
        Page.bare (page.get container) = containerElement session.version ∧
        ∀ depth, page.select (depth + 2) root versionName (toString session.version) =
          some container) ∧
    ∀ document < start.around.page.nextId, ∀ depth, host name ∈ page.light depth document →
      (∃ other, page.select depth document markerName (toString session.version) =
          some (host other) ∧
        ((start.run moments).executors other).newest? = some session.version) ∧
      (page.select depth document markerName (toString session.version) = some (host name) ↔
        ∀ other, (page.light depth document).idxOf (host other) <
            (page.light depth document).idxOf (host name) →
          ((start.run moments).executors other).newest? ≠ some session.version) := by
  intro page host
  have signed := (opening.signed staged).run staged moments
  have alive := signed.alive_of_newest member newest
  refine ⟨((signed.labelled name).posted session member).script,
    signed.select_container staged member alive, ?_⟩
  intro document inside depth inTree
  have bears {id : Nat} (there : id ∈ page.light depth document) :=
    signed.bears_iff staged inside there session.version
  have own := (bears inTree).mpr ⟨name, rfl, newest⟩
  refine ⟨?_, ?_⟩
  · cases found : page.select depth document markerName (toString session.version) with
    | none => exact absurd own (List.find?_eq_none.mp found (host name) inTree)
    | some id =>
        obtain ⟨other, rfl, same⟩ :=
          (bears (List.mem_of_find?_eq_some found)).mp (List.find?_some found)
        exact ⟨other, rfl, same⟩
  · have ahead {id : Nat} (earlier : (page.light depth document).idxOf id <
        (page.light depth document).idxOf (host name)) : id ∈ page.light depth document :=
      List.idxOf_lt_length_iff.mp
        (Nat.lt_trans earlier (List.idxOf_lt_length_iff.mpr inTree))
    unfold Page.select
    rw [find?_eq_some_iff_idxOf inTree own]
    constructor
    · intro unmarked other earlier same
      have marked := (bears (ahead earlier)).mpr ⟨other, rfl, same⟩
      rw [unmarked _ earlier] at marked
      cases marked
    · intro different id earlier
      rw [← Bool.not_eq_true]
      intro marked
      obtain ⟨other, rfl, same⟩ := (bears (ahead earlier)).mp marked
      exact different other earlier same

end Queries

/-! ## Two hosts -/

/-- Two executors whose hosts stand side by side. -/
private def neighbours : Ensemble Bool where
  executors := fun second =>
    { host := if second then 2 else 1, settings := { isolation := .shadow } }
  around := {
    page := ⟨#[{ tag := "body", children := [1, 2] }, { tag := "div", parent := some 0 },
      { tag := "div", parent := some 0 }]⟩
    registry := .ofBase defaultBase }

private theorem neighbours_opening : neighbours.Opening where
  new := fun second => by cases second <;> rfl
  inside := fun second => by cases second <;> decide
  closed := by decide

private theorem neighbours_staged : neighbours.Staged where
  isolation := fun second => by cases second <;> rfl
  alone := by decide
  clean := by decide
  rootsApart := by
    intro left right root found
    cases left <;> cases found
  rootsFree := by
    intro name root found
    cases name <;> cases found

/-- A mount whose module comes. -/
private def mountOf (second : Bool) (version : Nat) : List (Bool × Scene.Event) :=
  [(second, .begin { moduleRef := "/lessons/a/module", integrity := Digest.integrity "" }),
    (second, .fetched version (.ok ""))]

/-- The second mount of the second host finds its own host, with a first mount on the other one. -/
theorem own_host_found_second :
    let ensemble := neighbours.run (mountOf false 1 ++ mountOf true 1 ++ mountOf true 2)
    neighbours.Opening ∧ neighbours.Staged ∧
      ∃ session ∈ (ensemble.executors true).sessions,
        (ensemble.executors true).newest? = some session.version ∧
          ensemble.around.page.select 2 0 markerName (toString session.version) = some 2 := by
  intro ensemble
  have ⟨⟨session, member, newest, second⟩, inTree, different⟩ :
      (∃ session ∈ (ensemble.executors true).sessions,
        (ensemble.executors true).newest? = some session.version ∧ session.version = 2) ∧
      2 ∈ ensemble.around.page.light 2 0 ∧
      ∀ other, (ensemble.executors other).newest? = some 2 → other = true := by
    decide +kernel
  have found := own_host_found_iff neighbours_opening neighbours_staged _ member newest
  refine ⟨neighbours_opening, neighbours_staged, session, member, newest, ?_⟩
  refine (found.2.2 0 (by decide) 2 inTree).2.mpr ?_
  intro other earlier same
  rw [second] at same
  rw [different other same] at earlier
  exact absurd earlier (Nat.lt_irrefl _)

/-- The script of a mount can find the host of another executor. -/
theorem own_host_missed :
    ¬ ∀ (start : Ensemble Bool) (moments : List (Bool × Scene.Event)) (name : Bool)
      (session : MountSession) (depth document : Nat), start.Opening → start.Staged →
      session ∈ ((start.run moments).executors name).sessions →
      ((start.run moments).executors name).newest? = some session.version →
      document < start.around.page.nextId →
      (start.executors name).host ∈ (start.run moments).around.page.light depth document →
        (start.run moments).around.page.select depth document markerName
          (toString session.version) = some (start.executors name).host := by
  intro always
  have ⟨⟨session, member, newest, first⟩, inTree, found⟩ :
      (∃ session ∈ ((neighbours.run (mountOf false 1 ++ mountOf true 1)).executors true).sessions,
        ((neighbours.run (mountOf false 1 ++ mountOf true 1)).executors true).newest? =
          some session.version ∧ session.version = 1) ∧
      2 ∈ (neighbours.run (mountOf false 1 ++ mountOf true 1)).around.page.light 2 0 ∧
      (neighbours.run (mountOf false 1 ++ mountOf true 1)).around.page.select 2 0 markerName
        (toString 1) = some 1 := by
    decide +kernel
  have own := always neighbours _ true session 2 0 neighbours_opening neighbours_staged member newest
    (by decide) inTree
  rw [first, found] at own
  exact absurd own (by decide)

end Ensemble

end Lectern.Sandbox
