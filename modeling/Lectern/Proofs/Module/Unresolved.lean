/-
Module: Lectern.Proofs.Module.Unresolved
Purpose: Which members of the UI library are reported as bound by nothing: the first reference to each
  one that stands outside of imports. The check goes along the walk over a module, with the members that
  it has reported; what it reports is told from all references at once.
Trusted boundary: none
Main exports: Node.preorderOutside, references, firstNamed, mem_firstNamed, firstNamed_sublist,
  nodup_firstNamed, reportUnresolved_eq, mem_reportUnresolved, RefersAt, ReportsFirst,
  unresolved_at_first_reference
-/
import Lectern.Module.Diagnostic
import Lectern.Proofs.Module.Names
import Lectern.Proofs.Syntax.Walks

namespace Lectern.Syntax.Node

/-! ## Walks that leave out a category -/

mutual

/-- The nodes that do not lie below a node of category `cut`, in document order. -/
def preorderOutside (cut : Kind) : Node → List Node
  | ⟨kind, named, start, stop, field, missing, children⟩ =>
    ⟨kind, named, start, stop, field, missing, children⟩ ::
      (if kind = cut then [] else preorderOutsideAll cut children)

/-- The nodes of neighbouring subtrees that do not lie below a node of category `cut`. -/
def preorderOutsideAll (cut : Kind) : List Node → List Node
  | [] => []
  | child :: rest => preorderOutside cut child ++ preorderOutsideAll cut rest

end

theorem preorderOutside_eq (cut : Kind) (node : Node) :
    node.preorderOutside cut =
      node :: (if node.kind = cut then [] else node.children.flatMap (·.preorderOutside cut)) := by
  have all (nodes : List Node) :
      preorderOutsideAll cut nodes = nodes.flatMap (·.preorderOutside cut) := by
    induction nodes with
    | nil => rfl
    | cons first rest inductionHypothesis =>
        rw [preorderOutsideAll, inductionHypothesis, List.flatMap_cons]
  cases node
  rw [preorderOutside, all]

end Lectern.Syntax.Node

namespace Lectern.Module

open Lectern.Syntax

/-- Below nodes of which one is of a category, all nodes lie in one. -/
theorem liesInside_of_mem_lineages {cut : Kind} {around : List Node}
    (inside : liesInside cut around = true) {root : Node} {visit : Node × List Node}
    (visited : visit ∈ root.lineages around) : liesInside cut visit.2 = true := by
  induction root using Node.induct generalizing around with
  | step root inductionHypothesis =>
      rw [Node.lineages_eq, List.mem_cons, List.mem_flatMap] at visited
      rcases visited with rfl | ⟨child, member, visited⟩
      · exact inside
      · refine inductionHypothesis child member ?_ visited
        rw [liesInside, List.any_cons, Bool.or_eq_true_iff]
        exact .inr inside

/-- The nodes that lie in none of a category are those of the walk that leaves those out. -/
theorem filter_lineages {cut : Kind} {around : List Node} (clear : liesInside cut around = false)
    (root : Node) :
    ((root.lineages around).filter fun visit => !liesInside cut visit.2).map Prod.fst =
      root.preorderOutside cut := by
  induction root using Node.induct generalizing around with
  | step root inductionHypothesis =>
      have below : liesInside cut (root :: around) = (root.kind == cut) := by
        rw [liesInside, List.any_cons, ← liesInside, clear, Bool.or_false]
      rw [Node.lineages_eq, Node.preorderOutside_eq, List.filter_cons_of_pos (by simp [clear]),
        List.map_cons, List.filter_flatMap, List.map_flatMap]
      congr 1
      split
      next is =>
        rw [List.flatMap_eq_nil_iff]
        intro child _
        rw [List.map_eq_nil_iff, List.filter_eq_nil_iff]
        intro visit visited
        rw [liesInside_of_mem_lineages (by rw [below]; exact beq_iff_eq.mpr is) visited]
        exact Bool.false_ne_true
      next other =>
        rw [List.flatMap_def, List.flatMap_def]
        congr 1
        apply List.map_congr_left
        intro child member
        exact inductionHypothesis child member (by rw [below]; exact beq_eq_false_iff_ne.mpr other)

/-- The references of a module that are not part of an import, in document order. -/
def references (root : Node) : List Node :=
  (root.preorderOutside .importStatement).filter isReference

/-- A reference that is not part of an import is one that the walk comes to outside of all imports. -/
theorem mem_references {root node : Node} :
    node ∈ references root ↔ isReference node = true ∧
      ∃ around, (node, around) ∈ root.walk ∧ liesInside .importStatement around = false := by
  have walked := @filter_lineages .importStatement [] rfl root
  rw [references, List.mem_filter, ← walked, Node.walk_eq]
  simp [and_comm]

/-! ## The first entry for each name -/

section FirstNamed

variable {α β : Type}

/-- The first entry for each name, but for the names that were seen before. -/
def firstNamed (name? : α → Option String) : List String → List α → List (α × String)
  | _, [] => []
  | seen, entry :: rest =>
    match name? entry with
    | none => firstNamed name? seen rest
    | some name =>
      if seen.contains name then firstNamed name? seen rest
      else (entry, name) :: firstNamed name? (name :: seen) rest

variable {name? : α → Option String}

theorem firstNamed_map (enter : β → α) (seen : List String) (entries : List β) :
    firstNamed name? seen (entries.map enter) =
      (firstNamed (fun entry => name? (enter entry)) seen entries).map fun found =>
        (enter found.1, found.2) := by
  induction entries generalizing seen with
  | nil => rfl
  | cons entry rest inductionHypothesis =>
      rw [List.map_cons, firstNamed, firstNamed]
      split
      next => exact inductionHypothesis seen
      next name named =>
        split
        next => exact inductionHypothesis seen
        next => rw [List.map_cons, inductionHypothesis]

/-- An entry is found for a name exactly if it is the first one that has it. -/
theorem mem_firstNamed {seen : List String} {entries : List α} {entry : α} {name : String} :
    (entry, name) ∈ firstNamed name? seen entries ↔
      name ∉ seen ∧ entries.find? (name? · == some name) = some entry := by
  induction entries generalizing seen with
  | nil => simp [firstNamed]
  | cons first rest inductionHypothesis =>
      rw [firstNamed, List.find?_cons]
      cases named : name? first with
      | none => exact inductionHypothesis
      | some other =>
          by_cases same : other = name
          · subst same
            by_cases known : other ∈ seen
            · simp [known, inductionHypothesis]
            · simp [known, inductionHypothesis, eq_comm]
          · have apart : name ≠ other := fun is => same is.symm
            have passed : (some other == some name) = false := by simpa using same
            rw [passed]
            by_cases known : other ∈ seen
            · simp [known, inductionHypothesis]
            · simp [known, apart, inductionHypothesis]

theorem mem_map_firstNamed {seen : List String} {entries : List α} {name : String} :
    name ∈ (firstNamed name? seen entries).map Prod.snd ↔
      name ∉ seen ∧ ∃ entry ∈ entries, name? entry = some name := by
  have found : (∃ entry, entries.find? (name? · == some name) = some entry) ↔
      ∃ entry ∈ entries, name? entry = some name := by
    rw [← Option.isSome_iff_exists, List.find?_isSome]
    simp
  rw [← found, List.mem_map]
  constructor
  · rintro ⟨⟨entry, _⟩, member, rfl⟩
    obtain ⟨unseen, isFirst⟩ := mem_firstNamed.mp member
    exact ⟨unseen, entry, isFirst⟩
  · rintro ⟨unseen, entry, isFirst⟩
    exact ⟨(entry, name), mem_firstNamed.mpr ⟨unseen, isFirst⟩, rfl⟩

theorem firstNamed_sublist (seen : List String) (entries : List α) :
    ((firstNamed name? seen entries).map Prod.fst).Sublist entries := by
  induction entries generalizing seen with
  | nil => exact .slnil
  | cons entry rest inductionHypothesis =>
      rw [firstNamed]
      split
      next => exact (inductionHypothesis seen).cons entry
      next name named =>
        split
        next => exact (inductionHypothesis seen).cons entry
        next => exact (inductionHypothesis (name :: seen)).cons_cons entry

theorem nodup_firstNamed (seen : List String) (entries : List α) :
    ((firstNamed name? seen entries).map Prod.snd).Nodup := by
  induction entries generalizing seen with
  | nil => exact .nil
  | cons entry rest inductionHypothesis =>
      rw [firstNamed]
      split
      next => exact inductionHypothesis seen
      next name named =>
        split
        next => exact inductionHypothesis seen
        next =>
          rw [List.map_cons, List.nodup_cons]
          refine ⟨fun again => ?_, inductionHypothesis (name :: seen)⟩
          exact (mem_map_firstNamed.mp again).1 List.mem_cons_self

end FirstNamed

/-! ## The check -/

/-- The name that something a walk comes to has to be reported for, unless it has been: that of an
unbound member, which is not declared, and to which a reference outside of imports refers. -/
def wanted? (source : ByteArray) (declared : List String) (visit : Node × List Node) :
    Option String :=
  if isReference visit.1 && isUnboundMember (visit.1.text source) &&
      !declared.contains (visit.1.text source) && !liesInside .importStatement visit.2 then
    some (visit.1.text source)
  else none

variable {source : ByteArray} {declared seen : List String} {visits : List (Node × List Node)}

theorem wanted?_eq_some_iff {visit : Node × List Node} {name : String} :
    wanted? source declared visit = some name ↔ visit.1.text source = name ∧
      isReference visit.1 = true ∧ isUnboundMember name = true ∧ name ∉ declared ∧
        liesInside .importStatement visit.2 = false := by
  unfold wanted?
  constructor
  · intro wants
    split at wants
    next holds =>
      cases wants
      simpa [and_assoc] using holds
    next => cases wants
  · rintro ⟨rfl, refers, unbound, undeclared, outside⟩
    rw [if_pos (by simp [refers, unbound, undeclared, outside])]

/-- What is reported along a walk is the first reference for each member that is to be reported. -/
theorem reportUnresolved_eq (seen : List String) (visits : List (Node × List Node)) :
    reportUnresolved source declared seen visits =
      (firstNamed (wanted? source declared) seen visits).map fun found => (found.1.1, found.2) := by
  induction visits generalizing seen with
  | nil => rfl
  | cons visit later inductionHypothesis =>
      obtain ⟨node, around⟩ := visit
      rw [reportUnresolved, firstNamed]
      cases wants : wanted? source declared (node, around) with
      | none =>
          rw [if_neg ?_]
          · exact inductionHypothesis seen
          · intro holds
            have fits : wanted? source declared (node, around) = some (node.text source) := by
              simp only [Bool.and_eq_true] at holds
              exact if_pos (by simp only [holds, Bool.and_self])
            rw [wants] at fits
            cases fits
      | some name =>
          obtain ⟨rfl, refers, unbound, undeclared, outside⟩ := wanted?_eq_some_iff.mp wants
          by_cases known : node.text source ∈ seen
          · simp [known, inductionHypothesis]
          · simp [refers, unbound, undeclared, outside, known, inductionHypothesis]

/-- The names that are reported along a walk: the unbound members that are not declared and were not
seen, and to which a reference outside of imports refers. -/
theorem mem_reportUnresolved {name : String} :
    name ∈ (reportUnresolved source declared seen visits).map Prod.snd ↔
      isUnboundMember name = true ∧ name ∉ declared ∧ name ∉ seen ∧
        ∃ visit ∈ visits, isReference visit.1 = true ∧
          liesInside .importStatement visit.2 = false ∧ visit.1.text source = name := by
  have names : (reportUnresolved source declared seen visits).map Prod.snd =
      (firstNamed (wanted? source declared) seen visits).map Prod.snd := by
    rw [reportUnresolved_eq, List.map_map]
    rfl
  simp only [names, mem_map_firstNamed, wanted?_eq_some_iff]
  constructor
  · rintro ⟨unseen, visit, member, same, refers, unbound, undeclared, outside⟩
    exact ⟨unbound, undeclared, unseen, visit, member, refers, outside, same⟩
  · rintro ⟨unbound, undeclared, unseen, visit, member, refers, outside, same⟩
    exact ⟨unseen, visit, member, same, refers, unbound, undeclared, outside⟩

/-! ## First references -/

/-- A path leads to a reference to a name that lies in no import. -/
structure RefersAt (source : ByteArray) (root : Node) (name : String) (path : List Nat) : Prop where
  reference : ∃ node, root.at? path = some node ∧ isReference node = true ∧ node.text source = name
  outside : ∀ front index rest outer, path = front ++ index :: rest →
    root.at? front = some outer → outer.kind ≠ .importStatement

variable {root : Node} {name : String} {path : List Nat}

/-- What a path leads to lies in nothing of a category exactly if the path goes through nothing of it. -/
theorem liesInside_eq_false_iff {kind : Kind} {node : Node} {around : List Node}
    (visited : root.visitAt? [] path = some (node, around)) :
    liesInside kind around = false ↔ ∀ front index rest outer, path = front ++ index :: rest →
      root.at? front = some outer → outer.kind ≠ kind := by
  simp only [liesInside, List.any_eq_false, beq_iff_eq, Node.mem_around visited, List.not_mem_nil,
    false_or]
  constructor
  · intro clear front index rest outer split leads
    exact clear outer ⟨front, index, rest, split, leads⟩
  · rintro clear outer ⟨front, index, rest, split, leads⟩
    exact clear front index rest outer split leads

/-- The walk finds on some path that a name has to be reported exactly if the path leads to a reference
to that name outside of imports, and nothing binds or declares the name. -/
theorem wantedAt_eq_some_iff :
    (root.visitAt? [] path).bind (wanted? source declared) = some name ↔
      isUnboundMember name = true ∧ name ∉ declared ∧ RefersAt source root name path := by
  rw [Option.bind_eq_some_iff]
  constructor
  · rintro ⟨⟨node, around⟩, visited, wants⟩
    obtain ⟨same, refers, unbound, undeclared, outside⟩ := wanted?_eq_some_iff.mp wants
    have leads : root.at? path = some node := by rw [← root.map_visitAt? [], visited]; rfl
    exact ⟨unbound, undeclared, ⟨node, leads, refers, same⟩, (liesInside_eq_false_iff visited).mp outside⟩
  · rintro ⟨unbound, undeclared, ⟨node, leads, refers, same⟩, outside⟩
    rw [← root.map_visitAt? [], Option.map_eq_some_iff] at leads
    obtain ⟨⟨node, around⟩, visited, rfl⟩ := leads
    exact ⟨_, visited, wanted?_eq_some_iff.mpr ⟨same, refers, unbound, undeclared,
      (liesInside_eq_false_iff visited).mpr outside⟩⟩

/-- In a list that ascends, what is found first is the least that there is. -/
theorem least_of_find? {entries : List (List Nat)} (ascending : entries.Pairwise (· < ·))
    {holds : List Nat → Bool} {entry : List Nat} (found : entries.find? holds = some entry) :
    ∀ other ∈ entries, holds other = true → ¬ other < entry := by
  obtain ⟨_, front, back, rfl, none⟩ := List.find?_eq_some_iff_append.mp found
  intro other member fits
  obtain ⟨_, later, _⟩ := List.pairwise_append.mp ascending
  rcases List.mem_append.mp member with before | behind
  · have passed := none other before
    rw [fits] at passed
    cases passed
  · rcases List.mem_cons.mp behind with rfl | behind
    · exact List.lt_irrefl other
    · exact List.lt_asymm ((List.pairwise_cons.mp later).1 other behind)

/-- How the members that nothing binds are reported, with the paths to what each report is about. -/
structure ReportsFirst (source : ByteArray) (root : Node) (reports : List (List Nat × String)) :
    Prop where
  /-- The reports are in the order in which the walk comes to what they are about. -/
  ascending : (reports.map Prod.fst).Pairwise (· < ·)
  /-- There is one report for each name. -/
  once : (reports.map Prod.snd).Nodup
  members : ∀ name, name ∈ reports.map Prod.snd ↔ name ∈ libraryMembers ∧ name ∉ bannerNames ∧
    name ∉ declaredNames source root ∧ ∃ path, RefersAt source root name path
  /-- Each report is about the first reference to its name outside of imports. -/
  first : ∀ report ∈ reports, RefersAt source root report.2 report.1 ∧
    ∀ path, RefersAt source root report.2 path → ¬ path < report.1
  messages : ((unresolvedDiagnostics source root).map fun diagnostic => some diagnostic.message) =
    reports.map fun report => (root.at? report.1).map fun node =>
      (node.position source).label ++ ": Cannot find name '" ++ report.2 ++ "'."
  /-- Where parts stand one behind the other, the places of the reports ascend as well. -/
  ordered : root.Nested → reports.Pairwise fun one other => ∀ node second,
    root.at? one.1 = some node → root.at? other.1 = some second →
      node.position source ≤ second.position source

/-- The reports of a module, each with the path to what it is about. -/
def reportsOf (source : ByteArray) (root : Node) : List (List Nat × String) :=
  firstNamed (fun path => (root.visitAt? [] path).bind (wanted? source (declaredNames source root))) []
    root.paths

/-- What the check finds along the walk are the reports, told of the nodes that their paths lead to. -/
theorem map_reportsOf (source : ByteArray) (root : Node) :
    (firstNamed (wanted? source (declaredNames source root)) [] root.walk).map
        (fun found => (some found.1, found.2)) =
      (reportsOf source root).map fun report => (root.visitAt? [] report.1, report.2) := by
  have walked := @firstNamed_map _ _ (fun visit : Option (Node × List Node) =>
    visit.bind (wanted? source (declaredNames source root))) some [] root.walk
  rw [root.map_walk_paths, firstNamed_map] at walked
  exact walked.symm

theorem reportsFirst_reportsOf (source : ByteArray) (root : Node) :
    ReportsFirst source root (reportsOf source root) := by
  have ascending : ((reportsOf source root).map Prod.fst).Pairwise (· < ·) :=
    root.paths_ascending.sublist (firstNamed_sublist [] root.paths)
  have listed {name : String} {path : List Nat} (refers : RefersAt source root name path) :
      path ∈ root.paths := by
    obtain ⟨node, leads, -⟩ := refers.reference
    exact Node.mem_paths.mpr (by rw [leads]; rfl)
  refine ⟨ascending, nodup_firstNamed [] root.paths, ?_, ?_, ?_, ?_⟩
  · intro name
    have unbound : isUnboundMember name = true ↔ name ∈ libraryMembers ∧ name ∉ bannerNames := by
      simp [isUnboundMember]
    rw [reportsOf, mem_map_firstNamed, ← and_assoc, ← unbound]
    simp only [wantedAt_eq_some_iff, List.not_mem_nil, not_false_eq_true, true_and]
    constructor
    · rintro ⟨path, -, member, undeclared, refers⟩
      exact ⟨member, undeclared, path, refers⟩
    · rintro ⟨member, undeclared, path, refers⟩
      exact ⟨path, listed refers, member, undeclared, refers⟩
  · rintro ⟨path, name⟩ member
    obtain ⟨-, found⟩ := mem_firstNamed.mp member
    have fits := List.find?_some found
    obtain ⟨unbound, undeclared, refers⟩ := wantedAt_eq_some_iff.mp (beq_iff_eq.mp fits)
    refine ⟨refers, fun other again => ?_⟩
    apply least_of_find? root.paths_ascending found other (listed again)
    exact beq_iff_eq.mpr (wantedAt_eq_some_iff.mpr ⟨unbound, undeclared, again⟩)
  · have told := congrArg (List.map fun report : Option (Node × List Node) × String =>
      report.1.map fun visit => (visit.1.position source).label ++ ": Cannot find name '" ++
        report.2 ++ "'.") (map_reportsOf source root)
    rw [List.map_map, List.map_map] at told
    rw [unresolvedDiagnostics, unresolvedNames, reportUnresolved_eq, List.map_map, List.map_map]
    refine told.trans (List.map_congr_left fun report _ => ?_)
    rw [← root.map_visitAt? [], Option.map_map]
    rfl
  · intro nested
    refine (List.pairwise_map.mp ascending).imp ?_
    intro one other before node second leads leadsOther
    exact nested.position_le source leads leadsOther before

/-- The walk comes to every node once, in the order of the recursion, which is that of the paths. And
there is one report for each member of the UI library that the banner does not bind, that nothing
declares and that something outside of imports refers to. It names the place of the first such reference,
and the reports stand in the order of their references. -/
theorem unresolved_at_first_reference (source : ByteArray) (root : Node) :
    root.walk.map Prod.fst = root.preorder ∧
    (∃ paths : List (List Nat), paths.Pairwise (· < ·) ∧
      (∀ path, path ∈ paths ↔ (root.at? path).isSome = true) ∧
      root.preorder.map some = paths.map root.at?) ∧
    ∃ reports, ReportsFirst source root reports :=
  ⟨root.map_walk, ⟨root.paths, root.paths_ascending, fun _ => Node.mem_paths, root.map_paths.symm⟩,
    reportsOf source root, reportsFirst_reportsOf source root⟩

/-- Two members that nothing binds, one of them twice and in an import before. -/
private def unboundMembers : String :=
  "import \x7b useId \x7d from 'x';\nmemo(a);\nmemo(useId());\nuseState();\n"

theorem unresolved_at_first_reference_unbound :
    ∃ root, parse unboundMembers.toUTF8 = .ok root ∧ root.Nested ∧
      (unresolvedDiagnostics unboundMembers.toUTF8 root).map (·.message) =
        ["Line 2:1: Cannot find name 'memo'.", "Line 3:6: Cannot find name 'useId'."] ∧
      ∃ reports, ReportsFirst unboundMembers.toUTF8 root reports ∧ reports.length = 2 ∧
        reports.Pairwise fun one other => ∀ node second,
          root.at? one.1 = some node → root.at? other.1 = some second →
            node.position unboundMembers.toUTF8 ≤ second.position unboundMembers.toUTF8 := by
  obtain ⟨root, read, nested, messages⟩ :=
    @exists_of_parse unboundMembers (fun root =>
      (∀ node ∈ root.preorder, Node.Follows node.start node.stop node.children) ∧
      (unresolvedDiagnostics unboundMembers.toUTF8 root).map (·.message) =
        ["Line 2:1: Cannot find name 'memo'.", "Line 3:6: Cannot find name 'useId'."])
      _ (by decide +kernel)
  obtain ⟨-, -, reports, first⟩ := unresolved_at_first_reference unboundMembers.toUTF8 root
  refine ⟨root, read, nested, messages, reports, first, ?_, first.ordered nested⟩
  have counted := congrArg List.length first.messages
  have two := congrArg List.length messages
  rw [List.length_map, List.length_map] at counted
  rw [List.length_map] at two
  rw [← counted, two]
  rfl

end Lectern.Module
