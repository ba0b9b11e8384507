/-
Module: Lectern.Proofs.Module.ParseFaults
Purpose: Which faults of a tree are reported: those with no fault above them, in document order and up
  to a limit. The search for them goes along a stack, passes over trees without a fault and ends early;
  the faults it has to find are told from all nodes of the tree, each with the nodes above it.
Trusted boundary: none
Main exports: Node.outermostFaults, Node.outermostFaults_eq, searchFaults_eq,
  Diagnostic.OfParse, outermost_faults_reported
-/
import Lectern.Module.Compile
import Lectern.Proofs.Syntax.Walks
import Mathlib.Data.List.Basic

namespace Lectern.Syntax.Node

/-! ## Faults with no fault above them -/

/-- The faults of a tree below some nodes that have no fault above them. -/
def faultsUnder (above : List Node) (root : Node) : List Node :=
  ((root.lineages above).filter fun line => line.1.isFault && !line.2.any isFault).map Prod.fst

/-- The faults of a tree that have no fault above them, in document order. -/
def outermostFaults (root : Node) : List Node := root.faultsUnder []

theorem outermostFaults_sublist (root : Node) : root.outermostFaults.Sublist root.preorder := by
  rw [← map_lineages [] root]
  exact List.filter_sublist.map Prod.fst

/-! ## The faults below some nodes -/

theorem faultsUnder_eq (above : List Node) (root : Node) :
    root.faultsUnder above =
      (if root.isFault && !above.any isFault then [root] else []) ++
        root.children.flatMap (faultsUnder (root :: above)) := by
  unfold faultsUnder
  rw [lineages_eq, List.filter_cons, List.filter_flatMap]
  split
  next => rw [List.map_cons, List.map_flatMap, List.singleton_append]
  next => rw [List.map_flatMap, List.nil_append]

/-- Below a fault no fault is an outermost one. -/
theorem faultsUnder_of_fault {above : List Node} (fault : above.any isFault = true) (root : Node) :
    root.faultsUnder above = [] := by
  induction root using induct generalizing above with
  | step root inductionHypothesis =>
      have below : (root :: above).any isFault = true := by
        rw [List.any_cons, fault, Bool.or_true]
      rw [faultsUnder_eq, fault, Bool.not_true, Bool.and_false, List.append_eq_nil_iff]
      constructor
      · rfl
      · apply List.flatMap_eq_nil_iff.mpr
        intro child member
        exact inductionHypothesis child member below

/-- Where no node above a tree is a fault, those nodes do not matter. -/
theorem faultsUnder_of_clear {above : List Node} (clear : above.any isFault = false) (root : Node) :
    root.faultsUnder above = root.outermostFaults := by
  induction root using induct generalizing above with
  | step root inductionHypothesis =>
      unfold outermostFaults
      rw [faultsUnder_eq above, faultsUnder_eq [], clear, List.any_nil]
      congr 1
      apply List.flatMap_congr
      intro child member
      cases fault : root.isFault with
      | true =>
          rw [faultsUnder_of_fault (by simp [fault]), faultsUnder_of_fault (by simp [fault])]
      | false =>
          rw [inductionHypothesis child member (by simp [fault, clear]),
            inductionHypothesis child member (by simp [fault])]

/-- A fault stands for all below it, and else the outermost faults are those of the children. -/
theorem outermostFaults_eq (root : Node) :
    root.outermostFaults =
      if root.isFault then [root] else root.children.flatMap outermostFaults := by
  rw [outermostFaults, faultsUnder_eq, List.any_nil, Bool.not_false, Bool.and_true]
  cases fault : root.isFault with
  | true =>
      have nothing : root.children.flatMap (faultsUnder [root]) = [] :=
        List.flatMap_eq_nil_iff.mpr fun child _ => faultsUnder_of_fault (by simp [fault]) child
      simp [nothing]
  | false =>
      have same : root.children.flatMap (faultsUnder [root]) =
          root.children.flatMap outermostFaults :=
        List.flatMap_congr fun child _ => faultsUnder_of_clear (by simp [fault]) child
      simp [same]

theorem hasError_eq (root : Node) :
    root.hasError = (root.isFault || root.children.any hasError) := by
  have all (nodes : List Node) : anyError nodes = nodes.any hasError := by
    induction nodes with
    | nil => rfl
    | cons first rest inductionHypothesis =>
        rw [anyError, inductionHypothesis, List.any_cons]
  cases root
  rw [hasError, all, isFault]

/-- There is an outermost fault exactly if there is a fault. -/
theorem outermostFaults_eq_nil_iff {root : Node} :
    root.outermostFaults = [] ↔ root.hasError = false := by
  induction root using induct with
  | step root inductionHypothesis =>
      rw [outermostFaults_eq, hasError_eq]
      cases fault : root.isFault with
      | true => simp
      | false =>
          simp only [Bool.false_eq_true, if_false, Bool.false_or, List.flatMap_eq_nil_iff,
            List.any_eq_false, Bool.not_eq_true]
          constructor
          · intro none child member
            exact (inductionHypothesis child member).mp (none child member)
          · intro none child member
            exact (inductionHypothesis child member).mpr (none child member)

/-- The children without a fault may be passed over. -/
theorem flatMap_flawed (root : Node) :
    root.flawed.flatMap outermostFaults = root.children.flatMap outermostFaults := by
  unfold flawed
  induction root.children with
  | nil => rfl
  | cons first rest inductionHypothesis =>
      rw [List.filter_cons]
      cases flaw : first.hasError with
      | true => simp [inductionHypothesis]
      | false => simp [inductionHypothesis, outermostFaults_eq_nil_iff.mpr flaw]

end Lectern.Syntax.Node

namespace Lectern.Module

open Lectern.Syntax

/-! ## The search -/

/-- What a search finds from a stack on: the outermost faults of the trees on it, as many as there is
still room for. -/
theorem searchFaults_eq (source : ByteArray) (found : List Diagnostic) (later : List Node) :
    searchFaults source found later = found ++
      ((later.flatMap Node.outermostFaults).take (maxSyntaxErrors - found.length)).map
        (faultDiagnostic source) := by
  induction found, later using searchFaults.induct source with
  | case1 found => simp [searchFaults]
  | case2 found node later room fault inductionHypothesis =>
      have left : maxSyntaxErrors - found.length =
          maxSyntaxErrors - (found ++ [faultDiagnostic source node]).length + 1 := by
        rw [List.length_append, List.length_singleton]
        omega
      rw [searchFaults, if_pos room, if_pos fault, inductionHypothesis, List.flatMap_cons,
        Node.outermostFaults_eq, if_pos fault, left]
      simp
  | case3 found node later room intact inductionHypothesis =>
      rw [searchFaults, if_pos room, if_neg intact, inductionHypothesis, List.flatMap_append,
        Node.flatMap_flawed, List.flatMap_cons, Node.outermostFaults_eq, if_neg intact]
  | case4 found node later full =>
      have none : maxSyntaxErrors - found.length = 0 := by omega
      rw [searchFaults, if_neg full, none]
      simp

/-! ## The check -/

/-- A diagnostic of something that does not parse. -/
inductive Diagnostic.OfParse : Diagnostic → Prop
  | missing (place : Position) (what : String) : OfParse (.missing place what)
  | unexpected (place : Position) (token : String) : OfParse (.unexpected place token)

theorem ofParse_faultDiagnostic (source : ByteArray) (node : Node) :
    (faultDiagnostic source node).OfParse := by
  unfold faultDiagnostic
  split
  · exact .missing _ _
  · exact .unexpected _ _

theorem not_ofParse_resolutionDiagnostics {source : ByteArray} {root : Node} {diagnostic : Diagnostic}
    (reported : diagnostic ∈ resolutionDiagnostics source root) : ¬ diagnostic.OfParse := by
  rcases List.mem_append.mp reported with unresolved | lacking
  · obtain ⟨_, _, rfl⟩ := List.mem_map.mp unresolved
    intro ofParse
    cases ofParse
  · split at lacking
    next => cases lacking
    next =>
      rw [List.mem_singleton.mp lacking]
      intro ofParse
      cases ofParse

/-- A check fails because of something that does not parse. -/
def FailsToParse (result : Except CompileFault ByteArray) : Prop :=
  ∃ diagnostics, result = .error (.rejected diagnostics) ∧
    ∃ diagnostic ∈ diagnostics, diagnostic.OfParse

theorem treeDiagnostics_eq (source : ByteArray) (root : Node) :
    treeDiagnostics source root =
      (root.outermostFaults.take maxSyntaxErrors).map (faultDiagnostic source) := by
  rw [treeDiagnostics, searchFaults_eq]
  simp

theorem treeDiagnostics_eq_nil_iff {source : ByteArray} {root : Node} :
    treeDiagnostics source root = [] ↔ root.hasError = false := by
  rw [treeDiagnostics_eq, List.map_eq_nil_iff, List.take_eq_nil_iff, Node.outermostFaults_eq_nil_iff]
  simp [maxSyntaxErrors]

/-- A tree with a fault fails the check for what does not parse in it and nothing else. -/
theorem checkTree_of_hasError {source : ByteArray} {root : Node} (faulty : root.hasError = true) :
    checkTree source root = .error (.rejected (treeDiagnostics source root)) := by
  unfold checkTree
  split
  next none =>
    rw [treeDiagnostics_eq_nil_iff, faulty] at none
    cases none
  next => rfl

/-- A tree without a fault does not fail the check for anything that does not parse. -/
theorem not_failsToParse_checkTree {source : ByteArray} {root : Node} (sound : root.hasError = false) :
    ¬ FailsToParse (checkTree source root) := by
  rintro ⟨diagnostics, fails, diagnostic, reported, ofParse⟩
  unfold checkTree at fails
  rw [treeDiagnostics_eq_nil_iff.mpr sound] at fails
  simp only at fails
  split at fails
  next => cases fails
  next =>
    cases fails
    exact not_ofParse_resolutionDiagnostics reported ofParse

theorem failsToParse_checkTree_iff {source : ByteArray} {root : Node} :
    FailsToParse (checkTree source root) ↔ root.hasError = true := by
  constructor
  · intro fails
    by_contra sound
    exact not_failsToParse_checkTree (Bool.eq_false_iff.mpr sound) fails
  · intro faulty
    have some : treeDiagnostics source root ≠ [] := by
      rw [Ne, treeDiagnostics_eq_nil_iff, faulty]
      exact Bool.noConfusion
    obtain ⟨diagnostic, reported⟩ := List.exists_mem_of_ne_nil _ some
    refine ⟨_, checkTree_of_hasError faulty, diagnostic, reported, ?_⟩
    rw [treeDiagnostics_eq] at reported
    obtain ⟨node, _, rfl⟩ := List.mem_map.mp reported
    exact ofParse_faultDiagnostic source node

/-- A source fails the check for what does not parse exactly if it is read into no tree without a
fault. -/
theorem failsToParse_check_iff {text : String} :
    FailsToParse (check text) ↔ ∀ tree, parse text.toUTF8 = .ok tree → tree.hasError = true := by
  cases read : parse text.toUTF8 with
  | error offset =>
      have fails : check text = .error (.rejected [unreadDiagnostic text.toUTF8 offset]) := by
        simp only [check, read]
      refine iff_of_true ⟨_, fails, _, List.mem_singleton_self _, .unexpected _ _⟩ ?_
      intro tree found
      cases found
  | ok tree =>
      have goesOn : check text = checkTree text.toUTF8 tree := by
        simp only [check, read]
      rw [goesOn, failsToParse_checkTree_iff]
      constructor
      · intro faulty other same
        cases same
        exact faulty
      · intro faulty
        exact faulty tree rfl

/-- What is reported of a tree are its first faults that have no fault above them, in document order.
Nothing is reported exactly if the tree has no fault, and so the check fails because of something that
does not parse exactly if there is a fault. -/
theorem outermost_faults_reported (source : ByteArray) (root : Node) :
    treeDiagnostics source root =
        (root.outermostFaults.take maxSyntaxErrors).map (faultDiagnostic source) ∧
      root.outermostFaults.Sublist root.preorder ∧
      (treeDiagnostics source root = [] ↔ root.hasError = false) ∧
      (FailsToParse (checkTree source root) ↔ root.hasError = true) ∧
      ∀ text, FailsToParse (check text) ↔
        ∀ tree, parse text.toUTF8 = .ok tree → tree.hasError = true :=
  ⟨treeDiagnostics_eq source root, root.outermostFaults_sublist, treeDiagnostics_eq_nil_iff,
    failsToParse_checkTree_iff, fun _ => failsToParse_check_iff⟩

end Lectern.Module
