/-
Module: Lectern.Proofs.Repair.Idempotence
Purpose: What each fix leaves to itself and to the fixes before it, and from that when repairing a
  repaired source changes it again: only where an export was added behind a fence that was open at
  the end.
Trusted boundary: none
Main exports: bindsFirst_bindMembers, exportLastComponent_cases, repair_idempotent_iff
-/
import Lectern.Proofs.Repair.Components
import Lectern.Proofs.Repair.Fences
import Lectern.Repair.Propose

namespace Lectern.Repair

open Lectern.Text

/-! ## Bindings -/

/-- A name that a binding statement lists as it is: no blanks around it and no comma in it. -/
structure Listed (name : String) : Prop where
  filled : name.toList ≠ []
  trimmed : trim name.toList = name.toList
  fits : ∀ c ∈ name.toList, isListChar c = true ∧ c ≠ ','

private theorem splitOn_intercalate {white : List Char} (blank : ∀ c ∈ white, c = ' ')
    {names : List (List Char)} (some : names ≠ [])
    (whole : ∀ name ∈ names, ∀ c ∈ name, (c == ',') = false) :
    (splitOn (· == ',') (white ++ [',', ' '].intercalate names)).map trim = names.map trim := by
  induction names generalizing white with
  | nil => exact absurd rfl some
  | cons name names inductionHypothesis =>
      obtain ⟨first, whole⟩ := List.forall_mem_cons.mp whole
      have spaces : ∀ c ∈ white, (c == ',') = false := fun c held => by rw [blank c held]; decide
      have unspaced : trim (white ++ name) = trim name :=
        trimWhile_append_of_all_left fun c held => by rw [blank c held]; decide
      have joined : ∀ c ∈ white ++ name, (c == ',') = false :=
        List.forall_mem_append.mpr ⟨spaces, first⟩
      cases names with
      | nil => simp [splitOn_of_forall joined, unspaced]
      | cons next names =>
          rw [List.intercalate_cons_cons, show white ++ (name ++ [',', ' '] ++
              [',', ' '].intercalate (next :: names)) = (white ++ name) ++
                ',' :: ([' '] ++ [',', ' '].intercalate (next :: names)) by simp,
            splitOn_append_cons joined (by decide), List.map_cons, unspaced]
          rw [inductionHypothesis (by simp) (List.cons_ne_nil _ _) whole, List.map_cons (a := name)]

theorem listedNames_intercalate {names : List String} (listed : ∀ name ∈ names, Listed name) :
    listedNames (", ".intercalate names).toList = names := by
  cases names with
  | nil => rfl
  | cons name names =>
      have whole : ∀ piece ∈ (name :: names).map String.toList, ∀ c ∈ piece,
          (c == ',') = false := by
        intro piece member c held
        obtain ⟨name, given, rfl⟩ := List.mem_map.mp member
        simpa using ((listed name given).fits c held).2
      have unblank : ∀ c ∈ ([] : List Char), c = ' ' := List.forall_mem_nil _
      have pieces := splitOn_intercalate unblank
        (by simp : (name :: names).map String.toList ≠ []) whole
      rw [List.nil_append] at pieces
      rw [listedNames, String.toList_intercalate]
      change (((splitOn (· == ',') ([',', ' '].intercalate _)).map trim).filter _).map _ = _
      rw [pieces, List.map_map]
      have same : (name :: names).map (trim ∘ String.toList) = (name :: names).map String.toList :=
        List.map_congr_left fun name member => (listed name member).trimmed
      rw [same, List.filter_eq_self.mpr]
      · simp [Function.comp_def]
      · intro piece member
        obtain ⟨name, given, rfl⟩ := List.mem_map.mp member
        simpa using (listed name given).filled

/-- The characters of a list of names that a binding statement gives. -/
private theorem mem_intercalate {names : List String} {c : Char}
    (listed : ∀ name ∈ names, Listed name) (member : c ∈ (", ".intercalate names).toList) :
    isListChar c = true := by
  induction names with
  | nil => simp at member
  | cons name names inductionHypothesis =>
      obtain ⟨first, listed⟩ := List.forall_mem_cons.mp listed
      rw [String.toList_intercalate, List.map_cons] at member
      cases names with
      | nil => exact (first.fits c (by simpa using member)).1
      | cons next names =>
          rw [List.map_cons, List.intercalate_cons_cons, List.append_assoc, List.mem_append,
            List.mem_append] at member
          rcases member with here | between | later
          · exact (first.fits c here).1
          · have : c = ',' ∨ c = ' ' := by simpa using between
            rcases this with rfl | rfl <;> decide
          · exact inductionHypothesis listed (by
              rwa [String.toList_intercalate, List.map_cons])

/-- The list in a line that binds names: the line reads as a binding statement, blanks aside. -/
theorem bindingList?_eq_some_iff {line list : List Char} : bindingList? line = some list ↔
    trim line = "const \x7b ".toList ++ list ++ (" \x7d = " ++ Module.hostObject ++ ";").toList ∧
      ∀ c ∈ list, isListChar c = true := by
  unfold bindingList?
  generalize (" \x7d = " ++ Module.hostObject ++ ";").toList = behind
  simp only [Option.bind_eq_bind, Option.bind_eq_some_iff, after?_eq_some_iff]
  constructor
  · rintro ⟨inside, opens, closes⟩
    split at closes
    next => cases closes
    next reads =>
      simp only [Bool.or_eq_true, decide_eq_true_eq, bne_iff_ne, not_or, Nat.not_lt,
        Classical.not_not] at reads
      split at closes
      next fits =>
        cases closes
        have split := List.take_append_drop (inside.length - behind.length) inside
        rw [reads.2] at split
        exact ⟨by rw [opens, List.append_assoc, split], List.all_eq_true.mp fits⟩
      next => cases closes
  · rintro ⟨opens, fits⟩
    refine ⟨list ++ behind, by rw [opens, List.append_assoc], ?_⟩
    simp [List.all_eq_true.mpr fits]

theorem bindingList?_bindingStatement {names : List String} (listed : ∀ name ∈ names, Listed name) :
    bindingList? (Module.bindingStatement names).toList =
      some (", ".intercalate names).toList := by
  refine bindingList?_eq_some_iff.mpr ⟨?_, fun c => mem_intercalate listed⟩
  have spelled : (Module.bindingStatement names).toList = "const \x7b ".toList ++
      (", ".intercalate names).toList ++ (" \x7d = " ++ Module.hostObject ++ ";").toList := by
    simp [Module.bindingStatement]
  rw [← spelled]
  refine trimWhile_eq_self ?_ ?_
  · rw [spelled]
    simp
    decide
  · rw [spelled, List.getLast?_append_of_ne_nil _ (by simp)]
    simp [Module.hostObject]
    decide

/-- What a text binds in its first line. -/
def BindsFirst (names : List String) (text : List Char) : Prop :=
  ∃ list, bindingList? (text.takeWhile (· != '\n')) = some list ∧
    ∀ name ∈ names, name ∈ listedNames list

theorem listed_of_mem_listedNames {list : List Char} (fits : ∀ c ∈ list, isListChar c = true)
    {name : String} (member : name ∈ listedNames list) : Listed name := by
  obtain ⟨_, listed, rfl⟩ := List.mem_map.mp member
  obtain ⟨trimmed, filled⟩ := List.mem_filter.mp listed
  obtain ⟨piece, held, rfl⟩ := List.mem_map.mp trimmed
  have inside : ∀ c ∈ trim piece, isListChar c = true ∧ c ≠ ',' := fun c there => by
    obtain ⟨covered, apart⟩ := mem_splitOn held c ((trimWhile_isInfix _ piece).subset there)
    exact ⟨fits c covered, by simpa using apart⟩
  refine ⟨by simpa using filled, ?_, by simpa using inside⟩
  rw [String.toList_ofList]
  exact trimWhile_eq_self trimWhile_ends.1 trimWhile_ends.2

/-- Each of some names is kept once. -/
private theorem foldl_distinct (asked : List String) {kept : List String} (distinct : kept.Nodup) :
    let all := asked.foldl
      (fun kept name => if kept.contains name then kept else kept ++ [name]) kept
    all.Nodup ∧ ∀ name, name ∈ all ↔ name ∈ kept ∨ name ∈ asked := by
  induction asked generalizing kept with
  | nil => simp [distinct]
  | cons first asked inductionHypothesis =>
      rw [List.foldl_cons]
      split
      next known =>
        have known := List.contains_iff_mem.mp known
        refine ⟨(inductionHypothesis distinct).1, fun name => ?_⟩
        rw [(inductionHypothesis distinct).2, List.mem_cons]
        by_cases same : name = first
        · simp [same, known]
        · simp [same]
      next new =>
        rw [List.contains_iff_mem] at new
        have further : (kept ++ [first]).Nodup := by
          apply List.nodup_append.mpr ⟨distinct, by simp, ?_⟩
          intro name held other only same
          rw [List.mem_singleton] at only
          exact new (only ▸ same ▸ held)
        refine ⟨(inductionHypothesis further).1, fun name => ?_⟩
        rw [(inductionHypothesis further).2, List.mem_append, List.mem_singleton, List.mem_cons,
          or_assoc]

theorem nodup_wantedMembers (names : List String) : (wantedMembers names).Nodup :=
  (foldl_distinct _ List.nodup_nil).1

theorem mem_wantedMembers {names : List String} {name : String} :
    name ∈ wantedMembers names ↔ name ∈ names ∧ Module.isUnboundMember name = true := by
  rw [wantedMembers, (foldl_distinct _ List.nodup_nil).2, List.mem_filter]
  simp

theorem mem_libraryMembers {name : String} (unbound : Module.isUnboundMember name = true) :
    name ∈ Module.libraryMembers := by
  rw [Module.isUnboundMember, Bool.and_eq_true] at unbound
  exact List.contains_iff_mem.mp unbound.1

theorem mem_library_of_mem_wantedMembers {names : List String} {name : String}
    (member : name ∈ wantedMembers names) : name ∈ Module.libraryMembers :=
  mem_libraryMembers (mem_wantedMembers.mp member).2

theorem listed_of_mem_wantedMembers {names : List String} {name : String}
    (member : name ∈ wantedMembers names) : Listed name := by
  have every : ∀ name ∈ Module.libraryMembers, name.toList ≠ [] ∧ trim name.toList = name.toList ∧
      (name.toList.all fun c => decide (isListChar c = true ∧ c ≠ ',')) = true := by decide +kernel
  obtain ⟨filled, trimmed, fits⟩ := every name (mem_library_of_mem_wantedMembers member)
  exact ⟨filled, trimmed, forall_mem_of_all fits⟩

theorem mem_sorted {names : List String} {name : String} : name ∈ sorted names ↔ name ∈ names :=
  List.mem_mergeSort

theorem nodup_sorted {names : List String} (once : names.Nodup) : (sorted names).Nodup :=
  (List.mergeSort_perm names _).nodup_iff.mpr once

theorem bindMembers_eq_self {names : List String} {source : String}
    (binds : wantedMembers names = [] ∨ BindsFirst (wantedMembers names) source.toList) :
    bindMembers names source = source := by
  unfold bindMembers
  rcases binds with none | ⟨list, reads, bound⟩
  · simp [none]
  · have nothing : (wantedMembers names).filter (fun name => !(listedNames list).contains name) =
        [] := by simpa using bound
    simp only [reads, nothing, sorted, List.mergeSort_nil, List.isEmpty_nil, if_true, ite_self]

/-- Which names a statement binds that comes to the front of a source, and what stands behind it. It
stands on a line of its own, or it takes the place of the statement on the first line and keeps what
that binds. -/
inductive Rebinds (wanted : List String) (source : List Char) : List String → List Char → Prop
  | newLine (unbound : bindingList? (source.takeWhile (· != '\n')) = none) :
      Rebinds wanted source (sorted wanted) ('\n' :: source)
  | sameLine {list : List Char} (reads : bindingList? (source.takeWhile (· != '\n')) = some list) :
      Rebinds wanted source
        (listedNames list ++ sorted (wanted.filter fun name => !(listedNames list).contains name))
        (source.dropWhile (· != '\n'))

/-- What is behind a first line starts with the end of that line. -/
theorem eq_newline_of_dropWhile {source : List Char} {c : Char}
    (first : c ∈ (source.dropWhile (· != '\n')).head?) : c = '\n' := by
  have stops := List.head?_dropWhile_not (· != '\n') source
  rw [Option.mem_def.mp first] at stops
  simpa using stops

namespace Rebinds

variable {wanted bound : List String} {source behind : List Char}

theorem listed (rebinds : Rebinds wanted source bound behind)
    (members : ∀ name ∈ wanted, Listed name) : ∀ name ∈ bound, Listed name := by
  cases rebinds with
  | newLine => exact fun name member => members name (mem_sorted.mp member)
  | sameLine reads =>
      obtain ⟨_, fits⟩ := bindingList?_eq_some_iff.mp reads
      intro name member
      rcases List.mem_append.mp member with known | missing
      · exact listed_of_mem_listedNames fits known
      · exact members name (List.mem_filter.mp (mem_sorted.mp missing)).1

theorem covers (rebinds : Rebinds wanted source bound behind) : ∀ name ∈ wanted, name ∈ bound := by
  intro name member
  cases rebinds with
  | newLine => exact mem_sorted.mpr member
  | @sameLine list reads =>
      rw [List.mem_append, mem_sorted, List.mem_filter]
      by_cases known : name ∈ listedNames list
      · exact .inl known
      · exact .inr ⟨member, by simpa using known⟩

theorem newline (rebinds : Rebinds wanted source bound behind) : ∀ c ∈ behind.head?, c = '\n' := by
  intro c first
  cases rebinds with
  | newLine => exact (Option.some.inj first).symm
  | sameLine reads => exact eq_newline_of_dropWhile first

theorem fenced (rebinds : Rebinds wanted source bound behind) :
    fencedPart? behind = fencedPart? source := by
  cases rebinds with
  | newLine => exact fencedPart?_append (by decide : '\x60' ∉ ['\n'])
  | sameLine reads =>
      obtain ⟨line, fits⟩ := bindingList?_eq_some_iff.mp reads
      -- A line that binds names has no fence.
      have unmarked : '\x60' ∉ source.takeWhile (· != '\n') := by
        intro mark
        have held := mem_trimWhile_of_mem mark (by decide : isBlank '\x60' = false)
        change _ ∈ trim _ at held
        rw [line] at held
        have plain : '\x60' ∉ "const \x7b ".toList ∧
            '\x60' ∉ (" \x7d = " ++ Module.hostObject ++ ";").toList := by decide
        simp only [List.mem_append, plain, or_false, false_or] at held
        exact absurd (fits _ held) (by decide)
      rw [← fencedPart?_append unmarked, List.takeWhile_append_dropWhile]

end Rebinds

/-- A source in which names are bound either binds them in its first line already, or a statement that
binds them comes to its front. -/
theorem bindMembers_cases (names : List String) (source : String) :
    (bindMembers names source = source ∧
        (wantedMembers names = [] ∨ BindsFirst (wantedMembers names) source.toList)) ∨
      ∃ bound behind, Rebinds (wantedMembers names) source.toList bound behind ∧
        (bindMembers names source).toList = (Module.bindingStatement bound).toList ++ behind := by
  by_cases none : wantedMembers names = []
  · exact .inl ⟨bindMembers_eq_self (.inl none), .inl none⟩
  have asked : (wantedMembers names).isEmpty = false := by simpa using none
  cases reads : bindingList? (source.toList.takeWhile (· != '\n')) with
  | none => exact .inr ⟨_, _, .newLine reads, by simp [bindMembers, asked, reads]⟩
  | some list =>
      by_cases nothing : (wantedMembers names).filter
          (fun name => !(listedNames list).contains name) = []
      · have binds : BindsFirst (wantedMembers names) source.toList :=
          ⟨list, reads, by simpa using nothing⟩
        exact .inl ⟨bindMembers_eq_self (.inr binds), .inr binds⟩
      · have missing : (sorted ((wantedMembers names).filter
            fun name => !(listedNames list).contains name)).isEmpty = false := by
          rw [List.isEmpty_eq_false_iff, Ne, ← List.perm_nil]
          exact fun empty => nothing ((List.mergeSort_perm _ _).symm.trans empty).eq_nil
        refine .inr ⟨_, _, .sameLine reads, ?_⟩
        simp only [bindMembers, asked, reads, missing, Bool.false_eq_true, if_false,
          String.toList_append, String.toList_ofList]

/-- The characters of a binding statement are those of its list and of what stands around it. -/
theorem mem_bindingStatement {names : List String} {c : Char}
    (listed : ∀ name ∈ names, Listed name) (member : c ∈ (Module.bindingStatement names).toList) :
    isListChar c = true ∨ c ∈ "const \x7b \x7d = React;".toList := by
  have spelled : (Module.bindingStatement names).toList = "const \x7b ".toList ++
      (", ".intercalate names).toList ++ " \x7d = React;".toList := by
    simp [Module.bindingStatement, Module.hostObject]
  have around : "const \x7b ".toList ⊆ "const \x7b \x7d = React;".toList ∧
      " \x7d = React;".toList ⊆ "const \x7b \x7d = React;".toList := by decide
  rw [spelled, List.mem_append, List.mem_append] at member
  rcases member with (opens | inside) | closes
  · exact .inr (around.1 opens)
  · exact .inl (mem_intercalate listed inside)
  · exact .inr (around.2 closes)

theorem fencedPart?_bindMembers (names : List String) (source : String) :
    fencedPart? (bindMembers names source).toList = fencedPart? source.toList := by
  rcases bindMembers_cases names source with ⟨same, _⟩ | ⟨bound, behind, rebinds, spelled⟩
  · rw [same]
  · have listed := rebinds.listed fun _ => listed_of_mem_wantedMembers
    rw [spelled, fencedPart?_append, rebinds.fenced]
    exact fun mark => absurd (mem_bindingStatement listed mark) (by decide)

/-- A binding statement in front of a text that goes on in the next line is the first line. -/
theorem firstLine_bindingStatement {names : List String} (listed : ∀ name ∈ names, Listed name)
    {behind : List Char} (newline : ∀ c ∈ behind.head?, c = '\n') :
    ((Module.bindingStatement names).toList ++ behind).takeWhile (· != '\n') =
        (Module.bindingStatement names).toList ∧
      ((Module.bindingStatement names).toList ++ behind).dropWhile (· != '\n') = behind := by
  have line : ∀ c ∈ (Module.bindingStatement names).toList, (c != '\n') = true := by
    intro c held
    rw [bne_iff_ne]
    rintro rfl
    exact absurd (mem_bindingStatement listed held) (by decide)
  have stops : behind.takeWhile (· != '\n') = [] ∧ behind.dropWhile (· != '\n') = behind := by
    cases behind with
    | nil => exact ⟨rfl, rfl⟩
    | cons c rest => simp [newline c rfl]
  rw [List.takeWhile_append_of_pos line, List.dropWhile_append_of_pos line, stops.1, stops.2]
  exact ⟨List.append_nil _, rfl⟩

theorem bindsFirst_bindMembers (names : List String) (source : String) :
    wantedMembers names = [] ∨
      BindsFirst (wantedMembers names) (bindMembers names source).toList := by
  rcases bindMembers_cases names source with ⟨same, binds⟩ | ⟨bound, behind, rebinds, spelled⟩
  · rwa [same]
  · have listed := rebinds.listed fun _ => listed_of_mem_wantedMembers
    refine .inr ⟨(", ".intercalate bound).toList, ?_, ?_⟩
    · rw [spelled, (firstLine_bindingStatement listed rebinds.newline).1,
        bindingList?_bindingStatement listed]
    · rw [listedNames_intercalate listed]
      exact rebinds.covers

/-- What a text binds in its first line stays bound there when lines are added at its end. -/
theorem BindsFirst.trimRight_append {names : List String} {text : List Char}
    (binds : BindsFirst names text) (more : List Char) :
    BindsFirst names (trimRight text ++ '\n' :: more) := by
  obtain ⟨list, reads, bound⟩ := binds
  obtain ⟨line, fits⟩ := bindingList?_eq_some_iff.mp reads
  refine ⟨list, bindingList?_eq_some_iff.mpr ⟨?_, fits⟩, bound⟩
  rw [← line]
  obtain ⟨⟨tail, blank, split⟩, _⟩ := dropEndWhile_eq_iff.mp (rfl : trimRight text = _)
  -- The first line may be the one that loses blanks at its end.
  conv_rhs => rw [split]
  rw [List.takeWhile_append, List.takeWhile_append]
  split
  next =>
    rw [List.takeWhile_cons_of_neg (by simp), List.append_nil]
    refine (trimWhile_append_of_all fun c held => ?_).symm
    exact blank c ((List.takeWhile_prefix _).subset held)
  next => rfl

/-! ## Exports -/

/-- The names of components hold no mark of a fence. -/
theorem plain_of_lastComponent? {text : List Char} {name : String}
    (last : lastComponent? text = some name) : '\x60' ∉ name.toList := by
  obtain ⟨_, _, _, _, stands, _⟩ := declares_of_lastComponent? last
  exact fun mark => absurd (stands.whole '\x60' mark) (by decide)

/-- The line that exports a name as the default. -/
def exportLine (name : String) : List Char := ("export default " ++ name ++ ";\n").toList

/-- A source stays as it is when the last component is to be exported, or an export of some name is
added at its end. -/
theorem exportLastComponent_cases (source : String) :
    exportLastComponent source = source ∨
      ∃ name : String, lastComponent? source.toList = some name ∧
        (exportLastComponent source).toList =
          trimRight source.toList ++ '\n' :: '\n' :: exportLine name := by
  cases last : lastComponent? source.toList with
  | none => exact .inl (by simp [exportLastComponent, last])
  | some name =>
      simp only [exportLastComponent, last]
      split
      next => exact .inl rfl
      next => exact .inr ⟨name, rfl, by simp [exportLine]⟩

theorem exportLastComponent_exported {source name : String} {text : List Char}
    (exported : source.toList = text ++ '\n' :: '\n' :: exportLine name) :
    exportLastComponent source = source := by
  have found : (Spot.first? exportsDefault source.toList).isSome = true := by
    rw [Option.isSome_iff_ne_none, Ne, Spot.first?_eq_none_iff]
    intro nowhere
    have here := nowhere (text ++ ['\n', '\n']) (exportLine name) (by simp [exported])
    have first : (text ++ ['\n', '\n']).reverse.takeWhile (· != '\n') = [] := by
      rw [List.reverse_append]
      rfl
    have line : exportLine name = "export default ".toList ++ (name ++ ";\n").toList := by
      simp [exportLine]
    have past (rest : List Char) : (afterKeyword? "export" ("export default ".toList ++ rest)).bind
        (after? "default".toList) = some (' ' :: rest) := rfl
    have edge : isWordChar ' ' = false := by decide
    rw [exportsDefault, Spot.between, first, line, past] at here
    simp only [List.all_nil, Bool.true_and, closesWord, edge] at here
    cases here
  rw [exportLastComponent, if_pos found]

private theorem plain_exportLine {name : String} (plain : '\x60' ∉ name.toList) :
    '\x60' ∉ exportLine name := by
  simp [exportLine, plain]

/-- What becomes of the first fence of a source when a default export is added: the export is taken
out of a block if that was open at the end, and else nothing is. -/
theorem nothingFenced_exported {text : List Char} {name : String} (plain : '\x60' ∉ name.toList)
    (nothing : NothingFenced text) :
    NothingFenced (trimRight text ++ '\n' :: '\n' :: exportLine name) ↔ ¬ EndsInFence text := by
  have starts : (exportLine name).head? = some 'e' := by simp [exportLine]
  have cases := fencedPart?_trimRight_append (plain_exportLine plain) (by simp [starts]) nothing
  simp only [← fencedPart?_eq_some_nil_iff, NothingFenced] at cases ⊢
  rcases cases with ⟨before, after⟩ | ⟨before, after⟩ | ⟨⟨_, before⟩, _, after⟩
  · simp [before, after]
  · simp only [before, after, Option.some.injEq, forall_eq', not_true_eq_false, iff_false, not_or]
    refine ⟨fun empty => ?_, fun mark => plain_exportLine plain (mark.subset (by decide))⟩
    rw [empty] at starts
    cases starts
  · simp [before, after, fence]

theorem unfenced_exportLastComponent {source : String} (unfenced : ¬ fence <:+: source.toList) :
    ¬ fence <:+: (exportLastComponent source).toList := by
  rcases exportLastComponent_cases source with same | ⟨name, last, spelled⟩
  · rwa [same]
  · have plain := plain_of_lastComponent? last
    rw [spelled, fence_infix_append_iff_left (by simpa using plain_exportLine plain)]
    exact fun held => unfenced (held.trans (List.rdropWhile_prefix isBlank _).isInfix)

/-! ## Repairs -/

/-- What comes of a source when a rule is applied to it, if a diagnostic asks for that. -/
def Rule.applied (errors : List String) (rule : Rule) (source : String) : String :=
  if rule.isTriggered errors then rule.fix errors source else source

theorem Patch.apply_eq (errors : List String) (patch : Patch) (rule : Rule) :
    patch.apply errors rule = ⟨rule.applied errors patch.source,
      patch.rules ++ if rule.applied errors patch.source = patch.source then [] else [rule]⟩ := by
  unfold Patch.apply Rule.applied
  split
  next =>
    by_cases same : rule.fix errors patch.source = patch.source
    · simp [same]
    · simp [same]
  next => simp

section

variable (source : String) (errors : List String)

/-- A source as far as the rule that takes it out of its fenced block goes. -/
def unfencedSource : String := Rule.stripFence.applied errors source

/-- A source as far as the rule that binds members of the UI library goes. -/
def boundSource : String := Rule.bindHostMembers.applied errors (unfencedSource source errors)

/-- A source as all rules leave it. -/
def exportedSource : String := Rule.addDefaultExport.applied errors (boundSource source errors)

/-- The rules that change a source when all are applied to it in turn. -/
def changingRules : List Rule :=
  (if unfencedSource source errors = source then [] else [.stripFence]) ++
  (if boundSource source errors = unfencedSource source errors then [] else [.bindHostMembers]) ++
  (if exportedSource source errors = boundSource source errors then [] else [.addDefaultExport])

theorem propose_eq : propose source errors = if (changingRules source errors).isEmpty then none else
    some ⟨exportedSource source errors, changingRules source errors⟩ := by
  simp only [propose, Rule.all, List.foldl_cons, List.foldl_nil, Patch.apply_eq, List.nil_append]
  rfl

theorem propose_eq_none_iff : propose source errors = none ↔
    unfencedSource source errors = source ∧
      boundSource source errors = unfencedSource source errors ∧
        exportedSource source errors = boundSource source errors := by
  simp [propose_eq, changingRules]

theorem repair_eq : repair source errors = exportedSource source errors := by
  cases proposed : propose source errors with
  | none =>
      obtain ⟨first, second, third⟩ := (propose_eq_none_iff source errors).mp proposed
      rw [repair, proposed, third, second, first]
  | some patch =>
      rw [propose_eq, Option.ite_none_left_eq_some] at proposed
      rw [repair, propose_eq, if_neg proposed.1]

/-- A repair of a source adds a default export to it. -/
def AddsExport : Prop :=
  ∃ patch, propose source errors = some patch ∧ .addDefaultExport ∈ patch.rules

theorem addsExport_iff :
    AddsExport source errors ↔ exportedSource source errors ≠ boundSource source errors := by
  have member : .addDefaultExport ∈ changingRules source errors ↔
      exportedSource source errors ≠ boundSource source errors := by
    simp [changingRules]
  rw [← member, AddsExport]
  simp only [propose_eq, Option.ite_none_left_eq_some]
  constructor
  · rintro ⟨patch, ⟨_, same⟩, held⟩
    rwa [← Option.some.inj same] at held
  · intro held
    refine ⟨_, ⟨fun empty => ?_, rfl⟩, held⟩
    rw [List.isEmpty_iff.mp empty] at held
    cases held

variable {source errors}

/-- A source is settled if no rule changes it: then it is its own repair. -/
theorem settled_iff : propose source errors = none ↔
    ∀ rule : Rule, rule.applied errors source = source := by
  rw [propose_eq_none_iff, exportedSource, boundSource, unfencedSource]
  constructor
  · rintro ⟨first, second, third⟩ rule
    rw [first] at second third
    rw [second] at third
    cases rule <;> assumption
  · intro settled
    simp only [settled, true_and]

theorem repair_of_settled (settled : propose source errors = none) :
    repair source errors = source := by
  rw [repair, settled]

end

/-! ## Repairing a repaired source -/

variable {source : String} {errors : List String}

/-- A missing default export asks for the fence to be looked at, too. -/
theorem stripFence_of_addDefaultExport (triggered : Rule.addDefaultExport.isTriggered errors = true) :
    Rule.stripFence.isTriggered errors = true := by
  obtain ⟨message, held, lacks⟩ := List.any_eq_true.mp triggered
  exact List.any_eq_true.mpr ⟨message, held, by rw [lacks, Bool.or_true]⟩

theorem fencedPart?_boundSource : fencedPart? (boundSource source errors).toList =
    fencedPart? (unfencedSource source errors).toList := by
  unfold boundSource Rule.applied
  split
  next => exact fencedPart?_bindMembers _ _
  next => rfl

theorem nothingFenced_boundSource (triggered : Rule.stripFence.isTriggered errors = true) :
    NothingFenced (boundSource source errors).toList := by
  rw [NothingFenced, fencedPart?_boundSource, unfencedSource, Rule.applied, if_pos triggered]
  exact nothingFenced_unfence source

theorem endsInFence_boundSource (triggered : Rule.stripFence.isTriggered errors = true) :
    EndsInFence (boundSource source errors).toList ↔ EndsInFence source.toList := by
  rw [← fencedPart?_eq_some_nil_iff, fencedPart?_boundSource, unfencedSource, Rule.applied,
    if_pos triggered, ← fencedPart?_eq_some_nil_iff]
  rcases unfence_cases source with ⟨same, _⟩ | ⟨filled, unfenced⟩
  · exact (congrArg (fencedPart? ·.toList = some []) same).to_iff
  · -- A source that is taken out of a block had something in it, and has no fence any more.
    refine iff_of_false (fun found => ?_) fun found => filled fun part other => ?_
    · exact absurd (found.symm.trans (fencedPart?_eq_none_iff.mpr unfenced)) nofun
    · exact .inl (Option.some.inj (other.symm.trans found))

theorem applied_bindHostMembers_boundSource :
    Rule.bindHostMembers.applied errors (boundSource source errors) = boundSource source errors := by
  unfold boundSource Rule.applied
  split
  next => exact bindMembers_eq_self (bindsFirst_bindMembers _ _)
  next => rfl

/-- A source to which no default export is added is settled by one repair. -/
theorem settled_of_not_addsExport (without : ¬ AddsExport source errors) :
    propose (exportedSource source errors) errors = none := by
  have same : exportedSource source errors = boundSource source errors := by
    rwa [addsExport_iff, Ne, Classical.not_not] at without
  rw [same, settled_iff]
  intro rule
  cases rule with
  | stripFence =>
      unfold Rule.applied
      split
      next triggered => exact unfence_eq_self_iff.mpr (nothingFenced_boundSource triggered)
      next => rfl
  | bindHostMembers => exact applied_bindHostMembers_boundSource
  | addDefaultExport => exact same

/-- A default export is added at the end of a source that has been taken out of its block and binds
its members, because a diagnostic asks for it. -/
theorem exportedSource_of_addsExport (adds : AddsExport source errors) :
    Rule.addDefaultExport.isTriggered errors = true ∧
      ∃ name : String, lastComponent? (boundSource source errors).toList = some name ∧
        (exportedSource source errors).toList =
          trimRight (boundSource source errors).toList ++ '\n' :: '\n' :: exportLine name := by
  rw [addsExport_iff, exportedSource, Rule.applied] at adds
  split at adds
  next triggered =>
    refine ⟨triggered, ?_⟩
    rw [exportedSource, Rule.applied, if_pos triggered]
    exact (exportLastComponent_cases _).resolve_left adds
  next => exact absurd rfl adds

/-- A source to which a default export is added is settled but for its fence. -/
theorem settled_iff_of_addsExport (adds : AddsExport source errors) :
    propose (exportedSource source errors) errors = none ↔
      unfence (exportedSource source errors) = exportedSource source errors := by
  obtain ⟨triggered, name, _, spelled⟩ := exportedSource_of_addsExport adds
  have fences : Rule.stripFence.applied errors = unfence := by
    funext source
    rw [Rule.applied, if_pos (stripFence_of_addDefaultExport triggered)]
    rfl
  rw [settled_iff, ← fences]
  refine ⟨fun settled => settled .stripFence, fun same rule => ?_⟩
  cases rule with
  | stripFence => exact same
  | bindHostMembers =>
      unfold Rule.applied
      split
      next asked =>
        refine bindMembers_eq_self ?_
        have binds := bindsFirst_bindMembers (errors.filterMap unboundName?)
          (unfencedSource source errors)
        rw [spelled, boundSource, Rule.applied, if_pos asked]
        exact binds.imp_right fun binds => binds.trimRight_append _
      next => rfl
  | addDefaultExport =>
      rw [Rule.applied, if_pos triggered]
      exact exportLastComponent_exported spelled

theorem unfence_exportedSource_eq_self_iff (adds : AddsExport source errors) :
    unfence (exportedSource source errors) = exportedSource source errors ↔
      ¬ EndsInFence source.toList := by
  obtain ⟨triggered, name, last, spelled⟩ := exportedSource_of_addsExport adds
  have plain := plain_of_lastComponent? last
  have asked := stripFence_of_addDefaultExport triggered
  rw [unfence_eq_self_iff, spelled, nothingFenced_exported plain (nothingFenced_boundSource asked),
    endsInFence_boundSource asked]

/-- No fence is left in a source that is taken out of its block, whatever is repaired then. -/
theorem unfenced_repair (triggered : Rule.stripFence.isTriggered errors = true)
    (taken : unfence source ≠ source) : ¬ fence <:+: (repair source errors).toList := by
  have first : ¬ fence <:+: (unfencedSource source errors).toList := by
    rw [unfencedSource, Rule.applied, if_pos triggered]
    exact ((unfence_cases source).resolve_left fun same => taken same.1).2
  have second : ¬ fence <:+: (boundSource source errors).toList := by
    rwa [← fencedPart?_eq_none_iff, fencedPart?_boundSource, fencedPart?_eq_none_iff]
  rw [repair_eq, exportedSource, Rule.applied]
  split
  next => exact unfenced_exportLastComponent second
  next => exact second

/-- Repairing a source twice comes to the same as repairing it once, and nothing is proposed for what
was repaired, but for one case: a default export was added behind a fence that was open at the end.
Then the second repair takes the export out of the block, and the rest of the source is lost. -/
theorem repair_idempotent_iff (source : String) (errors : List String) :
    (repair (repair source errors) errors = repair source errors ↔
        ¬ (EndsInFence source.toList ∧ AddsExport source errors)) ∧
      (propose (repair source errors) errors = none ↔
        ¬ (EndsInFence source.toList ∧ AddsExport source errors)) := by
  rw [repair_eq source]
  by_cases adds : AddsExport source errors
  · have settled := settled_iff_of_addsExport adds
    have kept := unfence_exportedSource_eq_self_iff adds
    simp only [adds, and_true]
    refine ⟨⟨fun same => ?_, fun closed => repair_of_settled (settled.mpr (kept.mpr closed))⟩,
      settled.trans kept⟩
    rw [← kept]
    by_contra taken
    have asked := stripFence_of_addDefaultExport (exportedSource_of_addsExport adds).1
    have unfenced := unfenced_repair asked taken
    rw [same] at unfenced
    exact taken (unfence_eq_self_iff.mpr (nothingFenced_of_unfenced unfenced))
  · have settled := settled_of_not_addsExport adds
    simp only [adds, and_false, not_false_eq_true, iff_true]
    exact ⟨repair_of_settled settled, settled⟩

/-- A fence behind the last component is closed by nothing, and the export that is added behind it is
all that a second repair leaves. -/
theorem repair_repeated_loses_source :
    let errors := ["Module has no default export."]
    let once := repair "function App() \x7b\x7d\n\x60\x60\x60" errors
    once = "function App() \x7b\x7d\n\x60\x60\x60\n\nexport default App;\n" ∧
      repair once errors = "export default App;\n" ∧ propose once errors ≠ none := by
  decide +kernel

end Lectern.Repair
