/-
Module: Lectern.Proofs.Repair.Rebinding
Purpose: What becomes of a source that is repaired again and again for names that nothing binds: one
  statement in its first line that lists what it listed there before and each further member once.
Trusted boundary: none
Main exports: Report, repair_reports, Rebound, rebound_bindMembers, Rebound.trans, repairAll_rebinds
-/
import Lectern.Module.Diagnostic
import Lectern.Proofs.Module.Bindings
import Lectern.Proofs.Repair.Idempotence

namespace Lectern.Repair

open Lectern.Text

/-! ## Reports of names that nothing binds -/

/-- A report of a name that nothing binds. Neither a blank nor a quote stands in a name. -/
structure Report where
  place : Syntax.Position
  name : String
  solid : ' ' ∉ name.toList
  unquoted : '\'' ∉ name.toList

namespace Report

/-- A report as the compiler words it. -/
def message (report : Report) : String :=
  (Module.Diagnostic.unresolved report.place report.name).message

/-- What stands in front of the wording. -/
def front (report : Report) : List Char := (report.place.label ++ ": ").toList

/-- The wording in front of the name. -/
def wording : List Char := "Cannot find name '".toList

variable {report : Report} {c : Char}

theorem message_toList : report.message.toList =
    report.front ++ (wording ++ (report.name.toList ++ ['\'', '.'])) := by
  have colon : ": Cannot find name '".toList = ": ".toList ++ wording := rfl
  have stop : "'.".toList = ['\'', '.'] := rfl
  rw [message, Module.Diagnostic.message, front]
  simp only [String.toList_append, colon, stop, List.append_assoc]

theorem notMem_front (plain : c.isDigit = false) (apart : c ∉ "Line :".toList) :
    c ∉ report.front := by
  have digits (value : Nat) : c ∉ (toString value).toList := by
    intro held
    have digit : c ∈ Nat.toDigits 10 value := by simpa using held
    rw [Nat.isDigit_of_mem_toDigits (by decide) (by decide) digit] at plain
    cases plain
  have around : "Line ".toList ⊆ "Line :".toList ∧ ":".toList ⊆ "Line :".toList ∧
      ": ".toList ⊆ "Line :".toList := by decide
  simp only [front, Syntax.Position.label, String.toList_append, List.mem_append, not_or]
  exact ⟨⟨⟨⟨fun held => apart (around.1 held), digits _⟩, fun held => apart (around.2.1 held)⟩,
    digits _⟩, fun held => apart (around.2.2 held)⟩

/-- Each name that the compiler's check finds unresolved makes such a report. -/
theorem exists_of_unresolved {source : ByteArray} {root node : Syntax.Node} {name : String}
    (unresolved : (node, name) ∈ Module.unresolvedNames source root) :
    ∃ report : Report, report.place = node.position source ∧ report.name = name := by
  have every : ∀ name ∈ Module.libraryMembers, ' ' ∉ name.toList ∧ '\'' ∉ name.toList := by
    decide +kernel
  obtain ⟨unbound, -⟩ := Module.mem_unresolvedNames.mp (List.mem_map_of_mem unresolved)
  obtain ⟨solid, unquoted⟩ := every name (mem_libraryMembers unbound)
  exact ⟨⟨node.position source, name, solid, unquoted⟩, rfl, rfl⟩

end Report

/-- What starts with a character that the front of a text does not have stands behind that front. -/
theorem behind_of_notMem {front back before rest : List Char} {c : Char} (free : c ∉ front)
    (split : front ++ back = before ++ c :: rest) :
    ∃ between, before = front ++ between ∧ back = between ++ c :: rest := by
  rcases List.append_eq_append_iff.mp split with behind | ⟨more, frontEq, restEq⟩
  · exact behind
  · cases more with
    | nil => exact ⟨[], by simpa using frontEq.symm, by simpa using restEq.symm⟩
    | cons first more =>
        cases (List.cons.inj restEq).1
        exact absurd (by simp [frontEq]) free

theorem isSuffix_of_afterNumber? {text rest : List Char} (number : afterNumber? text = some rest) :
    rest <:+ text := by
  unfold afterNumber? at number
  split at number
  next c digits =>
    split at number
    next =>
      cases number
      exact (List.dropWhile_suffix _).trans (List.suffix_cons c digits)
    next => cases number
  next => cases number

/-- A report of a token is worded in one of two ways, somewhere behind its place. -/
theorem words_of_reportsToken {text : String} (reports : reportsToken text = true) :
    ∃ before rest, text.toList = before ++ ("Unexpected token ".toList ++ rest) ∨
      text.toList = before ++ ("Missing ".toList ++ rest) := by
  rw [reportsToken] at reports
  split at reports
  next worded located =>
    simp only [Option.bind_eq_bind, Option.bind_eq_some_iff, after?_eq_some_iff] at located
    obtain ⟨_, line, _, number, _, colon, _, column, separated⟩ := located
    subst colon separated
    obtain ⟨digits, columned⟩ := isSuffix_of_afterNumber? column
    obtain ⟨numbers, lined⟩ := isSuffix_of_afterNumber? number
    rw [← lined, ← columned] at line
    simp only [Bool.or_eq_true, Option.isSome_iff_exists, after?_eq_some_iff] at reports
    simp only [← List.append_assoc] at line
    rcases reports with ⟨rest, rfl⟩ | ⟨rest, rfl⟩
    · exact ⟨_, rest, .inl line⟩
    · exact ⟨_, rest, .inr line⟩
  next => cases reports

namespace Report

variable {report : Report} {c : Char} {before more rest : List Char}

/-- What has a blank in it does not stand in a name. -/
theorem name_ne (more : List Char) (blank : ' ' ∈ more) :
    report.name.toList ++ ['\'', '.'] ≠ before ++ (more ++ rest) := by
  intro split
  have held : ' ' ∈ report.name.toList ++ ['\'', '.'] := by
    rw [split]
    simp [blank]
  simp [report.solid] at held

/-- A wording that starts otherwise is not in a report: there is no blank behind the wording of the
report. -/
theorem message_ne (c : Char) (more : List Char) (plain : c.isDigit = false)
    (apart : c ∉ "Line :".toList) (other : c ∉ wording) (blank : ' ' ∈ more) :
    report.message.toList ≠ before ++ (c :: more ++ rest) := by
  intro split
  rw [message_toList, List.cons_append] at split
  obtain ⟨_, _, behindFront⟩ := behind_of_notMem (notMem_front plain apart) split
  obtain ⟨between, _, behindWording⟩ := behind_of_notMem other behindFront
  exact name_ne (c :: more) (List.mem_cons_of_mem c blank) behindWording

/-- The wording of a report stands in one place. -/
theorem eq_of_message (split : report.message.toList = before ++ (wording ++ rest)) :
    before = report.front ∧ rest = report.name.toList ++ ['\'', '.'] := by
  rw [message_toList] at split
  obtain ⟨between, rfl, behind⟩ :=
    behind_of_notMem (notMem_front (c := 'C') (by decide) (by decide)) split
  cases between with
  | nil => exact ⟨List.append_nil _, (List.append_cancel_left behind).symm⟩
  | cons first between =>
      obtain ⟨-, behind⟩ := List.cons.inj behind
      obtain ⟨_, _, again⟩ := behind_of_notMem (by decide) behind
      exact absurd again (name_ne wording (by decide))

/-! ### What a report asks for -/

theorem lacksDefaultExport_message : lacksDefaultExport report.message = false := by
  rw [lacksDefaultExport, mentions, Option.isSome_eq_false_iff, Option.isNone_iff_eq_none,
    Spot.first?_eq_none_iff]
  intro before behind split
  rw [Option.isSome_eq_false_iff, Option.isNone_iff_eq_none, Option.eq_none_iff_forall_ne_some]
  intro rest found
  rw [show behind = _ from after?_eq_some_iff.mp found] at split
  exact message_ne 'h' "as no default export".toList (by decide) (by decide) (by decide) (by decide)
    split

theorem reportsToken_message : reportsToken report.message = false := by
  rw [Bool.eq_false_iff]
  intro reports
  obtain ⟨before, rest, unexpected | missing⟩ := words_of_reportsToken reports
  · exact message_ne 'U' "nexpected token ".toList (by decide) (by decide) (by decide) (by decide)
      unexpected
  · exact message_ne 'M' "issing ".toList (by decide) (by decide) (by decide) (by decide) missing

/-- The name that is read off a report is the one that it is about. -/
theorem name_of_unboundName? {name : String} (found : unboundName? report.message = some name) :
    name = report.name := by
  simp only [unboundName?, Option.bind_eq_bind, Option.bind_eq_some_iff] at found
  obtain ⟨spot, first, named⟩ := found
  obtain ⟨before, behind, split, rfl, -, -⟩ := Spot.first?_eq_some_iff.mp first
  simp only [unboundNameAt?, Spot.between, Option.bind_eq_bind, Option.bind_eq_some_iff,
    after?_eq_some_iff, Option.ite_none_right_eq_some] at named
  obtain ⟨rest, rfl, start, -, quote, closes, ends, fits⟩ := named
  cases fits
  obtain ⟨-, rfl⟩ := eq_of_message split
  obtain ⟨-, quoted⟩ := Bool.and_eq_true_iff.mp ends
  rw [beq_iff_eq] at quoted
  subst quoted
  obtain ⟨more, closed⟩ := List.head?_eq_some_iff.mp closes
  have taken := List.prefix_iff_eq_append.mp
    (List.takeWhile_prefix isNameChar (l := report.name.toList ++ ['\'', '.']))
  rw [closed, eq_comm, List.append_cons_inj_of_notMem report.unquoted (by decide)] at taken
  rw [← taken.1, String.ofList_toList]

/-- Members of the UI library are spelled like the names that are read off reports. -/
theorem unboundName?_of_member (member : Module.isUnboundMember report.name = true) :
    unboundName? report.message = some report.name := by
  have every : ∀ name ∈ Module.libraryMembers, name.toList.head?.any isNameStart = true ∧
      name.toList.all isNameChar = true := by decide +kernel
  obtain ⟨started, whole⟩ := every report.name (mem_libraryMembers member)
  obtain ⟨start, first, starts⟩ := (Option.any_eq_true _ _).mp started
  have taken : (report.name.toList ++ ['\'', '.']).takeWhile isNameChar = report.name.toList := by
    rw [List.takeWhile_append_of_pos (List.all_eq_true.mp whole),
      List.takeWhile_cons_of_neg (by decide), List.append_nil]
  have here : unboundNameAt? (Spot.between report.front
      (wording ++ (report.name.toList ++ ['\'', '.']))) = some report.name := by
    simp only [unboundNameAt?, Spot.between, Option.bind_eq_bind, Option.bind_eq_some_iff,
      after?_eq_some_iff, Option.ite_none_right_eq_some]
    refine ⟨_, rfl, start, ?_, '\'', ?_, ?_, ?_⟩
    · rwa [taken]
    · simp [taken]
    · simp [starts]
    · rw [taken, String.ofList_toList]
  cases first? : Spot.first? (fun spot => (unboundNameAt? spot).isSome) report.message.toList with
  | none =>
      have nowhere := Spot.first?_eq_none_iff.mp first? _ _ message_toList
      rw [here] at nowhere
      cases nowhere
  | some spot =>
      obtain ⟨_, _, _, _, named, _⟩ := Spot.first?_eq_some_iff.mp first?
      obtain ⟨name, named⟩ := Option.isSome_iff_exists.mp named
      have found : unboundName? report.message = some name := by
        rw [unboundName?, first?]
        exact named
      rw [found, name_of_unboundName? found]

end Report

/-- The members that reports ask for are those that they name. -/
theorem wantedMembers_reports (reports : List Report) :
    wantedMembers ((reports.map Report.message).filterMap unboundName?) =
      wantedMembers (reports.map Report.name) := by
  have asked (report : Report) :
      (unboundName? report.message).filter Module.isUnboundMember =
        (some report.name).filter Module.isUnboundMember := by
    cases found : unboundName? report.message with
    | some name => rw [Report.name_of_unboundName? found]
    | none =>
        have other : Module.isUnboundMember report.name ≠ true := fun member => by
          rw [Report.unboundName?_of_member member] at found
          cases found
        rw [Option.filter_some, if_neg other]
        rfl
  have same : ((reports.map Report.message).filterMap unboundName?).filter Module.isUnboundMember =
      (reports.map Report.name).filter Module.isUnboundMember := by
    rw [List.filterMap_map, List.filter_filterMap, ← List.filterMap_eq_map, List.filter_filterMap]
    exact List.filterMap_congr fun report _ => asked report
  rw [wantedMembers, same, wantedMembers]

theorem bindMembers_congr {names others : List String}
    (same : wantedMembers names = wantedMembers others) (source : String) :
    bindMembers names source = bindMembers others source := by
  unfold bindMembers
  rw [same]

/-- Reports of names that nothing binds ask for nothing but bindings. -/
theorem repair_reports (source : String) (reports : List Report) :
    repair source (reports.map Report.message) = bindMembers (reports.map Report.name) source := by
  have unfenced : unfencedSource source (reports.map Report.message) = source := by
    apply if_neg
    simp [Rule.isTriggered, Report.reportsToken_message, Report.lacksDefaultExport_message]
  have bound : boundSource source (reports.map Report.message) =
      bindMembers (reports.map Report.name) source := by
    rw [boundSource, unfenced, Rule.applied, ← bindMembers_congr (wantedMembers_reports reports)]
    split
    next => rfl
    next unasked =>
      have nothing : (reports.map Report.message).filterMap unboundName? = [] := by
        simpa [Rule.isTriggered] using unasked
      rw [nothing]
      rfl
  rw [repair_eq, exportedSource, bound]
  apply if_neg
  simp [Rule.isTriggered, Report.lacksDefaultExport_message]

/-! ## One statement in front of a source -/

/-- The names that a text binds in its first line. -/
def firstNames (text : List Char) : List String :=
  match bindingList? (text.takeWhile (· != '\n')) with
  | some list => listedNames list
  | none => []

/-- What a binding statement comes in front of, and what that lists already: a whole source, or what
stands behind the first line of one if that line binds names itself. -/
inductive Fronts (source : List Char) : List String → List Char → Prop
  | ahead (unbound : bindingList? (source.takeWhile (· != '\n')) = none) :
      Fronts source [] ('\n' :: source)
  | instead {list : List Char} (reads : bindingList? (source.takeWhile (· != '\n')) = some list) :
      Fronts source (listedNames list) (source.dropWhile (· != '\n'))

/-- A text starts with a binding statement that comes in front of a source. It lists what the source
listed already and then each further name that is asked for, once. -/
structure Fronted (asked : String → Prop) (source text : List Char) (already further : List String)
    (behind : List Char) : Prop where
  fronts : Fronts source already behind
  rest : text.dropWhile (· != '\n') = behind
  lists : ∃ list, bindingList? (text.takeWhile (· != '\n')) = some list ∧
    listedNames list = already ++ further
  once : further.Nodup
  asks : ∀ name, name ∈ further ↔ asked name ∧ name ∉ already
  spelled : text.takeWhile (· != '\n') = (Module.bindingStatement (already ++ further)).toList ∨
    further = [] ∧ text = source

/-- What becomes of a source when names are asked for. -/
def Rebound (asked : String → Prop) (source text : List Char) : Prop :=
  ∃ already further behind, Fronted asked source text already further behind

variable {asked again : String → Prop} {source text last behind : List Char}
  {already further : List String}

theorem Fronts.newline (fronts : Fronts source already behind) :
    ∀ c ∈ behind.head?, c = '\n' := by
  intro c first
  cases fronts with
  | ahead => exact (Option.some.inj first).symm
  | instead => exact eq_newline_of_dropWhile first

/-- The first line names what was listed already and the further names. -/
theorem Fronted.firstNames_eq (fronted : Fronted asked source text already further behind) :
    firstNames text = already ++ further := by
  obtain ⟨list, reads, listed⟩ := fronted.lists
  simp only [firstNames, reads, listed]

theorem Fronts.already_eq (fronts : Fronts source already behind) : already = firstNames source := by
  cases fronts with
  | ahead unbound => rw [firstNames, unbound]
  | instead reads => rw [firstNames, reads]

/-- As a set, the names are those that the source binds and those that are asked for. -/
theorem Rebound.mem_firstNames (rebound : Rebound asked source text) {name : String} :
    name ∈ firstNames text ↔ name ∈ firstNames source ∨ asked name := by
  obtain ⟨already, further, behind, fronted⟩ := rebound
  rw [fronted.firstNames_eq, List.mem_append, fronted.asks, fronted.fronts.already_eq]
  by_cases known : name ∈ firstNames source
  · simp [known]
  · simp [known]

/-- A statement that is put in front of a source is fronted by it. -/
theorem fronted_of_statement {bound : List String} (names : bound = already ++ further)
    (fronts : Fronts source already behind) (listed : ∀ name ∈ bound, Listed name)
    (once : further.Nodup) (asks : ∀ name, name ∈ further ↔ asked name ∧ name ∉ already) :
    Fronted asked source ((Module.bindingStatement bound).toList ++ behind) already further behind := by
  obtain ⟨line, rest⟩ := firstLine_bindingStatement listed fronts.newline
  refine ⟨fronts, rest, ⟨_, ?_, (listedNames_intercalate listed).trans names⟩, once, asks, .inl ?_⟩
  · rw [line, bindingList?_bindingStatement listed]
  · rw [line, names]

/-- Members that are asked for are bound in the first line. -/
theorem rebound_bindMembers {names : List String} (source : String)
    (some : wantedMembers names ≠ []) :
    Rebound (· ∈ wantedMembers names) source.toList (bindMembers names source).toList := by
  have members : ∀ name ∈ wantedMembers names, Listed name := fun _ => listed_of_mem_wantedMembers
  have once := nodup_wantedMembers names
  rcases bindMembers_cases names source with ⟨same, none | ⟨list, reads, bound⟩⟩ |
    ⟨bound, behind, rebinds, spelled⟩
  · exact absurd none some
  · -- The first line binds all that is asked for, and nothing is further.
    have nothing (name : String) : name ∈ [] ↔ name ∈ wantedMembers names ∧ name ∉ listedNames list :=
      iff_of_false List.not_mem_nil fun wanted => wanted.2 (bound name wanted.1)
    rw [same]
    exact ⟨_, [], _, .instead reads, rfl, ⟨list, reads, (List.append_nil _).symm⟩, List.nodup_nil,
      nothing, .inr ⟨rfl, rfl⟩⟩
  · have listed := rebinds.listed members
    rw [spelled]
    cases rebinds with
    | newLine unbound =>
        refine ⟨[], sorted (wantedMembers names), _,
          fronted_of_statement rfl (.ahead unbound) listed (nodup_sorted once) ?_⟩
        simp [mem_sorted]
    | sameLine reads =>
        refine ⟨_, _, _,
          fronted_of_statement rfl (.instead reads) listed (nodup_sorted (once.filter _)) ?_⟩
        simp [mem_sorted]

/-- A text with a statement in front of a source has that statement in its own first line, and what it
lists is listed there already. -/
theorem Fronted.fronts_next {held : List String} {rest : List Char}
    (fronted : Fronted asked source text already further behind) (next : Fronts text held rest) :
    held = already ++ further ∧ rest = behind := by
  refine ⟨next.already_eq.trans fronted.firstNames_eq, ?_⟩
  cases next with
  | ahead unbound =>
      obtain ⟨list, reads, _⟩ := fronted.lists
      cases reads.symm.trans unbound
  | instead => exact fronted.rest

/-- Names that are asked for after others come behind those: a statement in front of a text that has
one takes its place. -/
theorem Rebound.trans (first : Rebound asked source text) (second : Rebound again text last) :
    Rebound (fun name => asked name ∨ again name) source last := by
  obtain ⟨already, further, behind, fronted⟩ := first
  obtain ⟨held, more, rest, refronted⟩ := second
  -- The second statement reads what the first one has written.
  obtain ⟨rfl, rfl⟩ := fronted.fronts_next refronted.fronts
  have apart : ∀ name ∈ more, name ∉ already ++ further := fun name new =>
    ((refronted.asks name).mp new).2
  refine ⟨already, further ++ more, _, fronted.fronts, refronted.rest, ?_, ?_, ?_, ?_⟩
  · obtain ⟨list, reads, listed⟩ := refronted.lists
    exact ⟨list, reads, listed.trans (List.append_assoc _ _ _)⟩
  · apply List.nodup_append.mpr ⟨fronted.once, refronted.once, ?_⟩
    intro name old other new same
    exact apart other new (List.mem_append_right _ (same ▸ old))
  · intro name
    rw [List.mem_append, refronted.asks, List.mem_append, not_or, fronted.asks]
    by_cases before : asked name
    · simp [before]
    · simp [before]
  · rw [← List.append_assoc]
    rcases refronted.spelled with line | ⟨rfl, rfl⟩
    · exact .inl line
    · rw [List.append_nil, List.append_nil]
      exact fronted.spelled

/-! ## Repairs in a row -/

/-- What becomes of a source that is repaired for one list of reports after another. -/
def repairAll (source : String) (rounds : List (List Report)) : String :=
  rounds.foldl (fun text reports => repair text (reports.map Report.message)) source

/-- A member of the UI library that some report is about. -/
def Asked (rounds : List (List Report)) (name : String) : Prop :=
  Module.isUnboundMember name = true ∧ ∃ report ∈ rounds.flatten, report.name = name

theorem asked_cons {reports : List Report} {rounds : List (List Report)} :
    Asked (reports :: rounds) =
      fun name => name ∈ wantedMembers (reports.map Report.name) ∨ Asked rounds name := by
  funext name
  simp only [Asked, mem_wantedMembers, List.mem_map, List.flatten_cons, List.mem_append, or_and_right,
    exists_or, and_or_left, and_comm (b := Module.isUnboundMember name = true)]

/-- After some repairs a source is what it was if no member is asked for, and else all members that are
asked for are bound in its first line. -/
theorem repairAll_cases (source : String) (rounds : List (List Report)) :
    (∀ name, ¬ Asked rounds name) ∧ repairAll source rounds = source ∨
      (∃ name, Asked rounds name) ∧
        Rebound (Asked rounds) source.toList (repairAll source rounds).toList := by
  induction rounds generalizing source with
  | nil => exact .inl ⟨by simp [Asked], rfl⟩
  | cons reports rounds inductionHypothesis =>
      have unfolded : repairAll source (reports :: rounds) =
          repairAll (bindMembers (reports.map Report.name) source) rounds := by
        rw [← repair_reports]
        rfl
      rw [unfolded, asked_cons]
      by_cases none : wantedMembers (reports.map Report.name) = []
      · rw [bindMembers_eq_self (.inl none), none]
        simpa using inductionHypothesis source
      · have bound := rebound_bindMembers source none
        obtain ⟨name, wanted⟩ := List.exists_mem_of_ne_nil _ none
        refine .inr ⟨⟨name, .inl wanted⟩, ?_⟩
        rcases inductionHypothesis (bindMembers (reports.map Report.name) source) with
          ⟨unasked, same⟩ | ⟨_, rebound⟩
        · rw [same]
          simpa [unasked] using bound
        · exact bound.trans rebound

/-- As a set, the names in the first line are those that the source has there and those that are asked
for. -/
theorem mem_firstNames_repairAll {source : String} {rounds : List (List Report)} {name : String} :
    name ∈ firstNames (repairAll source rounds).toList ↔
      name ∈ firstNames source.toList ∨ Asked rounds name := by
  rcases repairAll_cases source rounds with ⟨unasked, same⟩ | ⟨_, rebound⟩
  · rw [same]
    simp [unasked]
  · exact rebound.mem_firstNames

/-- A source that is repaired for any number of lists of reports of names that nothing binds stays as
it is, if none of the names is a member of the UI library to be bound. Else one statement in its first
line lists what it listed there already and then each further member once, and all else stays. As a
set, what it lists does not depend on how the reports are grouped and ordered. -/
theorem repairAll_rebinds (source : String) (rounds : List (List Report)) :
    ((∀ name, ¬ Asked rounds name) ∧ repairAll source rounds = source ∨
      (∃ name, Asked rounds name) ∧
        Rebound (Asked rounds) source.toList (repairAll source rounds).toList) ∧
      ∀ others : List (List Report), (∀ report, report ∈ others.flatten ↔ report ∈ rounds.flatten) →
        ∀ name, name ∈ firstNames (repairAll source others).toList ↔
          name ∈ firstNames (repairAll source rounds).toList := by
  refine ⟨repairAll_cases source rounds, fun others same name => ?_⟩
  have asked : Asked others name ↔ Asked rounds name := by
    simp only [Asked, same]
  rw [mem_firstNames_repairAll, mem_firstNames_repairAll, asked]

end Lectern.Repair
