/-
Module: Lectern.Proofs.Repair.CleanRepairs
Purpose: What the linter finds in the repair of a source in which it finds nothing: nothing, unless
  the repaired source is too large or exports a component by the name of a network transport. That
  name stands in the source only as the end of a longer word, which begins with `function`.
Trusted boundary: none
Main exports: Clean, clean_unfence, clean_bindMembers, ExportsTransport, repair_clean_iff,
  repair_adds_transport
-/
import Lectern.Proofs.Repair.Idempotence

namespace Lectern.Repair

open Lectern.Text
open Lectern.Safety (Broken HasWord IsWord EndsOutside NamesTransport transportNames
  broken_rawTransport_iff isWord_transport endsOutside_nil endsOutside_append
  not_hasWord_of_absent not_hasWord_nil)

/-- No rule of the linter is broken anywhere in a text. -/
def Clean (text : List Char) : Prop := ∀ rule, ¬ Broken text rule

variable {text word : List Char} {source : String} {errors : List String}

/-- In a clean text no name of a network transport is a word. -/
theorem Clean.not_hasWord (clean : Clean text) {name : String} (listed : name ∈ transportNames) :
    ¬ HasWord name.toList text :=
  fun has => clean .rawTransport (broken_rawTransport_iff.mpr ⟨name, listed, has⟩)

/-! ## Fences -/

theorem endsForms_of_fence (marks : ∀ c ∈ text.head?, c = '\n' ∨ c = '\x60') :
    Safety.EndsForms text := by
  intro c first
  rcases marks c first with rfl | rfl
  · decide
  · decide

/-- Taking a clean source out of its fenced block leaves it clean. -/
theorem clean_unfence (clean : Clean source.toList) : Clean (unfence source).toList := by
  rcases unfence_excerpt source with same | ⟨front, body, back, split, spelled, opens, closes⟩
  · rwa [same]
  · intro rule broken
    have outside : EndsOutside front := by
      intro c last
      rw [opens c last]
      decide
    rw [spelled] at broken
    apply clean rule
    rw [split]
    exact Safety.broken_of_excerpt broken outside (endsForms_of_fence closes)

/-! ## Bindings -/

/-- A word of a list is a word of one of its names. -/
theorem hasWord_of_intercalate (isWord : IsWord word) {names : List String}
    (has : HasWord word (", ".intercalate names).toList) : ∃ name ∈ names, HasWord word name.toList := by
  rw [String.toList_intercalate] at has
  induction names with
  | nil => exact absurd has (not_hasWord_nil isWord)
  | cons name names inductionHypothesis =>
      rw [List.map_cons] at has
      cases names with
      | nil => exact ⟨name, List.mem_cons_self, by simpa using has⟩
      | cons next names =>
          rw [List.map_cons, List.intercalate_cons_cons, List.append_assoc] at has
          have commas : ∀ c ∈ ", ".toList, isWordChar c = false := forall_mem_of_all (by decide)
          rcases has.split_run isWord commas (by decide) with here | later
          · exact ⟨name, List.mem_cons_self, here⟩
          · obtain ⟨other, member, found⟩ := inductionHypothesis later
            exact ⟨other, List.mem_cons_of_mem _ member, found⟩

/-- A statement that binds names, up to its semicolon. -/
def statementBody (names : List String) : List Char :=
  "const".toList ++ (" \x7b ".toList ++ ((", ".intercalate names).toList ++
    (" \x7d = ".toList ++ "React".toList)))

theorem bindingStatement_eq (names : List String) :
    (Module.bindingStatement names).toList = statementBody names ++ [';'] := by
  simp [Module.bindingStatement, Module.hostObject, statementBody]

/-- The names of network transports in a statement that binds names are words of those. -/
theorem hasWord_of_statementBody {names : List String} {transport : String}
    (listed : transport ∈ transportNames) (has : HasWord transport.toList (statementBody names)) :
    ∃ name ∈ names, HasWord transport.toList name.toList := by
  have absent : ∀ transport ∈ transportNames, ¬ transport.toList <:+: "const".toList ∧
      ¬ transport.toList <:+: "React".toList := by decide +kernel
  have opens : ∀ c ∈ " \x7b ".toList, isWordChar c = false := forall_mem_of_all (by decide)
  have closes : ∀ c ∈ " \x7d = ".toList, isWordChar c = false := forall_mem_of_all (by decide)
  have isWord := isWord_transport listed
  rcases has.split_run isWord opens (by decide) with keyword | behind
  · exact absurd keyword (not_hasWord_of_absent (absent transport listed).1)
  · rcases behind.split_run isWord closes (by decide) with inside | object
    · exact hasWord_of_intercalate isWord inside
    · exact absurd object (not_hasWord_of_absent (absent transport listed).2)

/-- A statement that binds names has no marks. -/
theorem unmarked_statementBody {names : List String} (listed : ∀ name ∈ names, Listed name) :
    ∀ c ∈ statementBody names, Safety.isMark c = false := by
  intro c member
  have inStatement : c ∈ (Module.bindingStatement names).toList := by
    rw [bindingStatement_eq]
    exact List.mem_append_left _ member
  apply Bool.eq_false_iff.mpr
  intro isMark
  have mark : c = '(' ∨ c = ':' := by simpa [Safety.isMark] using isMark
  rcases mem_bindingStatement listed inStatement with inList | around
  · rcases mark with rfl | rfl
    · exact absurd inList (by decide)
    · exact absurd inList (by decide)
  · rcases mark with rfl | rfl
    · exact absurd around (by decide)
    · exact absurd around (by decide)

theorem endsOutside_of_separates {separates : Char → Bool} {front : List Char}
    (apart : ∀ c, separates c = true → isWordChar c = false)
    (ends : ∀ c ∈ front.getLast?, separates c = true) : EndsOutside front :=
  fun c last => apart c (ends c last)

theorem closesWord_of_separates {separates : Char → Bool} {back : List Char}
    (apart : ∀ c, separates c = true → isWordChar c = false)
    (starts : ∀ c ∈ back.head?, separates c = true) : closesWord back = true := by
  cases back with
  | nil => rfl
  | cons c rest => simp [closesWord, apart c (starts c rfl)]

/-- A word of a trimmed text is a word of the text. -/
theorem hasWord_of_trim (has : HasWord word (trim text)) : HasWord word text := by
  obtain ⟨opens, closes, split, opening, closing⟩ := exists_of_trimWhile isBlank text
  have apart : ∀ c, isBlank c = true → isWordChar c = false :=
    fun c => Safety.not_isWordChar_of_isBlank
  rw [split]
  apply has.within
  · exact endsOutside_of_separates apart fun c last => opening c (List.mem_of_getLast? last)
  · exact closesWord_of_separates apart fun c first => closing c (List.mem_of_head? first)

/-- A word of a listed name is a word of the list. -/
theorem hasWord_of_mem_listedNames {list : List Char} {name : String}
    (member : name ∈ listedNames list) (has : HasWord word name.toList) : HasWord word list := by
  obtain ⟨_, kept, rfl⟩ := List.mem_map.mp member
  obtain ⟨piece, held, rfl⟩ := List.mem_map.mp (List.mem_filter.mp kept).1
  rw [String.toList_ofList] at has
  obtain ⟨front, back, rfl, opens, closes⟩ := exists_of_mem_splitOn held
  have apart : ∀ c, (c == ',') = true → isWordChar c = false := by
    intro c comma
    rw [beq_iff_eq.mp comma]
    decide
  exact (hasWord_of_trim has).within (endsOutside_of_separates apart opens)
    (closesWord_of_separates apart closes)

/-- A word of the list in a statement on the first line is a word of the source. -/
theorem hasWord_of_bindingList? {list : List Char}
    (reads : bindingList? (text.takeWhile (· != '\n')) = some list) (has : HasWord word list) :
    HasWord word text := by
  obtain ⟨line, _⟩ := bindingList?_eq_some_iff.mp reads
  have inLine : HasWord word (trim (text.takeWhile (· != '\n'))) := by
    rw [line, List.append_assoc]
    apply has.within
    · rintro c ⟨⟩
      decide
    · rfl
  have newline : ∀ c, (c == '\n') = true → isWordChar c = false := by
    intro c same
    rw [beq_iff_eq.mp same]
    decide
  have closes : closesWord (text.dropWhile (· != '\n')) = true := by
    apply closesWord_of_separates newline
    intro c first
    have stops := List.head?_dropWhile_not (· != '\n') text
    rw [Option.mem_def.mp first] at stops
    simpa using stops
  have inText := (hasWord_of_trim inLine).within endsOutside_nil closes
  rwa [List.nil_append, List.takeWhile_append_dropWhile] at inText

/-- A rule that is broken behind the statement at the front of a source is broken in the source. -/
theorem Rebinds.broken {wanted bound : List String} {source behind : List Char} {rule : Safety.Rule}
    (rebinds : Rebinds wanted source bound behind) (broken : Broken behind rule) :
    Broken source rule := by
  cases rebinds with
  | newLine => exact Safety.broken_of_newline broken
  | sameLine reads =>
      have line := List.takeWhile_append_dropWhile (p := (· != '\n')) (l := source)
      cases rest : source.dropWhile (· != '\n') with
      | nil =>
          rw [rest] at broken
          obtain ⟨before, after, nothing, forbidden⟩ := broken
          obtain ⟨c, more, rfl, _⟩ := forbidden.begins
          exact absurd nothing (by simp)
      | cons c more =>
          have sameLine : Rebinds wanted source _ _ := .sameLine reads
          have newline := sameLine.newline c (by rw [rest]; rfl)
          subst newline
          rw [rest] at broken line
          rw [← line, List.append_cons]
          apply (Safety.broken_of_newline broken).behind
          apply endsOutside_behind _ (List.cons_ne_nil _ _)
          rintro d ⟨⟩
          decide

/-- The words of the names that a statement binds are words of the source, but for members of the UI
library. -/
theorem Rebinds.hasWord {wanted bound : List String} {source behind : List Char}
    (rebinds : Rebinds wanted source bound behind) {name : String} (member : name ∈ bound)
    (has : HasWord word name.toList) : name ∈ wanted ∨ HasWord word source := by
  cases rebinds with
  | newLine => exact Or.inl (mem_sorted.mp member)
  | sameLine reads =>
      rcases List.mem_append.mp member with known | missing
      · exact Or.inr (hasWord_of_bindingList? reads (hasWord_of_mem_listedNames known has))
      · exact Or.inl (List.mem_filter.mp (mem_sorted.mp missing)).1

/-- Binding members of the UI library in a clean source leaves it clean. -/
theorem clean_bindMembers (names : List String) (clean : Clean source.toList) :
    Clean (bindMembers names source).toList := by
  rcases bindMembers_cases names source with ⟨same, _⟩ | ⟨bound, behind, rebinds, spelled⟩
  · rwa [same]
  · intro rule broken
    have listed := rebinds.listed fun _ => listed_of_mem_wantedMembers
    rw [spelled, bindingStatement_eq, List.append_assoc, List.singleton_append] at broken
    rcases Safety.broken_of_statement (unmarked_statementBody listed) broken with later | ⟨_, transport, isTransport, has⟩
    · exact clean rule (rebinds.broken later)
    · obtain ⟨name, member, found⟩ := hasWord_of_statementBody isTransport has
      rcases rebinds.hasWord member found with wanted | inSource
      · have foreign : ∀ transport ∈ transportNames, ∀ name ∈ Module.libraryMembers,
            ¬ transport.toList <:+: name.toList := by decide +kernel
        exact not_hasWord_of_absent
          (foreign transport isTransport name (mem_library_of_mem_wantedMembers wanted)) found
      · exact clean.not_hasWord isTransport inSource

/-! ## Exports -/

/-- A line that exports a name has no marks. -/
theorem unmarked_exportLine {name : String} (whole : ∀ c ∈ name.toList, isNameChar c = true) :
    ∀ c ∈ '\n' :: exportLine name, Safety.isMark c = false := by
  have line : '\n' :: exportLine name = "\nexport default ".toList ++ (name.toList ++ ";\n".toList) := by
    simp [exportLine]
  have around : ∀ c ∈ "\nexport default ".toList ++ ";\n".toList, Safety.isMark c = false :=
    forall_mem_of_all (by decide)
  rw [line]
  intro c member
  rcases List.mem_append.mp member with front | member
  · exact around c (List.mem_append_left _ front)
  · rcases List.mem_append.mp member with inside | back
    · apply Bool.eq_false_iff.mpr
      intro isMark
      have mark : c = '(' ∨ c = ':' := by simpa [Safety.isMark] using isMark
      rcases mark with rfl | rfl
      · exact absurd (whole _ inside) (by decide)
      · exact absurd (whole _ inside) (by decide)
    · exact around c (List.mem_append_right _ back)

/-- The names of network transports in a line that exports a name are words of that. -/
theorem hasWord_of_exportLine {name transport : String} (listed : transport ∈ transportNames)
    (has : HasWord transport.toList ('\n' :: exportLine name)) :
    HasWord transport.toList name.toList := by
  have absent : ∀ transport ∈ transportNames, ¬ transport.toList <:+: "\nexport".toList ∧
      ¬ transport.toList <:+: "default".toList := by decide +kernel
  have space : ∀ c ∈ " ".toList, isWordChar c = false := forall_mem_of_all (by decide)
  have ending : ∀ c ∈ ";\n".toList, isWordChar c = false := forall_mem_of_all (by decide)
  have isWord := isWord_transport listed
  have line : '\n' :: exportLine name = "\nexport".toList ++ (" ".toList ++ ("default".toList ++
      (" ".toList ++ (name.toList ++ (";\n".toList ++ []))))) := by
    simp [exportLine]
  rw [line] at has
  rcases has.split_run isWord space (by decide) with keyword | behind
  · exact absurd keyword (not_hasWord_of_absent (absent transport listed).1)
  · rcases behind.split_run isWord space (by decide) with keyword | behind
    · exact absurd keyword (not_hasWord_of_absent (absent transport listed).2)
    · rcases behind.split_run isWord ending (by decide) with inside | nothing
      · exact inside
      · exact absurd nothing (not_hasWord_nil isWord)

/-- A line that exports a name has the word that the name begins with. -/
theorem hasWord_exportLine {name transport : String} {rest : List Char}
    (split : name.toList = transport.toList ++ rest) (closes : closesWord rest = true)
    (front : List Char) :
    HasWord transport.toList (front ++ '\n' :: '\n' :: exportLine name) := by
  refine ⟨front ++ '\n' :: '\n' :: "export default ".toList, rest ++ ";\n".toList, ?_, ?_, ?_⟩
  · simp [exportLine, split]
  · apply endsOutside_behind _ (List.cons_ne_nil _ _)
    rintro c ⟨⟩
    decide
  · exact Safety.closesWord_append_of_closes closes (by decide)

/-- In a clean source with a component that has the name of a network transport for a word, its name
begins with that word, and stands right behind the word `function`. -/
theorem transport_of_declares {name transport : String} (clean : Clean text)
    (declares : Declares text name) (listed : transport ∈ transportNames)
    (has : HasWord transport.toList name.toList) :
    NamesTransport name.toList ∧ ∃ front back,
      text = front ++ ("function".toList ++ (name.toList ++ back)) := by
  obtain ⟨front, _, back, rfl, ⟨rfl, _, _, ends⟩, opens⟩ := declares
  have closes : closesWord back = true := by
    cases back with
    | nil => rfl
    | cons c rest =>
        have other := ends c rfl
        rw [isNameChar, Bool.or_eq_false_iff] at other
        simp [closesWord, other.1]
  -- The word is no word of the source, so a longer one goes on in front of it.
  have inside : ¬ EndsOutside front := by
    intro outside
    exact clean.not_hasWord listed (has.within outside closes)
  apply And.intro
  · obtain ⟨before, rest, split, outside, stops⟩ := has
    cases before with
    | nil => exact ⟨transport, listed, rest, by rw [split, List.nil_append], stops⟩
    | cons c before =>
        refine absurd ?_ (clean.not_hasWord listed)
        refine ⟨front ++ c :: before, rest ++ back, ?_, endsOutside_behind outside
          (List.cons_ne_nil _ _), Safety.closesWord_append_of_closes stops closes⟩
        rw [split]
        simp only [List.append_assoc]
  · obtain ⟨lead, rfl⟩ := opens.resolve_left inside
    exact ⟨lead, back, List.append_assoc _ _ _⟩

/-! ## Repairs -/

/-- A repair exports a component whose name begins with the name of a network transport as a word. -/
def ExportsTransport (source : String) (errors : List String) : Prop :=
  AddsExport source errors ∧ ∃ name, lastComponent? (boundSource source errors).toList = some name ∧
    NamesTransport name.toList

theorem clean_boundSource (clean : Clean source.toList) :
    Clean (boundSource source errors).toList := by
  have unfenced : Clean (unfencedSource source errors).toList := by
    unfold unfencedSource Rule.applied
    split
    next => exact clean_unfence clean
    next => exact clean
  unfold boundSource Rule.applied
  split
  next => exact clean_bindMembers _ unfenced
  next => exact unfenced

/-- Only a network transport that is exported breaks a rule in the repair of a clean source. -/
theorem exportsTransport_of_broken (clean : Clean source.toList) {rule : Safety.Rule}
    (broken : Broken (exportedSource source errors).toList rule) :
    rule = .rawTransport ∧ ExportsTransport source errors ∧ ∃ name front back,
      lastComponent? (boundSource source errors).toList = some name ∧
      (boundSource source errors).toList =
        front ++ ("function".toList ++ (name.toList ++ back)) := by
  have bound : Clean (boundSource source errors).toList := clean_boundSource clean
  have adds : AddsExport source errors := by
    rw [addsExport_iff]
    intro same
    rw [same] at broken
    exact bound rule broken
  obtain ⟨_, name, last, spelled⟩ := exportedSource_of_addsExport adds
  have declares := declares_of_lastComponent? last
  obtain ⟨_, _, _, _, stands, _⟩ := declares
  rw [spelled] at broken
  rcases Safety.broken_of_trimRight_append (unmarked_exportLine stands.whole) broken with
    earlier | ⟨raw, transport, listed, has⟩
  · exact absurd earlier (bound rule)
  · obtain ⟨names, front, back, glued⟩ := transport_of_declares bound
      (declares_of_lastComponent? last) listed (hasWord_of_exportLine listed has)
    exact ⟨raw, ⟨adds, name, last, names⟩, name, front, back, last, glued⟩

/-- A network transport that is exported breaks the rule about those. -/
theorem broken_of_exportsTransport (exports : ExportsTransport source errors) :
    Broken (exportedSource source errors).toList .rawTransport := by
  obtain ⟨adds, name, last, transport, listed, rest, split, closes⟩ := exports
  obtain ⟨_, other, last', spelled⟩ := exportedSource_of_addsExport adds
  cases last.symm.trans last'
  rw [spelled, broken_rawTransport_iff]
  exact ⟨transport, listed, hasWord_exportLine split closes _⟩

/-- What the linter finds in the repair of a source in which it finds nothing. -/
structure RepairsClean (source : String) (errors : List String) (patch : Patch) : Prop where
  /-- Nothing, or that the source is too large, unless a network transport is exported. -/
  clean_iff : (Safety.check patch.source = [] ∨
      ∃ size, Safety.check patch.source = [Safety.oversizedIssue size]) ↔
    ¬ (patch.source.utf8ByteSize ≤ Safety.maxSourceBytes ∧ ExportsTransport source errors)
  /-- Then it finds that and nothing else. -/
  only_transport : patch.source.utf8ByteSize ≤ Safety.maxSourceBytes →
    ExportsTransport source errors → (Safety.check patch.source).map (·.rule) = [.rawTransport]
  /-- The transport is no word of the source: it stands right behind the word `function`. -/
  glued : ExportsTransport source errors → ∃ name front back,
    lastComponent? (boundSource source errors).toList = some name ∧
    (boundSource source errors).toList = front ++ ("function".toList ++ (name.toList ++ back))

/-- The repair of a source in which the linter finds nothing breaks no rule but one, by the export of
a component that has the name of a network transport. -/
theorem repair_clean_iff {patch : Patch} (clean : Safety.check source = [])
    (proposed : propose source errors = some patch) : RepairsClean source errors patch := by
  have unbroken : Clean source.toList := (Safety.check_eq_nil_iff.mp clean).2
  have whole : patch.source = exportedSource source errors := by
    rw [propose_eq, Option.ite_none_left_eq_some] at proposed
    rw [← Option.some.inj proposed.2]
  have only : patch.source.utf8ByteSize ≤ Safety.maxSourceBytes →
      ExportsTransport source errors → (Safety.check patch.source).map (·.rule) = [.rawTransport] := by
    intro small exports
    have broken (rule : Safety.Rule) :
        Broken patch.source.toList rule ↔ rule = .rawTransport := by
      rw [whole]
      constructor
      · exact fun broken => (exportsTransport_of_broken unbroken broken).1
      · rintro rfl
        exact broken_of_exportsTransport exports
    rw [Safety.rules_of_check small]
    simp only [broken]
    decide
  refine ⟨?_, only, fun exports => ?_⟩
  · constructor
    · rintro found ⟨small, exports⟩
      have rules := only small exports
      rcases found with nothing | ⟨size, large⟩
      · rw [nothing] at rules
        cases rules
      · rw [large] at rules
        cases rules
    · intro harmless
      rcases Nat.lt_or_ge Safety.maxSourceBytes patch.source.utf8ByteSize with large | small
      · exact Or.inr ⟨_, Safety.check_of_large large⟩
      · apply Or.inl
        apply Safety.check_eq_nil_iff.mpr
        refine ⟨small, fun rule broken => harmless ⟨small, ?_⟩⟩
        rw [whole] at broken
        exact (exportsTransport_of_broken unbroken broken).2.1
  · exact (exportsTransport_of_broken unbroken (broken_of_exportsTransport exports)).2.2

/-- A component is exported and the linter finds nothing still. -/
theorem repair_clean_iff_component :
    let source := "function App() \x7b\x7d\n"
    let errors := ["Module has no default export."]
    let patch : Patch := ⟨"function App() \x7b\x7d\n\nexport default App;\n", [.addDefaultExport]⟩
    Safety.check source = [] ∧ propose source errors = some patch ∧ RepairsClean source errors patch :=
  have clean : Safety.check "function App() \x7b\x7d\n" = [] := by decide +kernel
  have proposed : propose "function App() \x7b\x7d\n" ["Module has no default export."] = some
      ⟨"function App() \x7b\x7d\n\nexport default App;\n", [.addDefaultExport]⟩ := by decide +kernel
  ⟨clean, proposed, repair_clean_iff clean proposed⟩

/-- A call of a function whose name begins with the word `function` is taken for a component, and a
network transport is exported from a source that has none. -/
theorem repair_adds_transport :
    ¬ ∀ (source : String) (errors : List String) (patch : Patch), Safety.check source = [] →
      propose source errors = some patch → Safety.check patch.source = [] ∨
        ∃ size, Safety.check patch.source = [Safety.oversizedIssue size] := by
  intro stays
  have rules : (Safety.check "functionWebSocket();\n\nexport default WebSocket;\n").map (·.rule) =
      [.rawTransport] := by decide +kernel
  rcases stays "functionWebSocket();\n" ["Module has no default export."]
      ⟨"functionWebSocket();\n\nexport default WebSocket;\n", [.addDefaultExport]⟩
      (by decide +kernel) (by decide +kernel) with nothing | ⟨size, large⟩
  · rw [nothing] at rules
    cases rules
  · rw [large] at rules
    cases rules

end Lectern.Repair
