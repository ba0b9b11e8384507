/-
Module: Lectern.Proofs.Repair.Components
Purpose: What the search for a component finds: the last one that the text of a source declares at the
  start of a line. Its name stands in the source with no name going on behind it, and with no word going
  on in front of it unless that is `function`.
Trusted boundary: none
Main exports: StandsAlone, Component, componentAt?_eq_some_iff, Component.IsLast,
  exists_isLast_of_lastComponent?, Declares, declares_of_lastComponent?
-/
import Lectern.Proofs.Safety.Edits
import Lectern.Repair.Fix

namespace Lectern.Repair

open Lectern.Text
open Lectern.Safety (EndsOutside endsOutside_nil endsOutside_append not_isWordChar_of_isBlank)

variable {text rest front lead blanks gap : List Char} {word other name : String}

/-! ## Keywords and the blanks behind them -/

/-- One blank or more. -/
structure IsGap (gap : List Char) : Prop where
  filled : gap ≠ []
  blank : ∀ c ∈ gap, isBlank c = true

/-- No blank stands at the start of a text. -/
abbrev StartsFilled (text : List Char) : Prop := ∀ c ∈ text.head?, isBlank c = false

theorem dropWhile_isBlank (blank : ∀ c ∈ blanks, isBlank c = true) (filled : StartsFilled rest) :
    (blanks ++ rest).dropWhile isBlank = rest := by
  rw [List.dropWhile_append_of_pos blank]
  cases rest with
  | nil => rfl
  | cons c rest => rw [List.dropWhile_cons, filled c rfl, if_neg Bool.false_ne_true]

theorem startsFilled_dropWhile (text : List Char) : StartsFilled (text.dropWhile isBlank) := by
  intro c first
  have stops := List.head?_dropWhile_not isBlank text
  rw [Option.mem_def.mp first] at stops
  simpa using stops

theorem afterBlanks?_eq_some_iff : afterBlanks? text = some rest ↔
    ∃ gap, IsGap gap ∧ text = gap ++ rest ∧ StartsFilled rest := by
  constructor
  · intro found
    unfold afterBlanks? at found
    split at found
    next c inside =>
      split at found
      next blank =>
        cases found
        refine ⟨c :: inside.takeWhile isBlank, ⟨List.cons_ne_nil _ _, ?_⟩, ?_,
          startsFilled_dropWhile inside⟩
        · exact List.forall_mem_cons.mpr ⟨blank, List.all_eq_true.mp List.all_takeWhile⟩
        · rw [List.cons_append, List.takeWhile_append_dropWhile]
      next => cases found
    next => cases found
  · rintro ⟨gap, ⟨filled, blank⟩, rfl, starts⟩
    cases gap with
    | nil => exact absurd rfl filled
    | cons c gap =>
        obtain ⟨first, others⟩ := List.forall_mem_cons.mp blank
        simp only [List.cons_append, afterBlanks?, first, if_true]
        rw [dropWhile_isBlank others starts]

theorem afterKeyword?_eq_some_iff : afterKeyword? word text = some rest ↔
    ∃ gap, IsGap gap ∧ text = word.toList ++ (gap ++ rest) ∧ StartsFilled rest := by
  rw [afterKeyword?, Option.bind_eq_some_iff]
  constructor
  · rintro ⟨behind, starts, blanks⟩
    obtain ⟨gap, isGap, rfl, filled⟩ := afterBlanks?_eq_some_iff.mp blanks
    exact ⟨gap, isGap, after?_eq_some_iff.mp starts, filled⟩
  · rintro ⟨gap, isGap, rfl, filled⟩
    exact ⟨gap ++ rest, after?_eq_some_iff.mpr rfl,
      afterBlanks?_eq_some_iff.mpr ⟨gap, isGap, rfl, filled⟩⟩

/-- Neither of two words goes on with the other. -/
abbrev Differs (word other : String) : Prop :=
  ¬ (word.toList <+: other.toList ∨ other.toList <+: word.toList)

theorem after?_eq_none_of_differs (differs : Differs word other) :
    after? word.toList (other.toList ++ rest) = none := by
  rw [Option.eq_none_iff_forall_not_mem]
  intro behind found
  have starts := after?_eq_some_iff.mp found
  apply differs
  exact List.prefix_or_prefix_of_prefix ⟨behind, starts.symm⟩ (List.prefix_append _ _)

theorem afterKeyword?_eq_none_of_differs (differs : Differs word other) :
    afterKeyword? word (other.toList ++ rest) = none := by
  rw [afterKeyword?, after?_eq_none_of_differs differs]
  rfl

/-- A keyword with a gap behind it, or nothing. -/
def IsOptional (word : String) (lead : List Char) : Prop :=
  lead = [] ∨ ∃ gap, IsGap gap ∧ lead = word.toList ++ gap

theorem exists_isOptional_of_skipKeyword (word : String) (text : List Char) :
    ∃ lead, IsOptional word lead ∧ text = lead ++ skipKeyword word text := by
  unfold skipKeyword
  cases found : afterKeyword? word text with
  | none => exact ⟨[], Or.inl rfl, rfl⟩
  | some rest =>
      obtain ⟨gap, isGap, split, _⟩ := afterKeyword?_eq_some_iff.mp found
      refine ⟨word.toList ++ gap, Or.inr ⟨gap, isGap, rfl⟩, ?_⟩
      rw [split, List.append_assoc]
      rfl

theorem skipKeyword_of_isOptional (optional : IsOptional word lead) (filled : StartsFilled rest)
    (without : afterKeyword? word rest = none) : skipKeyword word (lead ++ rest) = rest := by
  unfold skipKeyword
  rcases optional with rfl | ⟨gap, isGap, rfl⟩
  · rw [List.nil_append, without]
    rfl
  · have found : afterKeyword? word (word.toList ++ gap ++ rest) = some rest :=
      afterKeyword?_eq_some_iff.mpr ⟨gap, isGap, List.append_assoc _ _ _, filled⟩
    rw [found]
    rfl

/-! ## Names -/

/-- A text starts with a name and no name goes on behind it. -/
structure StandsAlone (name : String) (text back : List Char) : Prop where
  split : text = name.toList ++ back
  filled : name.toList ≠ []
  whole : ∀ c ∈ name.toList, isNameChar c = true
  ends : ∀ c ∈ back.head?, isNameChar c = false

theorem isNameChar_of_capital {c : Char} (capital : ('A' ≤ c && c ≤ 'Z') = true) :
    isNameChar c = true := by
  have ascii : c.toNat < 128 := by
    simp only [Bool.and_eq_true, decide_eq_true_eq] at capital
    exact Nat.lt_of_le_of_lt (show c.toNat ≤ 'Z'.toNat from capital.2) (by decide)
  simp [isNameChar, isWordChar, ascii, isAsciiWordChar, capital]

theorem standsAlone_of_componentName? (found : componentName? text = some name) :
    ∃ back, StandsAlone name text back := by
  unfold componentName? at found
  split at found
  next c rest =>
    split at found
    next capital =>
      cases found
      refine ⟨rest.dropWhile isNameChar, ?_, ?_, ?_, ?_⟩
      · rw [String.toList_ofList, List.cons_append, List.takeWhile_append_dropWhile]
      · rw [String.toList_ofList]
        exact List.cons_ne_nil _ _
      · rw [String.toList_ofList]
        exact List.forall_mem_cons.mpr ⟨isNameChar_of_capital capital,
          fun d member => List.all_eq_true.mp List.all_takeWhile d member⟩
      · intro d first
        have stops := List.head?_dropWhile_not isNameChar rest
        rw [Option.mem_def.mp first] at stops
        simpa using stops
    next => cases found
  next => cases found

/-- A name starts with a capital letter. -/
def IsCapital (name : String) : Prop := ∃ c ∈ name.toList.head?, ('A' ≤ c && c ≤ 'Z') = true

theorem componentName?_eq_some_iff : componentName? text = some name ↔
    IsCapital name ∧ ∃ back, StandsAlone name text back := by
  constructor
  · intro found
    refine ⟨?_, standsAlone_of_componentName? found⟩
    unfold componentName? at found
    split at found
    next c rest =>
      split at found
      next capital =>
        cases found
        exact ⟨c, by simp, capital⟩
      next => cases found
    next => cases found
  · rintro ⟨⟨c, first, capital⟩, back, rfl, _, whole, ends⟩
    obtain ⟨more, spelled⟩ := List.head?_eq_some_iff.mp (Option.mem_def.mp first)
    have others : ∀ d ∈ more, isNameChar d = true := by
      intro d member
      exact whole d (by rw [spelled]; exact List.mem_cons_of_mem _ member)
    have taken : (more ++ back).takeWhile isNameChar = more := by
      rw [List.takeWhile_append_of_pos others]
      cases back with
      | nil => rw [List.takeWhile_nil, List.append_nil]
      | cons d back =>
          rw [List.takeWhile_cons, ends d rfl, if_neg Bool.false_ne_true, List.append_nil]
    simp only [spelled, List.cons_append, componentName?, capital, if_true, taken]
    rw [← spelled, String.ofList_toList]

theorem code_of_capital {c : Char} (capital : ('A' ≤ c && c ≤ 'Z') = true) :
    65 ≤ c.toNat ∧ c.toNat ≤ 90 := by
  obtain ⟨low, high⟩ := Bool.and_eq_true_iff.mp capital
  exact ⟨decide_eq_true_iff.mp low, decide_eq_true_iff.mp high⟩

/-- A name with a capital letter spelled out. -/
theorem IsCapital.exists_cons (capital : IsCapital name) :
    ∃ c more, name.toList = c :: more ∧ 65 ≤ c.toNat ∧ c.toNat ≤ 90 := by
  obtain ⟨c, first, isCapital⟩ := capital
  obtain ⟨more, spelled⟩ := List.head?_eq_some_iff.mp (Option.mem_def.mp first)
  exact ⟨c, more, spelled, code_of_capital isCapital⟩

theorem IsCapital.startsFilled (capital : IsCapital name) : StartsFilled (name.toList ++ rest) := by
  obtain ⟨c, more, spelled, low, high⟩ := capital.exists_cons
  rw [spelled]
  rintro _ ⟨⟩
  simp only [isBlank, Bool.or_eq_false_iff, Bool.and_eq_false_iff, decide_eq_false_iff_not,
    beq_eq_false_iff_ne]
  omega

/-! ## Openings -/

/-- Blanks, and a star with blanks behind it, as they may stand behind the word `function`. -/
def IsStarred (middle : List Char) : Prop :=
  ∃ blanks star, middle = blanks ++ star ∧ (∀ c ∈ blanks, isBlank c = true) ∧
    (star = [] ∨ ∃ more, star = '*' :: more ∧ ∀ c ∈ more, isBlank c = true)

/-- What a text goes on with behind blanks, and behind a star and blanks if one stands there. -/
def skipStarred (text : List Char) : List Char :=
  match text.dropWhile isBlank with
  | '*' :: inside => inside.dropWhile isBlank
  | _ => text.dropWhile isBlank

theorem exists_isStarred_of_skipStarred (text : List Char) :
    ∃ middle, IsStarred middle ∧ text = middle ++ skipStarred text := by
  have taken (text : List Char) : ∀ c ∈ text.takeWhile isBlank, isBlank c = true :=
    List.all_eq_true.mp List.all_takeWhile
  have split : text = text.takeWhile isBlank ++ text.dropWhile isBlank :=
    List.takeWhile_append_dropWhile.symm
  unfold skipStarred
  split
  next inside star =>
    refine ⟨text.takeWhile isBlank ++ '*' :: inside.takeWhile isBlank, ?_, ?_⟩
    · exact ⟨_, _, rfl, taken text, Or.inr ⟨_, rfl, taken inside⟩⟩
    · rw [List.append_assoc, List.cons_append, List.takeWhile_append_dropWhile, ← star, ← split]
  next =>
    refine ⟨text.takeWhile isBlank, ⟨_, [], (List.append_nil _).symm, taken text, Or.inl rfl⟩, ?_⟩
    exact split

theorem skipStarred_of_isStarred {middle : List Char} (starred : IsStarred middle)
    (filled : StartsFilled rest) (plain : rest.head? ≠ some '*') :
    skipStarred (middle ++ rest) = rest := by
  obtain ⟨blanks, star, rfl, blank, rfl | ⟨more, rfl, blankMore⟩⟩ := starred
  · rw [List.append_nil, skipStarred, dropWhile_isBlank blank filled]
    split
    next => exact absurd rfl plain
    next => rfl
  · have starts : StartsFilled ('*' :: more ++ rest) := by
      rintro _ ⟨⟩
      decide
    rw [List.append_assoc, skipStarred, dropWhile_isBlank blank starts]
    exact dropWhile_isBlank blankMore filled

theorem functionName?_eq (text : List Char) :
    functionName? text = (after? "function".toList (skipKeyword "async" text)).bind fun rest =>
      componentName? (skipStarred rest) :=
  rfl

/-- The words that a component may be declared with, as the search knows them. Behind the word
`function` it asks for no blank. -/
inductive IsOpening : List Char → Prop
  | function {async middle : List Char} (optional : IsOptional "async" async)
      (starred : IsStarred middle) : IsOpening (async ++ ("function".toList ++ middle))
  | binding {word : String} {gap : List Char} (listed : word ∈ ["const", "let", "var", "class"])
      (isGap : IsGap gap) : IsOpening (word.toList ++ gap)

theorem functionName?_eq_some_iff : functionName? text = some name ↔
    ∃ async middle back, IsOptional "async" async ∧ IsStarred middle ∧ IsCapital name ∧
      text = async ++ ("function".toList ++ (middle ++ (name.toList ++ back))) ∧
      StandsAlone name (name.toList ++ back) back := by
  rw [functionName?_eq, Option.bind_eq_some_iff]
  constructor
  · rintro ⟨rest, keyword, named⟩
    obtain ⟨async, optional, split⟩ := exists_isOptional_of_skipKeyword "async" text
    obtain ⟨middle, starred, goesOn⟩ := exists_isStarred_of_skipStarred rest
    obtain ⟨capital, back, stands⟩ := componentName?_eq_some_iff.mp named
    refine ⟨async, middle, back, optional, starred, capital, ?_, stands.split ▸ stands⟩
    rw [← stands.split, ← goesOn, ← after?_eq_some_iff.mp keyword]
    exact split
  · rintro ⟨async, middle, back, optional, starred, capital, rfl, stands⟩
    have skipped : skipKeyword "async" (async ++ ("function".toList ++
        (middle ++ (name.toList ++ back)))) = "function".toList ++
          (middle ++ (name.toList ++ back)) := by
      apply skipKeyword_of_isOptional optional
      · rintro _ ⟨⟩
        decide
      · exact afterKeyword?_eq_none_of_differs (by decide)
    have plain : (name.toList ++ back).head? ≠ some '*' := by
      obtain ⟨c, more, spelled, low, _⟩ := capital.exists_cons
      rw [spelled]
      rintro ⟨⟩
      exact absurd low (by decide)
    refine ⟨middle ++ (name.toList ++ back), after?_eq_some_iff.mpr skipped, ?_⟩
    rw [skipStarred_of_isStarred starred capital.startsFilled plain]
    exact componentName?_eq_some_iff.mpr ⟨capital, back, stands⟩

/-- Where one word alone gives something, that is found first. -/
theorem findSome?_of_unique {α : Type} {find : String → Option α} {words : List String} {value : α}
    (listed : word ∈ words) (here : find word = some value)
    (others : ∀ other ∈ words, other ≠ word → find other = none) :
    words.findSome? find = some value := by
  cases found : words.findSome? find with
  | none =>
      rw [List.findSome?_eq_none_iff.mp found word listed] at here
      cases here
  | some result =>
      obtain ⟨other, known, finds⟩ := List.exists_of_findSome?_eq_some found
      by_cases same : other = word
      · rw [← finds, same, here]
      · rw [others other known same] at finds
        cases finds

theorem bindingName?_eq_some_iff : bindingName? text = some name ↔
    ∃ word ∈ ["const", "let", "var", "class"], ∃ gap back, IsGap gap ∧ IsCapital name ∧
      text = word.toList ++ (gap ++ (name.toList ++ back)) ∧
      StandsAlone name (name.toList ++ back) back := by
  rw [bindingName?, Option.bind_eq_some_iff]
  constructor
  · rintro ⟨rest, keyword, named⟩
    obtain ⟨word, listed, after⟩ := List.exists_of_findSome?_eq_some keyword
    obtain ⟨gap, isGap, split, _⟩ := afterKeyword?_eq_some_iff.mp after
    obtain ⟨capital, back, stands⟩ := componentName?_eq_some_iff.mp named
    refine ⟨word, listed, gap, back, isGap, capital, ?_, stands.split ▸ stands⟩
    rw [← stands.split]
    exact split
  · rintro ⟨word, listed, gap, back, isGap, capital, rfl, stands⟩
    have here : afterKeyword? word (word.toList ++ (gap ++ (name.toList ++ back))) =
        some (name.toList ++ back) :=
      afterKeyword?_eq_some_iff.mpr ⟨gap, isGap, rfl, capital.startsFilled⟩
    have apart : ∀ other ∈ ["const", "let", "var", "class"],
        ∀ word ∈ ["const", "let", "var", "class"], other ≠ word → Differs other word := by decide
    refine ⟨name.toList ++ back, ?_, componentName?_eq_some_iff.mpr ⟨capital, back, stands⟩⟩
    apply findSome?_of_unique listed here
    intro other known differs
    exact afterKeyword?_eq_none_of_differs (apart other known word listed differs)

theorem functionName?_eq_none_of_differs (async : Differs "async" word)
    (function : Differs "function" word) : functionName? (word.toList ++ rest) = none := by
  have same : skipKeyword "async" (word.toList ++ rest) = word.toList ++ rest := by
    rw [skipKeyword, afterKeyword?_eq_none_of_differs async]
    rfl
  rw [functionName?_eq, same, after?_eq_none_of_differs function]
  rfl

/-- A name is found exactly behind an opening. -/
theorem declaredName?_eq_some_iff :
    (functionName? text).or (bindingName? text) = some name ↔
      ∃ opening back, IsOpening opening ∧ IsCapital name ∧
        text = opening ++ (name.toList ++ back) ∧ StandsAlone name (name.toList ++ back) back := by
  constructor
  · intro found
    rcases Option.or_eq_some_iff.mp found with function | ⟨_, binding⟩
    · obtain ⟨async, middle, back, optional, starred, capital, spelled, stands⟩ :=
        functionName?_eq_some_iff.mp function
      refine ⟨_, back, .function optional starred, capital, ?_, stands⟩
      rw [List.append_assoc, List.append_assoc]
      exact spelled
    · obtain ⟨word, listed, gap, back, isGap, capital, spelled, stands⟩ :=
        bindingName?_eq_some_iff.mp binding
      refine ⟨_, back, .binding listed isGap, capital, ?_, stands⟩
      rw [List.append_assoc]
      exact spelled
  · rintro ⟨opening, back, opens, capital, rfl, stands⟩
    cases opens with
    | @function async middle optional starred =>
        have found := functionName?_eq_some_iff.mpr
          ⟨async, middle, back, optional, starred, capital, rfl, stands⟩
        rw [List.append_assoc, List.append_assoc, found, Option.some_or]
    | @binding word gap listed isGap =>
        have apart : ∀ word ∈ ["const", "let", "var", "class"],
            Differs "async" word ∧ Differs "function" word := by decide
        obtain ⟨async, function⟩ := apart word listed
        have found := bindingName?_eq_some_iff.mpr
          ⟨word, listed, gap, back, isGap, capital, rfl, stands⟩
        rw [List.append_assoc, functionName?_eq_none_of_differs async function, found,
          Option.none_or]

/-- Each opening starts with one of six words. -/
theorem IsOpening.exists_word {opening : List Char} (opens : IsOpening opening) :
    ∃ word ∈ ["async", "function", "const", "let", "var", "class"], ∃ more,
      opening = word.toList ++ more := by
  cases opens with
  | @function async middle optional starred =>
      rcases optional with rfl | ⟨gap, _, rfl⟩
      · exact ⟨"function", by decide, middle, rfl⟩
      · exact ⟨"async", by decide, _, List.append_assoc _ _ _⟩
  | @binding word gap listed isGap =>
      have known : ∀ word ∈ ["const", "let", "var", "class"],
          word ∈ ["async", "function", "const", "let", "var", "class"] := by decide
      exact ⟨word, known word listed, gap, rfl⟩

/-! ## The search -/

/-- A component that a text declares at the start of a line. -/
structure Component where
  /-- The lines before. -/
  front : List Char
  /-- The word `export` and the gap behind it, if it stands there. -/
  exported : List Char
  /-- The words that the declaration starts with, and what stands between them and the name. -/
  opening : List Char
  name : String
  back : List Char

namespace Component

/-- The text from the opening on. -/
def declared (component : Component) : List Char :=
  component.opening ++ (component.name.toList ++ component.back)

/-- A text declares a component at the start of a line, as far as its characters tell. -/
structure In (component : Component) (text : List Char) : Prop where
  split : text = component.front ++ (component.exported ++ component.declared)
  starts : ∀ c ∈ component.front.getLast?, c = '\n'
  exported : IsOptional "export" component.exported
  opens : IsOpening component.opening
  capital : IsCapital component.name
  stands : StandsAlone component.name (component.name.toList ++ component.back) component.back

end Component

theorem startsLine_iff {front : List Char} :
    startsLine ⟨front.reverse, rest⟩ = true ↔ ∀ c ∈ front.getLast?, c = '\n' := by
  unfold startsLine
  rw [← List.head?_reverse]
  cases front.reverse with
  | nil => simp
  | cons c before => simp

/-- Behind `export` and blanks, the search looks at what is declared. -/
theorem Component.In.skipKeyword {component : Component} (declares : component.In text) :
    skipKeyword "export" (component.exported ++ component.declared) = component.declared := by
  obtain ⟨word, listed, more, split⟩ := declares.opens.exists_word
  have apart : ∀ word ∈ ["async", "function", "const", "let", "var", "class"],
      Differs "export" word ∧ word.toList.head?.all (!isBlank ·) = true ∧ word.toList ≠ [] := by
    decide
  obtain ⟨differs, filled, some⟩ := apart word listed
  have spelled : component.declared =
      word.toList ++ (more ++ (component.name.toList ++ component.back)) := by
    rw [Component.declared, split, List.append_assoc]
  rw [spelled]
  apply skipKeyword_of_isOptional declares.exported
  · unfold StartsFilled
    rw [List.head?_append_of_ne_nil _ some]
    intro c first
    simpa using (Option.all_eq_true _ _).mp filled c first
  · exact afterKeyword?_eq_none_of_differs differs

/-- The search finds a component in a place exactly if the text declares one there. -/
theorem componentAt?_eq_some_iff {front : List Char} :
    componentAt? ⟨front.reverse, rest⟩ = some name ↔
      ∃ component : Component, component.In (front ++ rest) ∧ component.front = front ∧
        component.name = name := by
  constructor
  · intro found
    unfold componentAt? at found
    split at found
    next starts =>
      obtain ⟨exported, optional, split⟩ := exists_isOptional_of_skipKeyword "export" rest
      obtain ⟨opening, back, opens, capital, spelled, stands⟩ :=
        declaredName?_eq_some_iff.mp found
      refine ⟨⟨front, exported, opening, name, back⟩, ⟨?_, startsLine_iff.mp starts, optional,
        opens, capital, stands⟩, rfl, rfl⟩
      rw [Component.declared, ← spelled]
      exact congrArg _ split
    next => cases found
  · rintro ⟨component, declares, rfl, rfl⟩
    have behind : rest = component.exported ++ component.declared :=
      List.append_cancel_left declares.split
    rw [componentAt?, if_pos (startsLine_iff.mpr declares.starts), behind, declares.skipKeyword]
    exact declaredName?_eq_some_iff.mpr
      ⟨_, _, declares.opens, declares.capital, rfl, declares.stands⟩

/-- The name that the search comes to is found in some place and nothing is found in a later one, or
it was found before and nothing is found here. -/
theorem cases_of_lastComponentFrom {found : Option String} {before : List Char}
    (last : lastComponentFrom found before text = some name) :
    (∃ front rest, text = front ++ rest ∧ componentAt? ⟨front.reverse ++ before, rest⟩ = some name ∧
      ∀ later behind, text = later ++ behind → front.length < later.length →
        componentAt? ⟨later.reverse ++ before, behind⟩ = none) ∨
    found = some name ∧ ∀ later behind, text = later ++ behind →
      componentAt? ⟨later.reverse ++ before, behind⟩ = none := by
  induction text generalizing found before with
  | nil =>
      rcases Option.or_eq_some_iff.mp last with here | ⟨nothing, known⟩
      · refine Or.inl ⟨[], [], rfl, here, fun later behind split longer => ?_⟩
        rw [(List.append_eq_nil_iff.mp split.symm).1] at longer
        cases longer
      · refine Or.inr ⟨known, fun later behind split => ?_⟩
        obtain ⟨rfl, rfl⟩ := List.append_eq_nil_iff.mp split.symm
        exact nothing
  | cons c rest inductionHypothesis =>
      have turned (front : List Char) : (c :: front).reverse ++ before =
          front.reverse ++ c :: before := by
        rw [List.reverse_cons, List.append_assoc, List.singleton_append]
      rcases inductionHypothesis last with ⟨front, inside, rfl, here, nothing⟩ | ⟨known, nothing⟩
      · refine Or.inl ⟨c :: front, inside, rfl, ?_, fun later behind split longer => ?_⟩
        · rw [turned]
          exact here
        · cases later with
          | nil => cases longer
          | cons d later =>
              obtain ⟨rfl, goesOn⟩ := List.cons_eq_cons.mp split
              rw [turned]
              exact nothing later behind goesOn (Nat.lt_of_succ_lt_succ longer)
      · rcases Option.or_eq_some_iff.mp known with here | ⟨absent, known⟩
        · refine Or.inl ⟨[], c :: rest, rfl, here, fun later behind split longer => ?_⟩
          cases later with
          | nil => cases longer
          | cons d later =>
              obtain ⟨rfl, goesOn⟩ := List.cons_eq_cons.mp split
              rw [turned]
              exact nothing later behind goesOn
        · refine Or.inr ⟨known, fun later behind split => ?_⟩
          cases later with
          | nil =>
              obtain rfl : c :: rest = behind := split
              exact absent
          | cons d later =>
              obtain ⟨rfl, goesOn⟩ := List.cons_eq_cons.mp split
              rw [turned]
              exact nothing later behind goesOn

/-- Two components that a text declares in one place have one name. -/
theorem Component.In.name_eq {component other : Component} (declares : component.In text)
    (declaresOther : other.In text) (front : other.front = component.front) :
    other.name = component.name := by
  have found {component : Component} (declares : component.In text) :
      componentAt? ⟨component.front.reverse, component.exported ++ component.declared⟩ =
        some component.name :=
    componentAt?_eq_some_iff.mpr ⟨component, declares.split ▸ declares, rfl, rfl⟩
  have same : component.front ++ (component.exported ++ component.declared) =
      component.front ++ (other.exported ++ other.declared) := by
    rw [← declares.split, declaresOther.split, front]
  have here := found declares
  rw [List.append_cancel_left same, ← front, found declaresOther] at here
  exact Option.some.inj here

/-- Of the components that a text declares, this one starts last. -/
structure Component.IsLast (component : Component) (text : List Char) : Prop where
  declared : component.In text
  last : ∀ other : Component, other.In text → other.front.length < component.front.length ∨
    other.front = component.front ∧ other.name = component.name

/-- The search comes to the component that starts last. -/
theorem exists_isLast_of_lastComponent? (last : lastComponent? text = some name) :
    ∃ component : Component, component.IsLast text ∧ component.name = name := by
  rcases cases_of_lastComponentFrom last with ⟨front, rest, rfl, here, nothing⟩ | ⟨⟨⟩, _⟩
  rw [List.append_nil] at here
  obtain ⟨component, declares, rfl, named⟩ := componentAt?_eq_some_iff.mp here
  refine ⟨component, ⟨declares, fun other declaresOther => ?_⟩, named⟩
  rcases Nat.lt_trichotomy other.front.length component.front.length with earlier | same | later
  · exact Or.inl earlier
  · have front := List.append_inj_left (declaresOther.split.symm.trans declares.split) same
    exact Or.inr ⟨front, declares.name_eq declaresOther front⟩
  · have absent := nothing other.front (other.exported ++ other.declared) declaresOther.split later
    have found : componentAt? ⟨other.front.reverse, other.exported ++ other.declared⟩ =
        some other.name :=
      componentAt?_eq_some_iff.mpr ⟨other, declaresOther.split ▸ declaresOther, rfl, rfl⟩
    rw [List.append_nil, found] at absent
    cases absent

/-! ## What stands in front of a name -/

theorem endsOutside_of_blank (blank : ∀ c ∈ blanks, isBlank c = true) : EndsOutside blanks := by
  intro c last
  exact not_isWordChar_of_isBlank (blank c (List.mem_of_getLast? last))

/-- What ends outside of words does so behind any text, unless it is empty. -/
theorem endsOutside_behind {mid : List Char} (outside : EndsOutside mid) (filled : mid ≠ []) :
    EndsOutside (front ++ mid) := by
  unfold EndsOutside
  rw [List.getLast?_append_of_ne_nil _ filled]
  exact outside

theorem IsGap.endsOutside (isGap : IsGap gap) : EndsOutside (front ++ gap) :=
  endsOutside_behind (endsOutside_of_blank isGap.blank) isGap.filled

theorem IsOptional.endsOutside (optional : IsOptional word lead) : EndsOutside lead := by
  rcases optional with rfl | ⟨gap, isGap, rfl⟩
  · exact endsOutside_nil
  · exact isGap.endsOutside

theorem IsStarred.endsOutside {middle : List Char} (starred : IsStarred middle) :
    EndsOutside middle := by
  obtain ⟨blanks, star, rfl, blank, rfl | ⟨more, rfl, blankMore⟩⟩ := starred
  · rw [List.append_nil]
    exact endsOutside_of_blank blank
  · have edge : EndsOutside ['*'] := by
      rintro c ⟨⟩
      decide
    have behind : EndsOutside (['*'] ++ more) :=
      endsOutside_append edge (endsOutside_of_blank blankMore)
    exact endsOutside_append (endsOutside_of_blank blank) behind

/-- No word goes on behind an opening, unless it ends with the word `function`. -/
theorem IsOpening.ends {opening : List Char} (opens : IsOpening opening) :
    EndsOutside (front ++ opening) ∨ "function".toList <:+ front ++ opening := by
  cases opens with
  | @function async middle optional starred =>
      rw [← List.append_assoc, ← List.append_assoc]
      cases middle with
      | nil => exact Or.inr ⟨front ++ async, (List.append_nil _).symm⟩
      | cons c middle => exact Or.inl (endsOutside_behind starred.endsOutside (List.cons_ne_nil _ _))
  | @binding word gap listed isGap =>
      rw [← List.append_assoc]
      exact Or.inl isGap.endsOutside

/-- A text declares a component: its name stands alone somewhere, and no word goes on in front of it,
or the word there is `function`. -/
def Declares (text : List Char) (name : String) : Prop :=
  ∃ front inside back, text = front ++ inside ∧ StandsAlone name inside back ∧
    (EndsOutside front ∨ "function".toList <:+ front)

theorem Component.In.declares {component : Component} (isIn : component.In text) :
    Declares text component.name := by
  refine ⟨component.front ++ component.exported ++ component.opening,
    component.name.toList ++ component.back, component.back, ?_, isIn.stands, isIn.opens.ends⟩
  rw [List.append_assoc, List.append_assoc, ← Component.declared, isIn.split]

/-- The last component of a source is declared in it. -/
theorem declares_of_lastComponent? (last : lastComponent? text = some name) :
    Declares text name := by
  obtain ⟨component, isLast, rfl⟩ := exists_isLast_of_lastComponent? last
  exact isLast.declared.declares

end Lectern.Repair
