/-
Module: Lectern.Proofs.Safety.FirstPlaces
Purpose: What a source must not contain, said without patterns, and what the check of a source tells:
  it finds no issue exactly in sources that are small enough and in which no forbidden form starts,
  and else it reports each rule that is broken once, at the first place where it is.
Trusted boundary: none
Main exports: Forbidden, offends_iff, hidesNothing, Reports, check_exact
-/
import Lectern.Proofs.Text.Places
import Lectern.Proofs.Text.Trimming
import Lectern.Safety.Check

namespace Lectern.Safety

open Lectern.Text

/-! ## Forbidden forms -/

/-- A function is called by a name: the name, blanks and an opening parenthesis. -/
def Calls (name : String) (text : List Char) : Prop :=
  ∃ blanks rest, (∀ b ∈ blanks, isBlank b = true) ∧ text = name.toList ++ (blanks ++ '(' :: rest)

/-- The name of a network transport comes first, and no word goes on behind it. -/
def NamesTransport (text : List Char) : Prop :=
  ∃ name ∈ transportNames, ∃ rest, text = name.toList ++ rest ∧ closesWord rest = true

/-- A web address comes behind blanks and one of some quotes. -/
def QuotesAddress (quotes text : List Char) : Prop :=
  ∃ blanks quote scheme rest, (∀ b ∈ blanks, isBlank b = true) ∧ quote ∈ quotes ∧
    scheme ∈ ["https:", "http:"] ∧ text = blanks ++ quote :: (scheme.toList ++ rest)

/-- Code is imported from a web address. A call may quote the address in three ways. -/
inductive ImportsAddress : List Char → Prop
  | call {blanks inside : List Char} (blank : ∀ b ∈ blanks, isBlank b = true)
      (quotes : QuotesAddress ['\'', '\x22', '\x60'] inside) :
      ImportsAddress ("import".toList ++ (blanks ++ '(' :: inside))
  | names {inside : List Char} (quotes : QuotesAddress ['\'', '\x22'] inside) :
      ImportsAddress ("from".toList ++ inside)
  | bare {inside : List Char} (quotes : QuotesAddress ['\'', '\x22'] inside) :
      ImportsAddress ("import".toList ++ inside)

/-- An address names a markup language, but for punctuation at its end. -/
def NamesMarkup (address : List Char) : Prop :=
  ∃ name ∈ namespaceAddresses, ∃ tail, (∀ c ∈ tail, isAddressTail c = true) ∧
    address = name.toList ++ tail

/-- An address comes first that is no name of a markup language: a scheme and at least one character
behind it, up to the first one at which an address ends. -/
def NamesAddress (text : List Char) : Prop :=
  ∃ scheme run rest, scheme ∈ ["https://", "http://"] ∧ run ≠ [] ∧
    (∀ c ∈ run, endsAddress c = false) ∧ (∀ c ∈ rest.head?, endsAddress c = true) ∧
    text = scheme.toList ++ run ++ rest ∧ ¬ NamesMarkup (scheme.toList ++ run)

/-- No word reaches up to the end of a text. -/
def EndsOutside (before : List Char) : Prop := ∀ c ∈ before.getLast?, isWordChar c = false

/-- A rule forbids that one text comes behind another. The size of a source is not a matter of
place. -/
def Forbidden : Rule → List Char → List Char → Prop
  | .networkFetch, before, text => EndsOutside before ∧ Calls "fetch" text
  | .evalUse, before, text => EndsOutside before ∧ Calls "eval" text
  | .dynamicFunction, before, text => EndsOutside before ∧ Calls "Function" text
  | .rawTransport, before, text => EndsOutside before ∧ NamesTransport text
  | .urlImport, before, text => EndsOutside before ∧ ImportsAddress text
  | .externalUrl, _, text => NamesAddress text
  | .oversizedPayload, _, _ => False

/-! ## The patterns of the rules -/

variable {spot : Spot} {taken : List Char}

open Pattern (finds_append_iff finds_literal_iff finds_anyOf_iff take_append_iff take_edge_iff
  take_word_iff take_blanks_oneOf_iff take_anyOf_literal_iff take_many_iff)

theorem opensWord_between (front back : List Char) :
    (Spot.between front back).opensWord = true ↔ EndsOutside front := by
  unfold Spot.opensWord EndsOutside Spot.between
  rw [← List.head?_reverse]
  cases front.reverse with
  | nil => simp
  | cons c rest => simp

/-- A word is there and then a pattern. -/
private theorem finds_word_append_iff {name : String} (word : closesWord name.toList = false)
    {more : Pattern} : (.edge ++ .literal name ++ more : Pattern).Finds spot ↔
      spot.opensWord = true ∧ ∃ rest, spot.after = name.toList ++ rest ∧
        more.Finds ⟨name.toList.reverse ++ spot.before, rest⟩ := by
  simp only [finds_append_iff, take_word_iff word]
  constructor
  · rintro ⟨_, ⟨rfl, opens, rest, follows⟩, found⟩
    rw [Spot.past_of_eq_append follows] at found
    exact ⟨opens, rest, follows, found⟩
  · rintro ⟨opens, rest, follows, found⟩
    refine ⟨_, ⟨rfl, opens, rest, follows⟩, ?_⟩
    rwa [Spot.past_of_eq_append follows]

theorem finds_callOf_iff {name : String} (word : closesWord name.toList = false) :
    (callOf name).Finds spot ↔ spot.opensWord = true ∧ Calls name spot.after := by
  unfold callOf Calls
  rw [Pattern.append_assoc (.edge ++ .literal name), finds_word_append_iff word]
  have call : ∀ c ∈ ['('], isBlank c = false := forall_mem_of_all (by decide)
  simp only [Pattern.Finds, take_blanks_oneOf_iff call, List.mem_singleton]
  constructor
  · rintro ⟨opens, _, follows, _, blanks, _, rest, blank, rfl, rfl, _⟩
    exact ⟨opens, blanks, rest, blank, follows⟩
  · rintro ⟨opens, blanks, rest, blank, follows⟩
    exact ⟨opens, _, follows, _, blanks, '(', rest, blank, rfl, rfl, rfl⟩

theorem finds_transport_iff :
    transport.Finds spot ↔ spot.opensWord = true ∧ NamesTransport spot.after := by
  have apart : ∀ one ∈ transportNames, ∀ other ∈ transportNames,
      one.toList <+: other.toList → one = other := by decide +kernel
  have words : ∀ name ∈ transportNames, closesWord name.toList = false ∧
      closesWord name.toList.reverse = false := by decide
  -- Behind a name the edge of a word is where none goes on, since the name ends in a letter.
  have closing {name : String} (listed : name ∈ transportNames) (rest : List Char) :
      Pattern.edge.Finds ⟨name.toList.reverse ++ spot.before, rest⟩ ↔ closesWord rest = true := by
    have reached : Spot.opensWord ⟨name.toList.reverse ++ spot.before, rest⟩ = false :=
      closesWord_append (words name listed).2 spot.before
    simp only [Pattern.Finds, take_edge_iff, reached]
    simp
  unfold transport NamesTransport
  simp only [finds_append_iff, take_append_iff, take_edge_iff, take_anyOf_literal_iff apart]
  constructor
  · rintro ⟨_, ⟨_, _, ⟨rfl, boundary⟩, ⟨name, listed, rfl, rest, follows⟩, rfl⟩, behind⟩
    rw [Spot.past_nil] at follows
    rw [List.nil_append, Spot.past_of_eq_append follows, closing listed] at behind
    rw [follows, closesWord_append (words name listed).1] at boundary
    exact ⟨eq_true_of_ne_false boundary, name, listed, rest, follows, behind⟩
  · rintro ⟨opens, name, listed, rest, follows, behind⟩
    refine ⟨_, ⟨[], _, ⟨rfl, ?_⟩, ⟨name, listed, rfl, rest, follows⟩, rfl⟩, ?_⟩
    · rw [opens, follows, closesWord_append (words name listed).1]
      decide
    · rwa [List.nil_append, Spot.past_of_eq_append follows, closing listed]

theorem finds_quotedAddress_iff {quotes : List Char} (visible : ∀ c ∈ quotes, isBlank c = false) :
    (quotedAddress quotes).Finds spot ↔ QuotesAddress quotes spot.after := by
  have schemes (spot : Spot) :
      (Pattern.anyOf [.literal "https:", .literal "http:"]).Finds spot ↔
        ∃ scheme ∈ ["https:", "http:"], ∃ rest, spot.after = scheme.toList ++ rest := by
    simp [finds_anyOf_iff, finds_literal_iff]
  unfold quotedAddress QuotesAddress
  simp only [finds_append_iff, take_blanks_oneOf_iff visible, schemes]
  constructor
  · rintro ⟨_, ⟨blanks, quote, behind, blank, held, follows, rfl⟩, scheme, listed, rest, goesOn⟩
    refine ⟨blanks, quote, scheme, rest, blank, held, listed, ?_⟩
    have rest' : spot.after = (blanks ++ [quote]) ++ behind := by rw [follows, List.append_assoc]; rfl
    rw [Spot.past_of_eq_append rest'] at goesOn
    rw [follows, show behind = _ from goesOn]
  · rintro ⟨blanks, quote, scheme, rest, blank, held, listed, follows⟩
    refine ⟨_, ⟨blanks, quote, _, blank, held, follows, rfl⟩, scheme, listed, rest, ?_⟩
    have rest' : spot.after = (blanks ++ [quote]) ++ (scheme.toList ++ rest) := by
      rw [follows, List.append_assoc]
      rfl
    rw [Spot.past_of_eq_append rest']

theorem finds_addressImport_iff :
    addressImport.Finds spot ↔ spot.opensWord = true ∧ ImportsAddress spot.after := by
  have call : ∀ c ∈ ['('], isBlank c = false := forall_mem_of_all (by decide)
  have pair : ∀ c ∈ ['\'', '\x22'], isBlank c = false := forall_mem_of_all (by decide)
  have all : ∀ c ∈ ['\'', '\x22', '\x60'], isBlank c = false := forall_mem_of_all (by decide)
  have behindParenthesis (spot : Spot) :
      (.blanks ++ .oneOf ['('] ++ quotedAddress ['\'', '\x22', '\x60'] : Pattern).Finds spot ↔
        ∃ blanks inside, (∀ b ∈ blanks, isBlank b = true) ∧
          spot.after = blanks ++ '(' :: inside ∧ QuotesAddress ['\'', '\x22', '\x60'] inside := by
    simp only [@finds_append_iff (.blanks ++ .oneOf ['(']), take_blanks_oneOf_iff call,
      finds_quotedAddress_iff all, List.mem_singleton]
    constructor
    · rintro ⟨_, ⟨blanks, _, inside, blank, rfl, follows, rfl⟩, quotes⟩
      rw [Spot.past_of_eq_append (follows.trans (List.append_cons _ _ _))] at quotes
      exact ⟨blanks, inside, blank, follows, quotes⟩
    · rintro ⟨blanks, inside, blank, follows, quotes⟩
      refine ⟨_, ⟨blanks, _, inside, blank, rfl, follows, rfl⟩, ?_⟩
      rwa [Spot.past_of_eq_append (follows.trans (List.append_cons _ _ _))]
  have word := show closesWord "import".toList = false by decide
  unfold addressImport
  rw [Pattern.append_assoc (.edge ++ .literal "import"),
    Pattern.append_assoc (.edge ++ .literal "import")]
  simp only [finds_anyOf_iff, List.mem_cons, List.not_mem_nil, or_false, or_and_right, exists_or,
    exists_eq_left, finds_word_append_iff word, behindParenthesis, finds_quotedAddress_iff pair,
    finds_word_append_iff (show closesWord "from".toList = false by decide)]
  constructor
  · rintro (⟨opens, _, follows, blanks, inside, blank, rfl, quotes⟩ | ⟨opens, inside, follows, quotes⟩ |
      ⟨opens, inside, follows, quotes⟩)
    · exact ⟨opens, follows ▸ .call blank quotes⟩
    · exact ⟨opens, follows ▸ .names quotes⟩
    · exact ⟨opens, follows ▸ .bare quotes⟩
  · rintro ⟨opens, imports⟩
    generalize followed : spot.after = text at imports
    cases imports with
    | call blank quotes => exact Or.inl ⟨opens, _, rfl, _, _, blank, rfl, quotes⟩
    | names quotes => exact Or.inr (Or.inl ⟨opens, _, rfl, quotes⟩)
    | bare quotes => exact Or.inr (Or.inr ⟨opens, _, rfl, quotes⟩)

/-! ## Web addresses -/

/-- What is found of a web address reaches up to the first character at which it ends. -/
theorem take_address_iff : address.take spot = some taken ↔
    ∃ scheme run rest, scheme ∈ ["https://", "http://"] ∧ run ≠ [] ∧
      (∀ c ∈ run, endsAddress c = false) ∧ (∀ c ∈ rest.head?, endsAddress c = true) ∧
      spot.after = scheme.toList ++ run ++ rest ∧ taken = scheme.toList ++ run := by
  have apart : ∀ one ∈ ["https://", "http://"], ∀ other ∈ ["https://", "http://"],
      one.toList <+: other.toList → one = other := by decide +kernel
  unfold address
  rw [take_append_iff]
  change (∃ front more, (Pattern.anyOf (["https://", "http://"].map .literal)).take spot = _ ∧ _) ↔ _
  simp only [take_anyOf_literal_iff apart, take_many_iff, Bool.not_eq_true', Bool.not_eq_false']
  constructor
  · rintro ⟨_, run, ⟨scheme, listed, rfl, behind, follows⟩, ⟨filled, inside, rest, goesOn, ends⟩, rfl⟩
    rw [Spot.past_of_eq_append follows] at goesOn
    refine ⟨scheme, run, rest, listed, filled, inside, ends, ?_, rfl⟩
    rw [follows, List.append_assoc, ← goesOn]
  · rintro ⟨scheme, run, rest, listed, filled, inside, ends, follows, rfl⟩
    rw [List.append_assoc] at follows
    refine ⟨_, run, ⟨scheme, listed, rfl, _, follows⟩, ⟨filled, inside, rest, ?_, ends⟩, rfl⟩
    rw [Spot.past_of_eq_append follows]

/-- An address is let pass if it names a markup language, but for punctuation at its end. -/
theorem isNamespaceAddress_iff {address : List Char} :
    isNamespaceAddress address = true ↔ NamesMarkup address := by
  have each : ∀ name ∈ namespaceAddresses, name.toList.getLast?.any isAddressTail = false := by decide
  have ends : ∀ name ∈ namespaceAddresses, ∀ c ∈ name.toList.getLast?, isAddressTail c = false := by
    intro name listed c last
    have checked := each name listed
    rwa [Option.mem_def.mp last] at checked
  unfold isNamespaceAddress NamesMarkup
  rw [List.contains_iff_mem]
  constructor
  · intro listed
    obtain ⟨⟨tail, all, split⟩, _⟩ := dropEndWhile_eq_iff.mp (rfl : dropEndWhile isAddressTail address = _)
    exact ⟨_, listed, tail, all, by rw [String.toList_ofList, ← split]⟩
  · rintro ⟨name, listed, tail, all, split⟩
    rw [dropEndWhile_eq_iff.mpr ⟨⟨tail, all, split⟩, ends name listed⟩, String.ofList_toList]
    exact listed

/-- Some characters in front of a text all belong to its first part if none of them is the first of
the rest. -/
theorem prefix_of_prefix_append {inner first rest : List Char}
    (comes : inner <+: first ++ rest) (apart : ∀ c ∈ rest.head?, c ∉ inner) : inner <+: first := by
  obtain ⟨behind, whole⟩ := comes
  rcases List.append_eq_append_iff.mp whole with ⟨more, split, _⟩ | ⟨more, split, rest_eq⟩
  · exact ⟨more, split.symm⟩
  · cases more with
    | nil => exact ⟨[], by rw [split]; simp⟩
    | cons c more =>
        refine absurd ?_ (apart c (by rw [rest_eq]; rfl))
        rw [split]
        simp

/-- No scheme stands inside of an address that names a markup language. -/
private theorem not_scheme_of_namesMarkup {front rest : List Char}
    (names : NamesMarkup (front ++ rest)) (filled : front ≠ []) : ¬ "http".toList <+: rest := by
  have bare : ∀ name ∈ namespaceAddresses, name.toList ≠ [] ∧
      ¬ "http".toList <:+: name.toList.tail := by decide +kernel
  have letters : ∀ c ∈ "http".toList, isAddressTail c = false := forall_mem_of_all (by decide)
  obtain ⟨name, listed, tail, all, split⟩ := names
  obtain ⟨someLetters, noScheme⟩ := bare name listed
  have outside : ∀ c ∈ "http".toList, c ∉ tail := by
    intro c letter member
    have mark := all c member
    rw [letters c letter] at mark
    cases mark
  intro starts
  have inside : "http".toList <:+: name.toList.tail ++ tail := by
    obtain ⟨c, more, rfl⟩ := List.exists_cons_of_ne_nil filled
    obtain ⟨d, others, spelled⟩ := List.exists_cons_of_ne_nil someLetters
    rw [spelled] at split ⊢
    have behind : more ++ rest = others ++ tail := (List.cons.inj split).2
    rw [List.tail_cons, ← behind]
    exact starts.isInfix.trans (List.suffix_append more rest).isInfix
  rcases List.infix_append_iff.mp inside with early | late | ⟨first, second, whole, ends, goesOn⟩
  · exact noScheme early
  · exact outside 'h' (by decide) (late.subset (by decide))
  · cases second with
    | nil =>
        rw [List.append_nil] at whole
        exact noScheme (whole ▸ ends.isInfix)
    | cons c second =>
        exact outside c (by rw [whole]; simp) (goesOn.subset List.mem_cons_self)

/-- No address that is let pass hides one that is not. -/
theorem address_hidesNothing : address.HidesNothing isNamespaceAddress := by
  have letters : ∀ c ∈ "http".toList, endsAddress c = false := forall_mem_of_all (by decide)
  have schemes : ∀ scheme ∈ ["https://", "http://"], "http".toList <+: scheme.toList := by
    decide +kernel
  intro spot taken takes lets front back split filled short
  obtain ⟨_, _, rest, _, _, _, ends, follows, whole⟩ := take_address_iff.mp takes
  rw [follows, ← whole] at split
  obtain ⟨middle, rfl, rfl⟩ : ∃ middle, taken = front ++ middle ∧ back = middle ++ rest := by
    rcases List.append_eq_append_iff.mp split with ⟨more, longer, _⟩ | parts
    · rw [longer, List.length_append] at short
      omega
    · exact parts
  cases found : address.take ⟨front.reverse ++ spot.before, middle ++ rest⟩ with
  | none => simp [Pattern.offends, found]
  | some other =>
      obtain ⟨scheme, run, behind, listed, _, _, _, goesOn, _⟩ := take_address_iff.mp found
      refine absurd ?_ (not_scheme_of_namesMarkup (isNamespaceAddress_iff.mp lets) filled)
      refine prefix_of_prefix_append (?_ : _ <+: _ ++ rest) ?_
      · refine (schemes scheme listed).trans ⟨run ++ behind, ?_⟩
        rw [← List.append_assoc]
        exact goesOn.symm
      · intro c first letter
        have ending := ends c first
        rw [letters c letter] at ending
        cases ending

/-! ## The rules -/

/-- No form that is let pass hides one that is forbidden. -/
theorem form_hidesNothing (rule : Rule) : (form rule).HidesNothing (lets rule) := by
  cases rule with
  | externalUrl => exact address_hidesNothing
  | _ =>
      intro _ _ _ passes
      cases passes

/-- A rule is broken where something forbidden comes. -/
theorem offends_iff {rule : Rule} {before text : List Char} :
    (form rule).offends (lets rule) (.between before text) = true ↔ Forbidden rule before text := by
  have passesNothing {pattern : Pattern} :
      pattern.offends (fun _ => false) (.between before text) = true ↔
        pattern.Finds (.between before text) := by
    unfold Pattern.offends Pattern.Finds
    cases pattern.take (.between before text) with
    | none => simp
    | some taken => simp
  cases rule with
  | networkFetch =>
      exact passesNothing.trans ((finds_callOf_iff (by decide)).trans
        (and_congr_left fun _ => opensWord_between before text))
  | evalUse =>
      exact passesNothing.trans ((finds_callOf_iff (by decide)).trans
        (and_congr_left fun _ => opensWord_between before text))
  | dynamicFunction =>
      exact passesNothing.trans ((finds_callOf_iff (by decide)).trans
        (and_congr_left fun _ => opensWord_between before text))
  | rawTransport =>
      exact passesNothing.trans (finds_transport_iff.trans
        (and_congr_left fun _ => opensWord_between before text))
  | urlImport =>
      exact passesNothing.trans (finds_addressImport_iff.trans
        (and_congr_left fun _ => opensWord_between before text))
  | externalUrl =>
      have lets : lets .externalUrl = isNamespaceAddress := rfl
      have apart (found : List Char) :
          (!isNamespaceAddress found) = true ↔ ¬ NamesMarkup found := by
        rw [Bool.not_eq_true', ← Bool.not_eq_true, isNamespaceAddress_iff]
      simp only [Pattern.offends, Option.any_eq_true, form, lets, take_address_iff, apart]
      constructor
      · rintro ⟨_, ⟨scheme, run, rest, listed, filled, inside, ends, follows, rfl⟩, other⟩
        exact ⟨scheme, run, rest, listed, filled, inside, ends, follows, other⟩
      · rintro ⟨scheme, run, rest, listed, filled, inside, ends, follows, other⟩
        exact ⟨_, ⟨scheme, run, rest, listed, filled, inside, ends, follows, rfl⟩, other⟩
  | oversizedPayload => simp [form, Pattern.nothing, Pattern.offends, Forbidden]

/-- Every form takes at least one character. -/
theorem form_takesSome (rule : Rule) : (form rule).TakesSome := by
  intro before
  have calls {name : String} (word : closesWord name.toList = false) {taken : List Char} :
      (callOf name).take ⟨before, []⟩ ≠ some taken := by
    intro takes
    obtain ⟨_, blanks, rest, _, nothing⟩ := (finds_callOf_iff word).mp ⟨taken, takes⟩
    simp at nothing
  rw [Option.eq_none_iff_forall_ne_some]
  intro taken
  cases rule with
  | networkFetch => exact calls (by decide)
  | evalUse => exact calls (by decide)
  | dynamicFunction => exact calls (by decide)
  | rawTransport =>
      intro takes
      have filled : ∀ name ∈ transportNames, name ≠ "" := by decide
      obtain ⟨_, name, listed, rest, nothing, _⟩ := finds_transport_iff.mp ⟨taken, takes⟩
      simp [filled name listed] at nothing
  | urlImport =>
      intro takes
      obtain ⟨_, imports⟩ := finds_addressImport_iff.mp ⟨taken, takes⟩
      simp only at imports
      cases imports
  | externalUrl =>
      intro takes
      obtain ⟨scheme, run, rest, _, filled, _, _, nothing, _⟩ := take_address_iff.mp takes
      simp [filled] at nothing
  | oversizedPayload => exact nofun

/-! ## The check of a source -/

/-- A rule is broken somewhere in a text. -/
def Broken (text : List Char) (rule : Rule) : Prop :=
  ∃ before after, text = before ++ after ∧ Forbidden rule before after

/-- An issue is about the first place in a text where its rule is broken, and gives its line. -/
def Reports (text : List Char) (issue : Issue) : Prop :=
  ∃ before after, text = before ++ after ∧ Forbidden issue.rule before after ∧
    (∀ earlier later, text = earlier ++ later → Forbidden issue.rule earlier later →
      before.length ≤ earlier.length) ∧
    issue.line = some ((1 + before.count '\n' : Nat) : Int)

/-- A rule that is broken is reported at the first place where it is. -/
theorem reports_of_firstIssue {text : List Char} {rule : Rule} {issue : Issue}
    (found : firstIssue text rule = some issue) : issue.rule = rule ∧ Reports text issue := by
  unfold firstIssue at found
  rw [Spot.scan_eq_first? (form_hidesNothing rule) (form_takesSome rule)] at found
  obtain ⟨spot, first, rfl⟩ := Option.map_eq_some_iff.mp found
  obtain ⟨before, after, split, rfl, here, least⟩ := Spot.first?_eq_some_iff.mp first
  simp only [offends_iff] at here least
  refine ⟨rfl, before, after, split, here, least, ?_⟩
  change some ((Spot.between before after).lineNumber : Int) = _
  rw [Spot.lineNumber, Spot.between, List.count_reverse, Nat.add_comm]

theorem firstIssue_eq_none_iff {text : List Char} {rule : Rule} :
    firstIssue text rule = none ↔ ¬ Broken text rule := by
  unfold firstIssue
  rw [Spot.scan_eq_first? (form_hidesNothing rule) (form_takesSome rule), Option.map_eq_none_iff,
    Spot.first?_eq_none_iff]
  simp only [Broken, not_exists, not_and, ← offends_iff, Bool.not_eq_true]

instance decidableBroken (text : List Char) (rule : Rule) : Decidable (Broken text rule) :=
  decidable_of_iff (¬ firstIssue text rule = none) <| by
    rw [firstIssue_eq_none_iff, Classical.not_not]

/-- The issues at the first places where some rules are broken are about those that are broken. -/
theorem rules_filterMap_firstIssue (text : List Char) (rules : List Rule) :
    (rules.filterMap (firstIssue text)).map (·.rule) = rules.filter (Broken text ·) := by
  induction rules with
  | nil => rfl
  | cons rule rules inductionHypothesis =>
      cases found : firstIssue text rule with
      | none =>
          have kept := firstIssue_eq_none_iff.mp found
          simp [found, kept, inductionHypothesis]
      | some issue =>
          have broken : Broken text rule := by
            rw [← Classical.not_not (a := Broken text rule), ← firstIssue_eq_none_iff, found]
            exact nofun
          simp [found, broken, (reports_of_firstIssue found).1, inductionHypothesis]

theorem check_of_large {source : String} (large : maxSourceBytes < source.utf8ByteSize) :
    check source = [oversizedIssue source.utf8ByteSize] := by
  rw [check, if_pos large]

/-- The issues of a source that is small enough are about the rules that are broken in it. -/
theorem rules_of_check {source : String} (small : source.utf8ByteSize ≤ maxSourceBytes) :
    (check source).map (·.rule) = Rule.all.filter (Broken source.toList ·) := by
  rw [check, if_neg (Nat.not_lt.mpr small)]
  exact rules_filterMap_firstIssue source.toList Rule.all

theorem check_eq_nil_iff {source : String} : check source = [] ↔
    source.utf8ByteSize ≤ maxSourceBytes ∧ ∀ rule, ¬ Broken source.toList rule := by
  have everyRule (rule : Rule) : rule ∈ Rule.all := by cases rule <;> decide
  rcases Nat.lt_or_ge maxSourceBytes source.utf8ByteSize with large | small
  · rw [check_of_large large]
    exact iff_of_false nofun fun fine => Nat.not_le_of_lt large fine.1
  · rw [← List.map_eq_nil_iff (f := Issue.rule), rules_of_check small, List.filter_eq_nil_iff]
    constructor
    · intro clean
      exact ⟨small, fun rule broken => clean rule (everyRule rule) (decide_eq_true broken)⟩
    · intro clean rule _ broken
      exact clean.2 rule (of_decide_eq_true broken)

/-- A source has no issue exactly if it is small enough and nothing forbidden starts anywhere in it.
The issues of one that is small enough are one for each rule that is broken, in the order of the
rules, and each is about the first place where its rule is. -/
theorem check_exact (source : String) :
    (check source = [] ↔
      source.utf8ByteSize ≤ maxSourceBytes ∧
        ∀ rule before after, source.toList = before ++ after → ¬ Forbidden rule before after) ∧
      (source.utf8ByteSize ≤ maxSourceBytes →
        (check source).map (·.rule) = Rule.all.filter (Broken source.toList ·) ∧
          ∀ issue ∈ check source, Reports source.toList issue) := by
  constructor
  · rw [check_eq_nil_iff]
    apply and_congr_right
    intro _
    constructor
    · intro clean rule before after split forbidden
      exact clean rule ⟨before, after, split, forbidden⟩
    · rintro clean rule ⟨before, after, split, forbidden⟩
      exact clean rule before after split forbidden
  · intro small
    refine ⟨rules_of_check small, fun issue reported => ?_⟩
    rw [check, if_neg (Nat.not_lt.mpr small)] at reported
    obtain ⟨rule, _, found⟩ := List.mem_filterMap.mp reported
    exact (reports_of_firstIssue found).2

/-- A name of a markup language in front of an address does not hide it. -/
theorem check_exact_hides_nothing :
    let source := "a = 1;\nfetch (a, 'http://www.w3.org/2000/svg, http://b.c.');\n"
    (check source).map (·.rule) = [.networkFetch, .externalUrl] ∧
      ∀ issue ∈ check source, Reports source.toList issue := by
  intro source
  obtain ⟨rules, reports⟩ := (check_exact source).2 (by decide)
  exact ⟨rules.trans (by decide +kernel), reports⟩

end Lectern.Safety
