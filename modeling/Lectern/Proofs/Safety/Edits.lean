/-
Module: Lectern.Proofs.Safety.Edits
Purpose: What edits of a text can do to the rules: taking a part out of it, putting a line in front,
  and adding lines at the end break no rule that the text keeps, but for the words that the new lines
  bring along. Nor do lines around a source hide anything that is wrong with it: a line break opens a
  word and ends one, no address reaches across it, and what surrounds a source only adds to its size.
Trusted boundary: none
Main exports: HasWord, broken_rawTransport_iff, Settled, Broken.within, broken_of_excerpt,
  broken_of_statement, broken_of_trimRight_append, amid, broken_amid, flagged_amid
-/
import Lectern.Proofs.Safety.FirstPlaces

namespace Lectern.Safety

open Lectern.Text

variable {word text front back : List Char}

/-! ## Words -/

/-- The code points of blanks. -/
private def blankCodes : List Nat :=
  [0x09, 0x0A, 0x0B, 0x0C, 0x0D, 0x1C, 0x1D, 0x1E, 0x1F, 0x20, 0x85, 0xA0, 0x1680, 0x2000, 0x2001,
    0x2002, 0x2003, 0x2004, 0x2005, 0x2006, 0x2007, 0x2008, 0x2009, 0x200A, 0x2028, 0x2029, 0x202F,
    0x205F, 0x3000]

theorem not_isWordChar_of_isBlank {c : Char} (blank : isBlank c = true) : isWordChar c = false := by
  have listed : c.toNat ∈ blankCodes := by
    simp only [isBlank, Bool.or_eq_true, Bool.and_eq_true, decide_eq_true_eq, beq_iff_eq] at blank
    simp only [blankCodes, List.mem_cons, List.not_mem_nil, or_false]
    omega
  have apart : ∀ code ∈ blankCodes, isWordChar (Char.ofNat code) = false := by decide +kernel
  have same := apart c.toNat listed
  rwa [Char.ofNat_toNat] at same

/-- A text has a word as a whole: no word goes on in front of it or behind it. -/
def HasWord (word text : List Char) : Prop :=
  ∃ before rest, text = before ++ (word ++ rest) ∧ EndsOutside before ∧ closesWord rest = true

theorem broken_rawTransport_iff :
    Broken text .rawTransport ↔ ∃ name ∈ transportNames, HasWord name.toList text := by
  constructor
  · rintro ⟨before, _, split, outside, name, listed, rest, rfl, closes⟩
    exact ⟨name, listed, before, rest, split, outside, closes⟩
  · rintro ⟨name, listed, before, rest, split, outside, closes⟩
    exact ⟨before, _, split, outside, name, listed, rest, rfl, closes⟩

theorem endsOutside_nil : EndsOutside [] := by
  intro c last
  cases last

theorem endsOutside_append (outside : EndsOutside front) (behind : EndsOutside back) :
    EndsOutside (front ++ back) := by
  cases back with
  | nil => rwa [List.append_nil]
  | cons c rest =>
      unfold EndsOutside
      rw [List.getLast?_append_of_ne_nil _ (List.cons_ne_nil c rest)]
      exact behind

/-- Of what ends outside of words the last part does. -/
theorem EndsOutside.of_append (outside : EndsOutside (front ++ back)) : EndsOutside back := by
  cases back with
  | nil => exact endsOutside_nil
  | cons c rest =>
      unfold EndsOutside at outside
      rwa [List.getLast?_append_of_ne_nil _ (List.cons_ne_nil c rest)] at outside

theorem closesWord_append_of_closes (closes : closesWord front = true)
    (behind : closesWord back = true) : closesWord (front ++ back) = true := by
  cases front with
  | nil => exact behind
  | cons c rest => exact closes

theorem closesWord_of_append (closes : closesWord (front ++ back) = true) :
    closesWord front = true := by
  cases front with
  | nil => rfl
  | cons c rest => exact closes

/-- A word of a part is a word of the whole if no word goes on at the ends of the part. -/
theorem HasWord.within (has : HasWord word text) (outside : EndsOutside front)
    (closes : closesWord back = true) : HasWord word (front ++ (text ++ back)) := by
  obtain ⟨before, rest, rfl, opens, ends⟩ := has
  refine ⟨front ++ before, rest ++ back, by simp only [List.append_assoc],
    endsOutside_append outside opens, closesWord_append_of_closes ends closes⟩

/-- Something that can stand in a text as a word. -/
structure IsWord (word : List Char) : Prop where
  filled : word ≠ []
  whole : ∀ c ∈ word, isWordChar c = true

theorem isWord_transport {name : String} (listed : name ∈ transportNames) : IsWord name.toList := by
  have each : ∀ name ∈ transportNames, name.toList ≠ [] ∧
      (name.toList.all fun c => decide (isWordChar c = true)) = true := by decide +kernel
  obtain ⟨filled, whole⟩ := each name listed
  exact ⟨filled, forall_mem_of_all whole⟩

/-- A word stands on one side of a character that is part of no word. -/
theorem HasWord.split {c : Char} (isWord : IsWord word) (apart : isWordChar c = false)
    (has : HasWord word (front ++ c :: back)) : HasWord word front ∨ HasWord word back := by
  obtain ⟨before, rest, whole, outside, closes⟩ := has
  have outsider : c ∉ word := by
    intro member
    rw [isWord.whole c member] at apart
    cases apart
  rcases List.append_eq_append_iff.mp whole with ⟨more, split, follows⟩ | ⟨more, split, follows⟩
  · apply Or.inr
    cases more with
    | nil =>
        obtain ⟨first, others, spelled⟩ := List.exists_cons_of_ne_nil isWord.filled
        rw [List.nil_append, spelled, List.cons_append] at follows
        rw [(List.cons.inj follows).1, spelled] at outsider
        exact absurd List.mem_cons_self outsider
    | cons d more =>
        obtain ⟨rfl, behind⟩ := List.cons.inj follows
        rw [split, List.append_cons] at outside
        exact ⟨more, rest, behind, outside.of_append, closes⟩
  · apply Or.inl
    rcases List.append_eq_append_iff.mp follows with ⟨tail, inner, ends⟩ | ⟨tail, inner, ends⟩
    · exact ⟨before, tail, by rw [split, inner], outside, closesWord_of_append (ends ▸ closes)⟩
    · cases tail with
      | nil => exact ⟨before, [], by rw [split, List.append_nil, inner, List.append_nil], outside, rfl⟩
      | cons d tail =>
          obtain ⟨rfl, _⟩ := List.cons.inj ends
          exact absurd (by rw [inner]; simp) outsider

theorem not_hasWord_nil (isWord : IsWord word) : ¬ HasWord word [] := by
  rintro ⟨before, rest, nothing, _⟩
  exact absurd nothing (by simp [isWord.filled])

/-- A word stands on one side of characters that are part of no word. -/
theorem HasWord.split_run {run : List Char} (isWord : IsWord word)
    (apart : ∀ c ∈ run, isWordChar c = false) (filled : run ≠ [])
    (has : HasWord word (front ++ (run ++ back))) : HasWord word front ∨ HasWord word back := by
  induction run generalizing front with
  | nil => exact absurd rfl filled
  | cons c run inductionHypothesis =>
      obtain ⟨first, others⟩ := List.forall_mem_cons.mp apart
      rcases HasWord.split isWord first has with before | behind
      · exact Or.inl before
      · cases run with
        | nil => exact Or.inr behind
        | cons d run =>
            have later : HasWord word ([] ++ (d :: run ++ back)) := behind
            rcases inductionHypothesis others (List.cons_ne_nil _ _) later with nothing | found
            · exact absurd nothing (not_hasWord_nil isWord)
            · exact Or.inr found

theorem not_hasWord_of_absent (absent : ¬ word <:+: text) : ¬ HasWord word text := by
  rintro ⟨before, rest, whole, _⟩
  exact absent ⟨before, rest, by rw [whole, List.append_assoc]⟩

/-! ## Marks -/

/-- A mark that every forbidden form has, unless it is a word. -/
def isMark (c : Char) : Bool := c == '(' || c == ':'

/-- What holds of a text is settled by a part at its front that ends in a mark and has no semicolon:
it holds whatever follows. -/
def Settled (holds : List Char → Prop) (text : List Char) : Prop :=
  ∃ core mark rest, text = core ++ mark :: rest ∧ isMark mark = true ∧ ';' ∉ core ∧
    ∀ other, holds (core ++ mark :: other)

namespace Settled

variable {holds more : List Char → Prop} {tail : List Char}

theorem append_left (settled : Settled holds text) (plain : ';' ∉ front)
    (goesOn : ∀ inner, holds inner → more (front ++ inner)) : Settled more (front ++ text) := by
  obtain ⟨core, mark, rest, rfl, isMark, unbroken, always⟩ := settled
  refine ⟨front ++ core, mark, rest, (List.append_assoc _ _ _).symm, isMark, ?_, fun other => ?_⟩
  · rw [List.mem_append, not_or]
    exact ⟨plain, unbroken⟩
  · rw [List.append_assoc]
    exact goesOn _ (always other)

theorem marked (settled : Settled holds text) : ∃ c ∈ text, isMark c = true := by
  obtain ⟨core, mark, rest, rfl, isMark, _⟩ := settled
  exact ⟨mark, by simp, isMark⟩

/-- What is settled in front of text without marks holds with any other text in its place. -/
theorem retail (settled : Settled holds (text ++ tail)) (unmarked : ∀ c ∈ tail, isMark c = false)
    (other : List Char) : holds (text ++ other) := by
  obtain ⟨core, mark, rest, whole, isMark, _, always⟩ := settled
  have outside : mark ∉ tail := by
    intro member
    rw [unmarked mark member] at isMark
    cases isMark
  rcases List.append_eq_append_iff.mp whole with ⟨between, _, follows⟩ | ⟨between, split, follows⟩
  · exact absurd (by rw [follows]; simp) outside
  · cases between with
    | nil => exact absurd (by rw [← List.nil_append tail, ← follows]; simp) outside
    | cons c between =>
        obtain ⟨rfl, _⟩ := List.cons.inj follows
        rw [split, List.append_assoc, List.cons_append]
        exact always (between ++ other)

/-- Nothing is settled across a semicolon. -/
theorem not_across (settled : Settled holds (text ++ ';' :: tail))
    (unmarked : ∀ c ∈ text, isMark c = false) : False := by
  obtain ⟨core, mark, rest, whole, isMark, unbroken, _⟩ := settled
  have noMark : mark ≠ ';' := by
    rintro rfl
    cases isMark
  rcases List.append_eq_append_iff.mp whole with ⟨between, split, follows⟩ | ⟨between, split, follows⟩
  · cases between with
    | nil => exact noMark (List.cons.inj follows).1.symm
    | cons c between =>
        obtain ⟨rfl, _⟩ := List.cons.inj follows
        exact unbroken (by rw [split]; simp)
  · cases between with
    | nil => exact noMark (List.cons.inj follows).1
    | cons c between =>
        obtain ⟨rfl, _⟩ := List.cons.inj follows
        have absent := unmarked mark (by rw [split]; simp)
        rw [isMark] at absent
        cases absent

end Settled

theorem semicolon_not_blank {blanks : List Char} (blank : ∀ b ∈ blanks, isBlank b = true) :
    ';' ∉ blanks := by
  intro member
  exact absurd (blank ';' member) (by decide)

theorem settled_calls {name : String} (plain : ';' ∉ name.toList) (calls : Calls name text) :
    Settled (Calls name) text := by
  obtain ⟨blanks, rest, blank, rfl⟩ := calls
  refine ⟨name.toList ++ blanks, '(', rest, (List.append_assoc _ _ _).symm, rfl, ?_, fun other => ?_⟩
  · rw [List.mem_append, not_or]
    exact ⟨plain, semicolon_not_blank blank⟩
  · exact ⟨blanks, other, blank, List.append_assoc _ _ _⟩

theorem settled_quotesAddress {quotes : List Char} (plain : ';' ∉ quotes)
    (address : QuotesAddress quotes text) : Settled (QuotesAddress quotes) text := by
  obtain ⟨blanks, quote, scheme, rest, blank, held, listed, rfl⟩ := address
  have colon : ∀ scheme ∈ ["https:", "http:"], ∃ letters, ';' ∉ letters ∧
      scheme.toList = letters ++ [':'] := by
    intro scheme listed
    rcases List.mem_cons.mp listed with rfl | listed
    · exact ⟨"https".toList, by decide, rfl⟩
    · rw [List.mem_singleton.mp listed]
      exact ⟨"http".toList, by decide, rfl⟩
  obtain ⟨letters, unbroken, spelled⟩ := colon scheme listed
  have other : quote ≠ ';' := fun same => plain (same ▸ held)
  refine ⟨blanks ++ quote :: letters, ':', rest, by rw [spelled]; simp, rfl, ?_, fun more => ?_⟩
  · simp [semicolon_not_blank blank, unbroken, Ne.symm other]
  · exact ⟨blanks, quote, scheme, more, blank, held, listed, by rw [spelled]; simp⟩

theorem settled_importsAddress (imports : ImportsAddress text) : Settled ImportsAddress text := by
  cases imports with
  | @call blanks inside blank quotes =>
      have settled := settled_quotesAddress (by decide) quotes
      rw [List.append_cons, ← List.append_assoc]
      apply settled.append_left
      · simp [semicolon_not_blank blank]
      · intro inner quotes
        have imports := ImportsAddress.call blank quotes
        rwa [List.append_cons, ← List.append_assoc] at imports
  | names quotes =>
      exact (settled_quotesAddress (by decide) quotes).append_left (by decide)
        fun inner quotes => .names quotes
  | bare quotes =>
      exact (settled_quotesAddress (by decide) quotes).append_left (by decide)
        fun inner quotes => .bare quotes

/-! ## What comes in front of a form and behind it -/

variable {rule : Rule} {before tail other : List Char}

/-- Every form begins with a letter. -/
theorem Forbidden.begins (forbidden : Forbidden rule before text) :
    ∃ c rest, text = c :: rest ∧ isWordChar c = true := by
  cases rule with
  | networkFetch =>
      obtain ⟨_, _, _, _, rfl⟩ := forbidden
      exact ⟨'f', _, rfl, by decide⟩
  | evalUse =>
      obtain ⟨_, _, _, _, rfl⟩ := forbidden
      exact ⟨'e', _, rfl, by decide⟩
  | dynamicFunction =>
      obtain ⟨_, _, _, _, rfl⟩ := forbidden
      exact ⟨'F', _, rfl, by decide⟩
  | rawTransport =>
      obtain ⟨_, name, listed, rest, rfl, _⟩ := forbidden
      obtain ⟨filled, whole⟩ := isWord_transport listed
      obtain ⟨c, more, spelled⟩ := List.exists_cons_of_ne_nil filled
      exact ⟨c, more ++ rest, by rw [spelled]; rfl, whole c (by rw [spelled]; exact List.mem_cons_self)⟩
  | urlImport =>
      obtain ⟨_, imports⟩ := forbidden
      cases imports with
      | call => exact ⟨'i', _, rfl, by decide⟩
      | names => exact ⟨'f', _, rfl, by decide⟩
      | bare => exact ⟨'i', _, rfl, by decide⟩
  | externalUrl =>
      obtain ⟨scheme, run, rest, listed, _, _, _, rfl, _⟩ := forbidden
      rcases List.mem_cons.mp listed with rfl | listed
      · exact ⟨'h', _, rfl, by decide⟩
      · rw [List.mem_singleton.mp listed]
        exact ⟨'h', _, rfl, by decide⟩
  | oversizedPayload => cases forbidden

/-- Of what stands in front of a form only the end of a word matters. -/
theorem Forbidden.rehead (forbidden : Forbidden rule before text)
    (moved : EndsOutside before → EndsOutside other) : Forbidden rule other text := by
  cases rule with
  | networkFetch => exact forbidden.imp_left moved
  | evalUse => exact forbidden.imp_left moved
  | dynamicFunction => exact forbidden.imp_left moved
  | rawTransport => exact forbidden.imp_left moved
  | urlImport => exact forbidden.imp_left moved
  | externalUrl => exact forbidden
  | oversizedPayload => exact forbidden

/-- At the front of a text every form is at its end: no word goes on there and no address. -/
def EndsForms (text : List Char) : Prop :=
  ∀ c ∈ text.head?, endsAddress c = true ∧ isWordChar c = false

theorem EndsForms.closes (ends : EndsForms text) : closesWord text = true := by
  cases text with
  | nil => rfl
  | cons c rest => simp [closesWord, (ends c rfl).2]

theorem endsForms_of_blank (blank : ∀ c ∈ text.head?, isBlank c = true) : EndsForms text := by
  intro c first
  have held := blank c first
  exact ⟨by simp [endsAddress, held], not_isWordChar_of_isBlank held⟩

/-- An address that ends in front of some text ends in front of other text as well. -/
theorem NamesAddress.retail (address : NamesAddress (text ++ tail)) (ends : EndsForms tail)
    (ends' : EndsForms other) : NamesAddress (text ++ other) := by
  obtain ⟨scheme, run, rest, listed, filled, inside, stops, whole, unlisted⟩ := address
  have letters : ∀ scheme ∈ ["https://", "http://"],
      (scheme.toList.all fun c => decide (endsAddress c = false)) = true := by decide
  have within : ∀ c ∈ scheme.toList ++ run, endsAddress c = false :=
    List.forall_mem_append.mpr ⟨forall_mem_of_all (letters scheme listed), inside⟩
  have comes : scheme.toList ++ run <+: text ++ tail := ⟨rest, whole.symm⟩
  obtain ⟨more, split⟩ : scheme.toList ++ run <+: text := by
    apply prefix_of_prefix_append comes
    intro c first member
    have stop := (ends c first).1
    rw [within c member] at stop
    cases stop
  have behind : more ++ tail = rest := by
    rw [← split, List.append_assoc] at whole
    exact List.append_cancel_left whole
  refine ⟨scheme, run, more ++ other, listed, filled, inside, ?_, ?_, unlisted⟩
  · cases more with
    | nil => exact fun c first => (ends' c first).1
    | cons c more =>
        intro d first
        exact stops d (behind ▸ first)
  · rw [← split, List.append_assoc]

/-- All forms but words have a mark. -/
theorem Forbidden.settled (forbidden : Forbidden rule before text) (noWord : rule ≠ .rawTransport) :
    Settled (fun _ => True) text := by
  have anyway {holds : List Char → Prop} (settled : Settled holds text) :
      Settled (fun _ => True) text := by
    obtain ⟨core, mark, rest, rfl, isMark, unbroken, _⟩ := settled
    exact ⟨core, mark, rest, rfl, isMark, unbroken, fun _ => trivial⟩
  cases rule with
  | networkFetch => exact anyway (settled_calls (by decide) forbidden.2)
  | evalUse => exact anyway (settled_calls (by decide) forbidden.2)
  | dynamicFunction => exact anyway (settled_calls (by decide) forbidden.2)
  | rawTransport => exact absurd rfl noWord
  | urlImport => exact anyway (settled_importsAddress forbidden.2)
  | externalUrl =>
      obtain ⟨scheme, run, rest, listed, _, _, _, rfl, _⟩ := forbidden
      rcases List.mem_cons.mp listed with rfl | listed
      · exact ⟨"https".toList, ':', _, rfl, rfl, by decide, fun _ => trivial⟩
      · rw [List.mem_singleton.mp listed]
        exact ⟨"http".toList, ':', _, rfl, rfl, by decide, fun _ => trivial⟩
  | oversizedPayload => cases forbidden

/-- A form in front of text without marks is there with other text in its place. -/
theorem Forbidden.retail (forbidden : Forbidden rule before (text ++ tail))
    (noWord : rule ≠ .rawTransport) (unmarked : ∀ c ∈ tail, isMark c = false)
    (ends : EndsForms tail) (ends' : EndsForms other) : Forbidden rule before (text ++ other) := by
  cases rule with
  | networkFetch =>
      exact forbidden.imp_right fun calls => (settled_calls (by decide) calls).retail unmarked other
  | evalUse =>
      exact forbidden.imp_right fun calls => (settled_calls (by decide) calls).retail unmarked other
  | dynamicFunction =>
      exact forbidden.imp_right fun calls => (settled_calls (by decide) calls).retail unmarked other
  | rawTransport => exact absurd rfl noWord
  | urlImport =>
      exact forbidden.imp_right fun imports => (settled_importsAddress imports).retail unmarked other
  | externalUrl => exact NamesAddress.retail forbidden ends ends'
  | oversizedPayload => cases forbidden

/-! ## Edits -/

/-- A form in a text starts in its front or in its back. -/
theorem broken_append_cases (broken : Broken (front ++ back) rule) :
    (∃ before part, front = before ++ part ∧ Forbidden rule before (part ++ back)) ∨
      ∃ before part, back = before ++ part ∧ Forbidden rule (front ++ before) part := by
  obtain ⟨before, after, split, forbidden⟩ := broken
  rcases List.append_eq_append_iff.mp split with ⟨more, rfl, follows⟩ | ⟨more, whole, rfl⟩
  · exact Or.inr ⟨more, after, follows, forbidden⟩
  · exact Or.inl ⟨before, more, whole, forbidden⟩

/-- A rule that is broken in a text is broken behind what ends outside of words. -/
theorem Broken.behind (broken : Broken text rule) (outside : EndsOutside front) :
    Broken (front ++ text) rule := by
  obtain ⟨before, after, rfl, forbidden⟩ := broken
  exact ⟨front ++ before, after, (List.append_assoc _ _ _).symm,
    forbidden.rehead (endsOutside_append outside)⟩

/-- A line break in front of a text breaks no rule. -/
theorem broken_of_newline (broken : Broken ('\n' :: text) rule) : Broken text rule := by
  obtain ⟨before, after, split, forbidden⟩ := broken
  cases before with
  | nil =>
      obtain ⟨c, rest, rfl, letter⟩ := forbidden.begins
      rw [← (List.cons.inj split).1] at letter
      exact absurd letter (by decide)
  | cons c before =>
      obtain ⟨rfl, behind⟩ := List.cons.inj split
      refine ⟨before, after, behind, forbidden.rehead fun outside => ?_⟩
      have behindNewline : EndsOutside (['\n'] ++ before) := outside
      exact behindNewline.of_append

/-- Text without marks at the end of another one breaks no rule that other text there keeps, unless
it has a word. -/
theorem broken_of_tail (broken : Broken (text ++ tail) rule) (noWord : rule ≠ .rawTransport)
    (unmarked : ∀ c ∈ tail, isMark c = false) (ends : EndsForms tail) (ends' : EndsForms other) :
    Broken (text ++ other) rule := by
  rcases broken_append_cases broken with ⟨before, part, rfl, forbidden⟩ | ⟨before, part, rfl, forbidden⟩
  · exact ⟨before, part ++ other, List.append_assoc _ _ _,
      forbidden.retail noWord unmarked ends ends'⟩
  · obtain ⟨c, member, isMark⟩ := (forbidden.settled noWord).marked
    rw [unmarked c (List.mem_append_right _ member)] at isMark
    cases isMark

/-- A rule that is broken in a text is broken with other text around it, if no word goes on in front and
every form is at its end behind. -/
theorem Broken.within (broken : Broken text rule) (outside : EndsOutside front)
    (ends : EndsForms back) : Broken (front ++ (text ++ back)) rule := by
  by_cases noWord : rule = .rawTransport
  · rw [noWord, broken_rawTransport_iff] at broken ⊢
    obtain ⟨name, listed, has⟩ := broken
    exact ⟨name, listed, has.within outside ends.closes⟩
  · have whole : Broken (text ++ []) rule := by rwa [List.append_nil]
    exact (broken_of_tail whole noWord (List.forall_mem_nil _) nofun ends).behind outside

/-- A line break at the end of a text breaks no rule. -/
theorem broken_of_newline_end (broken : Broken (text ++ ['\n']) rule) : Broken text rule := by
  by_cases noWord : rule = .rawTransport
  · rw [noWord, broken_rawTransport_iff] at broken ⊢
    obtain ⟨name, listed, has⟩ := broken
    have isWord := isWord_transport listed
    rcases has.split isWord (by decide) with inside | nothing
    · exact ⟨name, listed, inside⟩
    · exact absurd nothing (not_hasWord_nil isWord)
  · have unmarked : ∀ c ∈ ['\n'], isMark c = false := List.forall_mem_singleton.mpr (by decide)
    have feed : EndsForms ['\n'] := endsForms_of_blank fun c first => by
      cases first
      decide
    have alone : Broken (text ++ []) rule := broken_of_tail broken noWord unmarked feed nofun
    rwa [List.append_nil] at alone

/-- An excerpt of a text that starts and stops outside of all forms, with a line break behind it,
breaks no rule that the text keeps. -/
theorem broken_of_excerpt (broken : Broken (text ++ ['\n']) rule) (outside : EndsOutside front)
    (ends : EndsForms back) : Broken (front ++ (text ++ back)) rule :=
  (broken_of_newline_end broken).within outside ends

/-- A statement without marks in front of a text breaks no rule, unless it has a word. -/
theorem broken_of_statement {body : List Char} (unmarked : ∀ c ∈ body, isMark c = false)
    (broken : Broken (body ++ ';' :: text) rule) :
    Broken text rule ∨
      rule = .rawTransport ∧ ∃ name ∈ transportNames, HasWord name.toList body := by
  by_cases noWord : rule = .rawTransport
  · rw [noWord, broken_rawTransport_iff] at broken ⊢
    obtain ⟨name, listed, has⟩ := broken
    rcases has.split (isWord_transport listed) (by decide) with inside | behind
    · exact Or.inr ⟨rfl, name, listed, inside⟩
    · exact Or.inl ⟨name, listed, behind⟩
  · apply Or.inl
    rcases broken_append_cases broken with ⟨before, part, rfl, forbidden⟩ |
      ⟨before, part, split, forbidden⟩
    · exact ((forbidden.settled noWord).not_across fun c member =>
        unmarked c (List.mem_append_right _ member)).elim
    · cases before with
      | nil =>
          rw [List.nil_append] at split
          have settled := forbidden.settled noWord
          rw [← split, ← List.nil_append (';' :: text)] at settled
          exact (settled.not_across (List.forall_mem_nil _)).elim
      | cons c before =>
          obtain ⟨rfl, behind⟩ := List.cons.inj split
          refine ⟨before, part, behind, forbidden.rehead fun outside => ?_⟩
          rw [List.append_cons] at outside
          exact outside.of_append

/-- Lines without marks at the end of a text, in the place of blanks, break no rule, unless they have
a word. -/
theorem broken_of_trimRight_append (unmarked : ∀ c ∈ tail, isMark c = false)
    (broken : Broken (trimRight text ++ '\n' :: tail) rule) :
    Broken text rule ∨
      rule = .rawTransport ∧ ∃ name ∈ transportNames, HasWord name.toList tail := by
  obtain ⟨⟨blanks, blank, split⟩, _⟩ := dropEndWhile_eq_iff.mp (rfl : trimRight text = _)
  have ends : EndsForms blanks :=
    endsForms_of_blank fun c first => blank c (List.mem_of_mem_head? first)
  by_cases noWord : rule = .rawTransport
  · rw [noWord, broken_rawTransport_iff] at broken ⊢
    obtain ⟨name, listed, has⟩ := broken
    rcases has.split (isWord_transport listed) (by decide) with inside | behind
    · apply Or.inl
      have whole := inside.within endsOutside_nil ends.closes
      rw [List.nil_append] at whole
      exact ⟨name, listed, split ▸ whole⟩
    · exact Or.inr ⟨rfl, name, listed, behind⟩
  · apply Or.inl
    have starts : EndsForms ('\n' :: tail) := by
      apply endsForms_of_blank
      rintro c ⟨⟩
      decide
    rw [split]
    apply broken_of_tail broken noWord _ starts ends
    exact List.forall_mem_cons.mpr ⟨by decide, unmarked⟩

end Lectern.Safety

namespace Lectern.Safety

open Lectern.Text

/-- A source with lines in front of it and behind it. -/
def amid (before source after : String) : String := before ++ "\n" ++ source ++ "\n" ++ after

variable {before source after : String} {rule : Rule}

theorem toList_amid : (amid before source after).toList =
    (before.toList ++ ['\n']) ++ (source.toList ++ '\n' :: after.toList) := by
  simp [amid, List.append_assoc]

theorem utf8ByteSize_le_amid (before source after : String) :
    source.utf8ByteSize ≤ (amid before source after).utf8ByteSize := by
  simp only [amid, String.utf8ByteSize_append]
  omega

/-- A rule that a source breaks is broken among other lines as well. -/
theorem broken_amid (broken : Broken source.toList rule) :
    Broken (amid before source after).toList rule := by
  rw [toList_amid]
  apply broken.within
  · intro c last
    rw [List.getLast?_concat] at last
    obtain rfl := Option.some.inj last
    decide
  · apply endsForms_of_blank
    rintro c ⟨⟩
    decide

/-- A source that is flagged is flagged with any lines around it. As long as the whole is not too large,
every rule that is reported for the source is reported for the whole. -/
theorem flagged_amid (before source after : String) :
    (check source ≠ [] → check (amid before source after) ≠ []) ∧
      ((amid before source after).utf8ByteSize ≤ maxSourceBytes →
        ((check source).map (·.rule)).Sublist
          ((check (amid before source after)).map (·.rule))) := by
  have size := utf8ByteSize_le_amid before source after
  constructor
  · intro flagged clean
    obtain ⟨small, kept⟩ := check_eq_nil_iff.mp clean
    apply flagged
    rw [check_eq_nil_iff]
    exact ⟨Nat.le_trans size small, fun rule broken => kept rule (broken_amid broken)⟩
  · intro small
    rw [rules_of_check small, rules_of_check (Nat.le_trans size small)]
    apply List.monotone_filter_right
    intro rule broken
    exact decide_eq_true (broken_amid (of_decide_eq_true broken))

/-- The lines around an address do not hide it: one ends in an address that is let pass, and the other
goes on like an address. -/
theorem flagged_amid_namespace :
    let source := "http://b.c"
    let whole := amid "a = 'http://www.w3.org/2000/svg" source "d.e'"
    check source ≠ [] ∧ whole.utf8ByteSize ≤ maxSourceBytes ∧ check whole ≠ [] ∧
      ((check source).map (·.rule)).Sublist ((check whole).map (·.rule)) := by
  intro source whole
  have flagged : check source ≠ [] := by decide +kernel
  have small : whole.utf8ByteSize ≤ maxSourceBytes := by decide
  obtain ⟨stays, rules⟩ := flagged_amid "a = 'http://www.w3.org/2000/svg" source "d.e'"
  exact ⟨flagged, small, stays flagged, rules small⟩

end Lectern.Safety
