/-
Module: Lectern.Proofs.Text.Places
Purpose: The first place in a text where something holds, what patterns take at a place, and when a
  search that lets some finds pass comes to the first place of one that it does not.
Trusted boundary: none
Main exports: after?_eq_some_iff, Spot.between, Spot.first?_eq_some_iff, Spot.first?_eq_none_iff,
  Pattern.Finds, Pattern.take_append_iff, Pattern.take_word_iff, Pattern.take_blanks_oneOf_iff,
  Pattern.take_anyOf_literal_iff, Pattern.take_many_iff, Spot.scan_eq_first?
-/
import Lectern.Text.Pattern

namespace Lectern.Text

/-- A text starts with some characters if it is made of them and a rest. -/
theorem after?_eq_some_iff {expected text rest : List Char} :
    after? expected text = some rest ↔ text = expected ++ rest := by
  induction expected generalizing text with
  | nil => simp [after?, eq_comm]
  | cons first more inductionHypothesis =>
      cases text with
      | nil => simp [after?]
      | cons c text =>
          by_cases same : c = first
          · simp [after?, same, inductionHypothesis]
          · simp [after?, same]

/-! ## The first place -/

namespace Spot

/-- The place between two parts of a text. -/
def between (front back : List Char) : Spot := ⟨front.reverse, back⟩

/-- Something holds at a place that some characters lead to, and at none before it. -/
private def IsFirst (holds : Spot → Bool) (before text : List Char) (spot : Spot) : Prop :=
  ∃ front, text = front ++ spot.after ∧ spot.before = front.reverse ++ before ∧
    holds spot = true ∧
    ∀ earlier later, text = earlier ++ later →
      holds ⟨earlier.reverse ++ before, later⟩ = true → front.length ≤ earlier.length

variable {holds : Spot → Bool}

private theorem isFirst_here {before text : List Char} (here : holds ⟨before, text⟩ = true)
    {spot : Spot} : IsFirst holds before text spot ↔ spot = ⟨before, text⟩ := by
  constructor
  · rintro ⟨front, reached, walked, _, least⟩
    have short := least [] text rfl here
    rw [List.length_nil, Nat.le_zero, List.length_eq_zero_iff] at short
    subst short
    cases spot
    simp only [List.nil_append, List.reverse_nil] at reached walked
    rw [reached, walked]
  · rintro rfl
    exact ⟨[], rfl, rfl, here, fun _ _ _ _ => Nat.zero_le _⟩

private theorem isFirst_cons {before rest : List Char} {c : Char}
    (apart : holds ⟨before, c :: rest⟩ = false) {spot : Spot} :
    IsFirst holds before (c :: rest) spot ↔ IsFirst holds (c :: before) rest spot := by
  constructor
  · rintro ⟨front, reached, walked, here, least⟩
    cases front with
    | nil =>
        cases spot
        simp only [List.nil_append, List.reverse_nil] at reached walked
        rw [← reached, walked, apart] at here
        cases here
    | cons first front =>
        obtain ⟨rfl, behind⟩ := List.cons.inj reached
        refine ⟨front, behind, by simpa using walked, here, ?_⟩
        intro earlier later split there
        have := least (c :: earlier) later (by rw [split, List.cons_append]) (by simpa using there)
        simpa using this
  · rintro ⟨front, reached, walked, here, least⟩
    refine ⟨c :: front, by rw [reached, List.cons_append], by simpa using walked, here, ?_⟩
    intro earlier later split there
    cases earlier with
    | nil =>
        rw [List.nil_append] at split
        rw [← split, List.reverse_nil, List.nil_append, apart] at there
        cases there
    | cons first earlier =>
        obtain ⟨rfl, behind⟩ := List.cons.inj split
        simpa using least earlier later behind (by simpa using there)

private theorem firstFrom_eq_some_iff {before text : List Char} {spot : Spot} :
    firstFrom holds before text = some spot ↔ IsFirst holds before text spot := by
  induction text generalizing before with
  | nil =>
      rw [firstFrom]
      split
      next here => rw [isFirst_here here, Option.some_inj, eq_comm]
      next apart =>
        refine iff_of_false nofun ?_
        rintro ⟨front, reached, walked, here, _⟩
        obtain ⟨rfl, rest⟩ := List.append_eq_nil_iff.mp reached.symm
        cases spot
        simp only [List.reverse_nil, List.nil_append] at rest walked
        rw [rest, walked] at here
        exact apart here
  | cons c rest inductionHypothesis =>
      rw [firstFrom]
      split
      next here => rw [isFirst_here here, Option.some_inj, eq_comm]
      next apart =>
        rw [inductionHypothesis, isFirst_cons (Bool.eq_false_iff.mpr apart)]

/-- The first place where something holds: it holds there, and no place before it. -/
theorem first?_eq_some_iff {text : List Char} {spot : Spot} :
    first? holds text = some spot ↔
      ∃ front back, text = front ++ back ∧ spot = between front back ∧ holds spot = true ∧
        ∀ earlier later, text = earlier ++ later → holds (between earlier later) = true →
          front.length ≤ earlier.length := by
  rw [first?, firstFrom_eq_some_iff, IsFirst]
  simp only [List.append_nil]
  constructor
  · rintro ⟨front, reached, walked, here, least⟩
    refine ⟨front, spot.after, reached, ?_, here, least⟩
    cases spot
    rw [between]
    simp only at walked ⊢
    rw [walked]
  · rintro ⟨front, back, reached, rfl, here, least⟩
    exact ⟨front, reached, rfl, here, least⟩

private theorem firstFrom_eq_none_iff {before text : List Char} :
    firstFrom holds before text = none ↔
      ∀ front back, text = front ++ back → holds ⟨front.reverse ++ before, back⟩ = false := by
  induction text generalizing before with
  | nil =>
      rw [firstFrom]
      constructor
      · intro none front back split
        obtain ⟨rfl, rfl⟩ := List.append_eq_nil_iff.mp split.symm
        simpa using none
      · intro nowhere
        simpa using nowhere [] [] rfl
  | cons c rest inductionHypothesis =>
      rw [firstFrom]
      constructor
      · intro none front back split
        split at none
        next => cases none
        next apart =>
          cases front with
          | nil =>
              rw [List.nil_append] at split
              rw [← split]
              exact Bool.eq_false_iff.mpr apart
          | cons first front =>
              obtain ⟨rfl, behind⟩ := List.cons.inj split
              simpa using inductionHypothesis.mp none front back behind
      · intro nowhere
        have here := nowhere [] (c :: rest) rfl
        simp only [List.reverse_nil, List.nil_append] at here
        rw [if_neg (Bool.eq_false_iff.mp here), inductionHypothesis]
        intro front back split
        have := nowhere (c :: front) back (by rw [split, List.cons_append])
        simpa using this

/-- Something holds nowhere in a text if there is no first place where it does. -/
theorem first?_eq_none_iff {text : List Char} :
    first? holds text = none ↔
      ∀ front back, text = front ++ back → holds (between front back) = false := by
  rw [first?, firstFrom_eq_none_iff]
  simp only [List.append_nil]
  rfl

end Spot

/-! ## What patterns take -/

/-- The place behind the first part of what follows. -/
theorem Spot.past_of_eq_append {spot : Spot} {taken rest : List Char}
    (follows : spot.after = taken ++ rest) :
    spot.past taken = ⟨taken.reverse ++ spot.before, rest⟩ := by
  rw [past, follows, List.drop_left]

theorem Spot.past_append (spot : Spot) (front more : List Char) :
    spot.past (front ++ more) = (spot.past front).past more := by
  simp [past, List.drop_drop]

@[simp]
theorem Spot.past_nil (spot : Spot) : spot.past [] = spot := rfl

theorem closesWord_append {word : List Char} (goesOn : closesWord word = false)
    (rest : List Char) : closesWord (word ++ rest) = false := by
  cases word with
  | nil => cases goesOn
  | cons c more => exact goesOn

namespace Pattern

variable {first second : Pattern} {spot : Spot} {taken : List Char}

/-- One pattern and then another take what each of them takes. -/
theorem take_append_iff : (first ++ second).take spot = some taken ↔
    ∃ front more, first.take spot = some front ∧ second.take (spot.past front) = some more ∧
      front ++ more = taken := by
  change ((first.take spot).bind fun front =>
    (second.take (spot.past front)).bind fun more => some (front ++ more)) = _ ↔ _
  simp only [Option.bind_eq_some_iff, Option.some.injEq]
  constructor
  · rintro ⟨front, one, more, other, same⟩
    exact ⟨front, more, one, other, same⟩
  · rintro ⟨front, more, one, other, same⟩
    exact ⟨front, one, more, other, same⟩

/-- A pattern is there at a place. -/
def Finds (pattern : Pattern) (spot : Spot) : Prop := ∃ taken, pattern.take spot = some taken

theorem finds_append_iff : (first ++ second).Finds spot ↔
    ∃ front, first.take spot = some front ∧ second.Finds (spot.past front) := by
  simp only [Finds, take_append_iff]
  constructor
  · rintro ⟨_, front, more, one, other, _⟩
    exact ⟨front, one, more, other⟩
  · rintro ⟨front, one, more, other⟩
    exact ⟨_, front, more, one, other, rfl⟩

theorem finds_anyOf_iff {patterns : List Pattern} :
    (anyOf patterns).Finds spot ↔ ∃ pattern ∈ patterns, pattern.Finds spot := by
  simp only [Finds, ← Option.isSome_iff_exists, anyOf, List.findSome?_isSome_iff]

theorem append_assoc (first second third : Pattern) :
    first ++ second ++ third = first ++ (second ++ third) := by
  have same : (first ++ second ++ third).take = (first ++ (second ++ third)).take := by
    funext spot
    apply Option.ext
    intro taken
    simp only [take_append_iff]
    constructor
    · rintro ⟨_, last, ⟨front, middle, one, two, rfl⟩, three, rfl⟩
      rw [Spot.past_append] at three
      exact ⟨front, middle ++ last, one, ⟨middle, last, two, three, rfl⟩,
        (List.append_assoc _ _ _).symm⟩
    · rintro ⟨front, _, one, ⟨middle, last, two, three, rfl⟩, rfl⟩
      rw [← Spot.past_append] at three
      exact ⟨front ++ middle, last, ⟨front, middle, one, two, rfl⟩, three,
        List.append_assoc _ _ _⟩
  exact congrArg mk same

theorem take_literal_iff {characters : String} :
    (literal characters).take spot = some taken ↔
      taken = characters.toList ∧ ∃ rest, spot.after = characters.toList ++ rest := by
  simp only [literal, Option.map_eq_some_iff, after?_eq_some_iff]
  constructor
  · rintro ⟨rest, follows, rfl⟩
    exact ⟨rfl, rest, follows⟩
  · rintro ⟨rfl, rest, follows⟩
    exact ⟨rest, follows, rfl⟩

theorem finds_literal_iff {characters : String} :
    (literal characters).Finds spot ↔ ∃ rest, spot.after = characters.toList ++ rest := by
  simp only [Finds, take_literal_iff]
  exact ⟨fun ⟨_, _, starts⟩ => starts, fun starts => ⟨_, rfl, starts⟩⟩

theorem take_edge_iff :
    edge.take spot = some taken ↔ taken = [] ∧ spot.opensWord ≠ closesWord spot.after := by
  simp only [edge, Option.ite_none_right_eq_some, bne_iff_ne, Option.some.injEq]
  exact ⟨fun both => ⟨both.2.symm, both.1⟩, fun both => ⟨both.2, both.1.symm⟩⟩

/-- Characters of a word are there, and no word goes on with them. -/
theorem take_word_iff {characters : String} (word : closesWord characters.toList = false) :
    (edge ++ literal characters).take spot = some taken ↔
      taken = characters.toList ∧ spot.opensWord = true ∧
        ∃ rest, spot.after = characters.toList ++ rest := by
  simp only [take_append_iff, take_edge_iff, take_literal_iff]
  constructor
  · rintro ⟨_, _, ⟨rfl, boundary⟩, ⟨rfl, rest, follows⟩, rfl⟩
    rw [Spot.past_nil] at follows
    rw [follows, closesWord_append word] at boundary
    exact ⟨rfl, eq_true_of_ne_false boundary, rest, follows⟩
  · rintro ⟨rfl, opens, rest, follows⟩
    refine ⟨[], characters.toList, ⟨rfl, ?_⟩, ⟨rfl, rest, follows⟩, rfl⟩
    rw [opens, follows, closesWord_append word]
    decide

/-- White space and then one of some characters that are no white space. -/
theorem take_blanks_oneOf_iff {characters : List Char}
    (visible : ∀ c ∈ characters, isBlank c = false) :
    (blanks ++ oneOf characters).take spot = some taken ↔
      ∃ white c rest, (∀ b ∈ white, isBlank b = true) ∧ c ∈ characters ∧
        spot.after = white ++ c :: rest ∧ taken = white ++ [c] := by
  simp only [take_append_iff, blanks, Option.some.injEq]
  constructor
  · rintro ⟨_, more, rfl, one, rfl⟩
    have split := (List.takeWhile_append_dropWhile (p := isBlank) (l := spot.after)).symm
    rw [Spot.past_of_eq_append split] at one
    cases behind : spot.after.dropWhile isBlank with
    | nil => simp [oneOf, behind] at one
    | cons c rest =>
        simp only [oneOf, behind] at one
        split at one
        next held =>
          cases one
          rw [behind] at split
          exact ⟨_, c, rest, List.all_eq_true.mp List.all_takeWhile, by simpa using held, split, rfl⟩
        next => cases one
  · rintro ⟨white, c, rest, blank, held, follows, rfl⟩
    have whole : spot.after.takeWhile isBlank = white := by
      rw [follows, List.takeWhile_append_of_pos blank]
      simp [visible c held]
    refine ⟨white, [c], whole, ?_, rfl⟩
    rw [Spot.past_of_eq_append follows]
    simp [oneOf, held]

/-- One of some texts of which none starts with another. -/
theorem take_anyOf_literal_iff {texts : List String}
    (apart : ∀ one ∈ texts, ∀ other ∈ texts, one.toList <+: other.toList → one = other) :
    (anyOf (texts.map literal)).take spot = some taken ↔
      ∃ text ∈ texts, taken = text.toList ∧ ∃ rest, spot.after = text.toList ++ rest := by
  simp only [anyOf]
  constructor
  · intro found
    obtain ⟨pattern, member, takes⟩ := List.exists_of_findSome?_eq_some found
    obtain ⟨text, listed, rfl⟩ := List.mem_map.mp member
    exact ⟨text, listed, take_literal_iff.mp takes⟩
  · rintro ⟨text, listed, rfl, rest, follows⟩
    cases found : (texts.map literal).findSome? fun pattern => pattern.take spot with
    | none =>
        have missed := List.findSome?_eq_none_iff.mp found _ (List.mem_map_of_mem listed)
        rw [take_literal_iff.mpr ⟨rfl, rest, follows⟩] at missed
        cases missed
    | some other =>
        obtain ⟨pattern, member, takes⟩ := List.exists_of_findSome?_eq_some found
        obtain ⟨second, held, rfl⟩ := List.mem_map.mp member
        obtain ⟨rfl, behind, starts⟩ := take_literal_iff.mp takes
        -- Both are prefixes of what follows, so one is a prefix of the other.
        rcases List.prefix_or_prefix_of_prefix (List.prefix_append text.toList rest)
            (show second.toList <+: text.toList ++ rest from ⟨behind, starts ▸ follows⟩) with
          shorter | shorter
        · rw [apart text listed second held shorter]
        · rw [apart second held text listed shorter]

/-- As many characters of a kind as there are. -/
theorem take_many_iff {kind : Char → Bool} :
    (many kind).take spot = some taken ↔
      taken ≠ [] ∧ (∀ c ∈ taken, kind c = true) ∧
        ∃ rest, spot.after = taken ++ rest ∧ ∀ c ∈ rest.head?, kind c = false := by
  have split := (List.takeWhile_append_dropWhile (p := kind) (l := spot.after)).symm
  have unfolded : (many kind).take spot = some taken ↔
      taken ≠ [] ∧ spot.after.takeWhile kind = taken := by
    simp only [many]
    split
    next none => simp [none]
    next some =>
      simp only [Option.some.injEq]
      constructor
      · rintro rfl
        exact ⟨some, rfl⟩
      · exact fun same => same.2
  rw [unfolded]
  constructor
  · rintro ⟨filled, rfl⟩
    refine ⟨filled, List.all_eq_true.mp List.all_takeWhile, _, split, ?_⟩
    intro c first
    have := List.head?_dropWhile_not kind spot.after
    rw [first] at this
    simpa using this
  · rintro ⟨filled, all, rest, follows, ends⟩
    refine ⟨filled, ?_⟩
    rw [follows, List.takeWhile_append_of_pos all]
    cases rest with
    | nil => simp
    | cons c rest => simp [ends c rfl]

end Pattern

/-! ## Searching for what is not let pass -/

namespace Pattern

/-- Does a pattern find something at a place that is not let pass? -/
def offends (pattern : Pattern) (passes : List Char → Bool) (spot : Spot) : Bool :=
  (pattern.take spot).any fun taken => !passes taken

/-- No find that is let pass reaches over a place where one starts that is not. -/
def HidesNothing (pattern : Pattern) (passes : List Char → Bool) : Prop :=
  ∀ spot taken, pattern.take spot = some taken → passes taken = true →
    ∀ front back, spot.after = front ++ back → front ≠ [] → front.length < taken.length →
      pattern.offends passes ⟨front.reverse ++ spot.before, back⟩ = false

/-- A pattern finds nothing at the end of a text. -/
def TakesSome (pattern : Pattern) : Prop := ∀ before, pattern.take ⟨before, []⟩ = none

end Pattern

namespace Spot

variable {pattern : Pattern} {passes : List Char → Bool}

-- What is still ahead of a search belongs to a find that was let pass, so nothing offends there.
private theorem scanFrom_eq_firstFrom (hides : pattern.HidesNothing passes)
    (filled : pattern.TakesSome) {ahead : Nat} {before text : List Char}
    (clear : ∀ front back, text = front ++ back → front.length < ahead →
      pattern.offends passes ⟨front.reverse ++ before, back⟩ = false) :
    scanFrom pattern passes ahead before text =
      firstFrom (pattern.offends passes) before text := by
  induction text generalizing ahead before with
  | nil => simp [scanFrom, firstFrom, Pattern.offends, filled before]
  | cons c rest inductionHypothesis =>
      rw [scanFrom.eq_def, firstFrom]
      cases ahead with
      | succ ahead =>
          have here := clear [] (c :: rest) rfl (Nat.zero_lt_succ _)
          simp only [List.reverse_nil, List.nil_append] at here
          rw [here, if_neg Bool.false_ne_true]
          apply inductionHypothesis
          intro front back split short
          have := clear (c :: front) back (by rw [split, List.cons_append]) (by simpa using short)
          simpa using this
      | zero =>
          simp only
          cases found : pattern.take ⟨before, c :: rest⟩ with
          | none =>
              have here : pattern.offends passes ⟨before, c :: rest⟩ = false := by
                simp [Pattern.offends, found]
              rw [here, if_neg Bool.false_ne_true]
              exact inductionHypothesis fun _ _ _ impossible => absurd impossible (Nat.not_lt_zero _)
          | some taken =>
              have here : pattern.offends passes ⟨before, c :: rest⟩ = !passes taken := by
                simp [Pattern.offends, found]
              rw [here]
              cases lets : passes taken with
              | false => simp [lets]
              | true =>
                  simp only [lets, if_true, Bool.not_true, Bool.false_eq_true, if_false]
                  apply inductionHypothesis
                  intro front back split short
                  have := hides _ _ found lets (c :: front) back (by rw [split, List.cons_append])
                    (List.cons_ne_nil _ _) (by rw [List.length_cons]; omega)
                  simpa using this

/-- Where no find that is let pass hides another one, a search stops at the first place of one that
is not let pass. -/
theorem scan_eq_first? (hides : pattern.HidesNothing passes) (filled : pattern.TakesSome)
    (text : List Char) : scan pattern passes text = first? (pattern.offends passes) text :=
  scanFrom_eq_firstFrom hides filled fun _ _ _ impossible => absurd impossible (Nat.not_lt_zero _)

end Spot

end Lectern.Text
