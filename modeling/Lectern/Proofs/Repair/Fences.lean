/-
Module: Lectern.Proofs.Repair.Fences
Purpose: What comes behind the first fence of a text: when a source has no fenced block to be taken
  out of, that nothing is fenced in what was taken out, and what becomes of the first fence when
  other text comes in front of the source or behind it.
Trusted boundary: none
Main exports: FirstFence, fencedPart?, EndsInFence, NothingFenced, unfence_eq_self_iff,
  fencedPart?_append, fencedPart?_trimRight_append
-/
import Lectern.Proofs.Text.Places
import Lectern.Proofs.Text.Trimming
import Lectern.Repair.Fix

namespace Lectern.Repair

open Lectern.Text

variable {text front back behind part : List Char}

/-! ## The first fence -/

theorem fence_infix_append_iff (plain : '\x60' ∉ front) :
    fence <:+: front ++ text ↔ fence <:+: text := by
  induction front with
  | nil => rfl
  | cons c front inductionHypothesis =>
      obtain ⟨apart, plain⟩ := not_or.mp (mt List.mem_cons.mpr plain)
      rw [List.cons_append, List.infix_cons_iff, inductionHypothesis plain]
      refine or_iff_right fun starts => apart ?_
      simpa [fence] using (List.cons_prefix_cons.mp starts).1

theorem fence_infix_append_iff_left (plain : '\x60' ∉ back) :
    fence <:+: text ++ back ↔ fence <:+: text := by
  have turned (some : List Char) : fence <:+: some.reverse ↔ fence <:+: some :=
    show fence.reverse <:+: some.reverse ↔ _ from List.reverse_infix
  rw [← turned, List.reverse_append, fence_infix_append_iff (by simpa using plain), turned]

/-- The first fence of a text stands between two parts of it: none starts in front of it, with marks
of its own or without. -/
structure FirstFence (text front behind : List Char) : Prop where
  split : text = front ++ fence ++ behind
  first : ¬ fence <:+: front ++ ['\x60', '\x60']

theorem atFence_iff {spot : Spot} : atFence spot = true ↔ fence <+: spot.after := by
  simp only [atFence, Option.isSome_iff_exists, after?_eq_some_iff]
  exact ⟨fun ⟨rest, follows⟩ => ⟨rest, follows.symm⟩, fun ⟨rest, follows⟩ => ⟨rest, follows.symm⟩⟩

theorem first?_atFence_eq_none_iff : Spot.first? atFence text = none ↔ ¬ fence <:+: text := by
  rw [Spot.first?_eq_none_iff]
  constructor
  · rintro nowhere ⟨front, back, rfl⟩
    have := nowhere front (fence ++ back) (List.append_assoc _ _ _)
    rw [← Bool.not_eq_true, atFence_iff] at this
    exact this ⟨back, rfl⟩
  · rintro unfenced front back rfl
    rw [← Bool.not_eq_true, atFence_iff]
    exact fun here => unfenced (here.isInfix.trans (List.suffix_append front back).isInfix)

theorem first?_atFence_eq_some_iff {spot : Spot} : Spot.first? atFence text = some spot ↔
    ∃ front behind, FirstFence text front behind ∧ spot = .between front (fence ++ behind) := by
  rw [Spot.first?_eq_some_iff]
  constructor
  · rintro ⟨front, back, split, rfl, here, least⟩
    obtain ⟨behind, rfl⟩ := atFence_iff.mp here
    refine ⟨front, behind, ⟨by rw [split, List.append_assoc], ?_⟩, rfl⟩
    rintro ⟨earlier, rest, early⟩
    have reached := least earlier (fence ++ (rest ++ '\x60' :: behind))
      (by simpa [split, fence] using congrArg (· ++ '\x60' :: behind) early.symm)
      (atFence_iff.mpr ⟨_, rfl⟩)
    have := congrArg List.length early
    simp only [List.length_append, fence, List.length_cons, List.length_nil] at this
    omega
  · rintro ⟨front, behind, ⟨split, first⟩, rfl⟩
    refine ⟨front, fence ++ behind, by rw [split, List.append_assoc], rfl,
      atFence_iff.mpr ⟨behind, rfl⟩, fun earlier later other there => ?_⟩
    obtain ⟨rest, follows⟩ := atFence_iff.mp there
    rw [← Nat.not_lt]
    intro early
    have marks : front ++ ['\x60', '\x60'] <+: text := ⟨'\x60' :: behind, by simp [split, fence]⟩
    have starts : earlier ++ fence <+: text :=
      ⟨rest, by rw [other, List.append_assoc, follows, Spot.between]⟩
    have short : (earlier ++ fence).length ≤ (front ++ ['\x60', '\x60']).length := by
      simp only [List.length_append, fence, List.length_cons, List.length_nil]
      omega
    exact first ((List.suffix_append earlier fence).isInfix.trans
      (List.prefix_of_prefix_length_le starts marks short).isInfix)

/-! ## What is fenced -/

/-- What comes behind the first fence of a text, its line and the ends of lines after that. -/
def fencedPart? (text : List Char) : Option (List Char) :=
  (Spot.first? atFence text).map fun opening =>
    ((opening.after.drop 3).dropWhile (· != '\n')).dropWhile (· == '\n')

theorem fencedPart?_eq_none_iff : fencedPart? text = none ↔ ¬ fence <:+: text := by
  rw [fencedPart?, Option.map_eq_none_iff, first?_atFence_eq_none_iff]

/-- The rest of a line, the ends of lines after it and what comes then. -/
private theorem pastLine_eq_iff :
    (behind.dropWhile (· != '\n')).dropWhile (· == '\n') = part ↔
      ∃ info ends, behind = info ++ ends ++ part ∧ '\n' ∉ info ∧ (∀ c ∈ ends, c = '\n') ∧
        (ends = [] → part = []) ∧ part.head? ≠ some '\n' := by
  constructor
  · rintro rfl
    refine ⟨behind.takeWhile (· != '\n'), (behind.dropWhile (· != '\n')).takeWhile (· == '\n'),
      ?_, ?_, ?_, ?_, ?_⟩
    · rw [List.append_assoc, List.takeWhile_append_dropWhile, List.takeWhile_append_dropWhile]
    · intro held
      have := List.all_eq_true.mp List.all_takeWhile _ held
      simp at this
    · intro c held
      simpa using List.all_eq_true.mp List.all_takeWhile _ held
    · intro none
      cases line : behind.dropWhile (· != '\n') with
      | nil => rfl
      | cons c rest =>
          have first := List.head?_dropWhile_not (· != '\n') behind
          rw [line] at first none
          simp only [List.head?_cons, bne_eq_false_iff_eq] at first
          simp [first] at none
    · intro starts
      have first := List.head?_dropWhile_not (· == '\n') (behind.dropWhile (· != '\n'))
      rw [starts] at first
      simp at first
  · rintro ⟨info, ends, rfl, line, newlines, closed, starts⟩
    have past : (part.dropWhile (· == '\n')) = part := by
      cases part with
      | nil => rfl
      | cons c rest => rw [List.dropWhile_cons_of_neg (by simpa using starts)]
    rw [List.append_assoc, List.dropWhile_append_of_pos (by
      intro c held
      rw [bne_iff_ne]
      rintro rfl
      exact line held)]
    cases ends with
    | nil => simp [closed rfl]
    | cons c ends =>
        obtain rfl := newlines c (List.mem_cons_self)
        rw [List.cons_append, List.dropWhile_cons_of_neg (by simp), ← List.cons_append,
          List.dropWhile_append_of_pos (by simpa using newlines), past]

theorem fencedPart?_eq_some_iff : fencedPart? text = some part ↔
    ∃ front info ends, FirstFence text front (info ++ ends ++ part) ∧ '\n' ∉ info ∧
      (∀ c ∈ ends, c = '\n') ∧ (ends = [] → part = []) ∧ part.head? ≠ some '\n' := by
  simp only [fencedPart?, Option.map_eq_some_iff, first?_atFence_eq_some_iff]
  constructor
  · rintro ⟨_, ⟨front, behind, first, rfl⟩, past⟩
    obtain ⟨info, ends, rfl, line⟩ := pastLine_eq_iff.mp past
    exact ⟨front, info, ends, first, line⟩
  · rintro ⟨front, info, ends, first, line⟩
    exact ⟨_, ⟨front, _, first, rfl⟩, pastLine_eq_iff.mpr ⟨info, ends, rfl, line⟩⟩

/-- The first fence of a text has nothing but ends of lines behind its line. -/
def EndsInFence (text : List Char) : Prop :=
  ∃ front info ends, FirstFence text front (info ++ ends) ∧ '\n' ∉ info ∧ ∀ c ∈ ends, c = '\n'

theorem fencedPart?_eq_some_nil_iff : fencedPart? text = some [] ↔ EndsInFence text := by
  rw [fencedPart?_eq_some_iff]
  simp only [List.append_nil, EndsInFence]
  constructor
  · rintro ⟨front, info, ends, first, line, newlines, _⟩
    exact ⟨front, info, ends, first, line, newlines⟩
  · rintro ⟨front, info, ends, first, line, newlines⟩
    exact ⟨front, info, ends, first, line, newlines, fun _ => trivial, nofun⟩

/-- Nothing stands in the first fenced block of a text, where it has one: behind the line of the fence
and the ends of lines after that comes another fence or the end. -/
def NothingFenced (text : List Char) : Prop :=
  ∀ part, fencedPart? text = some part → part = [] ∨ fence <+: part

theorem nothingFenced_of_unfenced (unfenced : ¬ fence <:+: text) : NothingFenced text := by
  intro part found
  rw [fencedPart?_eq_none_iff.mpr unfenced] at found
  cases found

/-! ## Taking a source out of its fenced block -/

/-- What a fenced block holds reaches up to the next fence, or to the end where there is none. -/
private theorem fenced?_eq_of_past {opening : Spot} {inside : List Char}
    (first : Spot.first? atFence text = some opening)
    (past : (opening.after.drop 3).dropWhile (· != '\n') = '\n' :: inside) :
    ∃ block, fenced? text = some block ∧ ((∃ behind, FirstFence inside block behind) ∨
      inside = block ∧ ¬ fence <:+: inside) := by
  unfold fenced?
  simp only [first, past, Option.bind_eq_bind, Option.bind_some]
  cases closing : Spot.first? atFence inside with
  | none => exact ⟨inside, rfl, .inr ⟨rfl, first?_atFence_eq_none_iff.mp closing⟩⟩
  | some spot =>
      obtain ⟨block, behind, closes, rfl⟩ := first?_atFence_eq_some_iff.mp closing
      exact ⟨block, by simp [Spot.between], .inl ⟨behind, closes⟩⟩

/-- A block holds nothing but ends of lines if a fence comes next, or the end of the text. -/
private theorem all_newline_iff {block inside : List Char}
    (reaches : (∃ behind, FirstFence inside block behind) ∨ inside = block ∧ ¬ fence <:+: inside) :
    (∀ c ∈ block, c = '\n') ↔
      inside.dropWhile (· == '\n') = [] ∨ fence <+: inside.dropWhile (· == '\n') := by
  have newlines (some : List Char) : (∀ c ∈ some, c = '\n') ↔ some.dropWhile (· == '\n') = [] := by
    simp
  rw [newlines]
  rcases reaches with ⟨behind, rfl, first⟩ | ⟨rfl, unfenced⟩
  · rw [List.append_assoc, List.dropWhile_append]
    split
    next none =>
      rw [List.isEmpty_iff] at none
      exact iff_of_true none (.inr ⟨behind, rfl⟩)
    next some =>
      rw [List.isEmpty_iff] at some
      refine iff_of_false some ?_
      rintro (none | starts)
      · exact some (List.append_eq_nil_iff.mp none).1
      · -- The block itself would hold the start of a fence.
        obtain ⟨c, more, left⟩ := List.exists_cons_of_ne_nil some
        have marks : block.dropWhile (· == '\n') ++ ['\x60', '\x60'] <+:
            block.dropWhile (· == '\n') ++ (fence ++ behind) :=
          ⟨'\x60' :: behind, by simp [fence]⟩
        have short : fence.length ≤ (block.dropWhile (· == '\n') ++ ['\x60', '\x60']).length := by
          simp [fence, left]
        have early := (List.prefix_of_prefix_length_le starts marks short).isInfix
        have within : block.dropWhile (· == '\n') ++ ['\x60', '\x60'] <:+
            block ++ ['\x60', '\x60'] := by
          obtain ⟨ends, split⟩ := List.dropWhile_suffix (l := block) (· == '\n')
          exact ⟨ends, by rw [← List.append_assoc, split]⟩
        exact first (early.trans within.isInfix)
  · refine ⟨.inl, fun held => held.resolve_right fun starts => ?_⟩
    exact unfenced (starts.isInfix.trans (List.dropWhile_suffix _).isInfix)

/-- A source has a block to be taken out of, and what is taken out has no fence, or it stays as it
is because there is no block or nothing in it. -/
theorem unfence_cases (source : String) :
    (unfence source = source ∧ NothingFenced source.toList) ∨
      (¬ NothingFenced source.toList ∧ ¬ fence <:+: (unfence source).toList) := by
  cases first : Spot.first? atFence source.toList with
  | none =>
      exact .inl ⟨by simp [unfence, fenced?, first],
        nothingFenced_of_unfenced (first?_atFence_eq_none_iff.mp first)⟩
  | some opening =>
      have only : fencedPart? source.toList =
          some (((opening.after.drop 3).dropWhile (· != '\n')).dropWhile (· == '\n')) := by
        rw [fencedPart?, first, Option.map_some]
      simp only [NothingFenced, only, Option.some.injEq, forall_eq']
      cases past : (opening.after.drop 3).dropWhile (· != '\n') with
      | nil => exact .inl ⟨by simp [unfence, fenced?, first, past], .inl rfl⟩
      | cons c inside =>
          have newline := List.head?_dropWhile_not (· != '\n') (opening.after.drop 3)
          simp only [past, List.head?_cons, bne_eq_false_iff_eq] at newline
          subst newline
          obtain ⟨block, found, reaches⟩ := fenced?_eq_of_past first past
          rw [List.dropWhile_cons_of_pos (by simp), ← all_newline_iff reaches]
          have empty : trimWhile (· == '\n') block = [] ↔ ∀ c ∈ block, c = '\n' := by
            simp [trimWhile_eq_nil_iff]
          by_cases hollow : ∀ c ∈ block, c = '\n'
          · exact .inl ⟨by simp [unfence, found, empty.mpr hollow], hollow⟩
          · refine .inr ⟨hollow, ?_⟩
            have filled : (trimWhile (· == '\n') block).isEmpty = false := by
              rw [List.isEmpty_eq_false_iff, Ne, empty]
              exact hollow
            simp only [unfence, found, filled, Bool.false_eq_true, if_false, String.toList_ofList]
            rw [fence_infix_append_iff_left (by decide)]
            intro held
            have within := held.trans (trimWhile_isInfix _ block)
            rcases reaches with ⟨behind, _, first⟩ | ⟨rfl, unfenced⟩
            · exact first (within.trans (List.prefix_append _ _).isInfix)
            · exact unfenced within

/-- A source that is taken out of its block is a stretch of it between ends of lines, the last of which
can be a fence or the end of the source. -/
theorem unfence_excerpt (source : String) : unfence source = source ∨
    ∃ front body back, source.toList = front ++ (body ++ back) ∧
      (unfence source).toList = body ++ ['\n'] ∧ (∀ c ∈ front.getLast?, c = '\n') ∧
      ∀ c ∈ back.head?, c = '\n' ∨ c = '\x60' := by
  cases first : Spot.first? atFence source.toList with
  | none => exact .inl (by simp [unfence, fenced?, first])
  | some opening =>
      obtain ⟨lead, behind, ⟨split, _⟩, rfl⟩ := first?_atFence_eq_some_iff.mp first
      cases past : behind.dropWhile (· != '\n') with
      | nil => exact .inl (by simp [unfence, fenced?, first, Spot.between, fence, past])
      | cons c inside =>
          have newline := List.head?_dropWhile_not (· != '\n') behind
          simp only [past, List.head?_cons, bne_eq_false_iff_eq] at newline
          subst newline
          obtain ⟨block, found, reaches⟩ := fenced?_eq_of_past first
            (show (((Spot.between lead (fence ++ behind)).after.drop 3).dropWhile (· != '\n')) = _
              from past)
          by_cases hollow : (trimWhile (· == '\n') block).isEmpty = true
          · exact .inl (by simp only [unfence, found, hollow, if_true])
          obtain ⟨opens, closes, spelled, opening, closing⟩ := exists_of_trimWhile (· == '\n') block
          obtain ⟨rest, goesOn, marks⟩ : ∃ rest, inside = block ++ rest ∧
              ∀ c ∈ rest.head?, c = '\x60' := by
            rcases reaches with ⟨behind, ends, _⟩ | ⟨whole, _⟩
            · exact ⟨fence ++ behind, by rw [ends, List.append_assoc], by simp [fence]⟩
            · exact ⟨[], by rw [whole, List.append_nil], by simp⟩
          refine .inr ⟨lead ++ fence ++ behind.takeWhile (· != '\n') ++ '\n' :: opens,
            trimWhile (· == '\n') block, closes ++ rest, ?_, ?_, ?_, ?_⟩
          · have line := List.takeWhile_append_dropWhile (p := (· != '\n')) (l := behind)
            rw [past, goesOn, spelled] at line
            rw [split]
            conv_lhs => rw [← line]
            simp only [List.append_assoc, List.cons_append]
          · simp only [unfence, found, hollow, Bool.false_eq_true, if_false, String.toList_ofList]
          · intro c last
            rw [List.getLast?_append_of_ne_nil _ (List.cons_ne_nil _ _)] at last
            rcases List.mem_cons.mp (List.mem_of_getLast? last) with rfl | inside
            · rfl
            · exact beq_iff_eq.mp (opening c inside)
          · intro c starts
            cases closes with
            | nil => exact .inr (marks c starts)
            | cons d closes =>
                obtain rfl := Option.some.inj starts
                exact .inl (beq_iff_eq.mp (closing _ List.mem_cons_self))

theorem unfence_eq_self_iff {source : String} :
    unfence source = source ↔ NothingFenced source.toList := by
  rcases unfence_cases source with ⟨same, nothing⟩ | ⟨filled, unfenced⟩
  · exact iff_of_true same nothing
  · refine iff_of_false (fun same => filled ?_) filled
    exact nothingFenced_of_unfenced (same ▸ unfenced)

theorem nothingFenced_unfence (source : String) : NothingFenced (unfence source).toList := by
  rcases unfence_cases source with ⟨same, nothing⟩ | ⟨_, unfenced⟩
  · rwa [same]
  · exact nothingFenced_of_unfenced unfenced

/-! ## A fence among other text -/

theorem fencedPart?_append (plain : '\x60' ∉ front) :
    fencedPart? (front ++ text) = fencedPart? text := by
  cases found : fencedPart? text with
  | none =>
      rw [fencedPart?_eq_none_iff] at found ⊢
      rwa [fence_infix_append_iff plain]
  | some part =>
      obtain ⟨lead, info, ends, ⟨rfl, first⟩, line⟩ := fencedPart?_eq_some_iff.mp found
      refine fencedPart?_eq_some_iff.mpr ⟨front ++ lead, info, ends, ⟨?_, ?_⟩, line⟩
      · simp only [List.append_assoc]
      · rwa [List.append_assoc, fence_infix_append_iff plain]

/-- What becomes of the part behind the first fence when a line is added at the end of a source that
is not to be taken out of a block: it comes right behind a fence that was open at the end. -/
theorem fencedPart?_trimRight_append {line : List Char} (plain : '\x60' ∉ line)
    (starts : line.head? ≠ some '\n')
    (nothing : NothingFenced text) :
    (fencedPart? text = none ∧ fencedPart? (trimRight text ++ '\n' :: '\n' :: line) = none) ∨
    (EndsInFence text ∧ fencedPart? (trimRight text ++ '\n' :: '\n' :: line) = some line) ∨
    (∃ more, fencedPart? text = some (fence ++ more)) ∧
      ∃ more, fencedPart? (trimRight text ++ '\n' :: '\n' :: line) = some (fence ++ more) := by
  cases found : fencedPart? text with
  | none =>
      refine .inl ⟨rfl, ?_⟩
      rw [fencedPart?_eq_none_iff] at found ⊢
      rw [fence_infix_append_iff_left (by simpa using plain)]
      exact fun held => found (held.trans (List.rdropWhile_prefix isBlank text).isInfix)
  | some part =>
      rcases nothing part found with rfl | ⟨more, rfl⟩
      · have ends := fencedPart?_eq_some_nil_iff.mp found
        refine .inr (.inl ⟨ends, fencedPart?_eq_some_iff.mpr ?_⟩)
        obtain ⟨front, info, ends, ⟨rfl, first⟩, single, newlines⟩ := ends
        refine ⟨front, trimRight info, ['\n', '\n'], ⟨?_, first⟩, ?_, by simp, nofun, starts⟩
        · have blank : ∀ c ∈ ends, isBlank c = true := fun c held => by
            rw [newlines c held]
            decide
          have mark : ∀ c ∈ (front ++ fence).getLast?, isBlank c = false := by
            rw [List.getLast?_append_of_ne_nil _ (by simp [fence])]
            rintro _ ⟨⟩
            rfl
          rw [trimRight, ← List.append_assoc _ info, dropEndWhile_append_of_all blank,
            dropEndWhile_append_of_kept mark]
          simp [trimRight]
        · exact fun held => single ((List.rdropWhile_prefix isBlank info).subset held)
      · refine .inr (.inr ⟨⟨more, rfl⟩, trimRight more ++ '\n' :: '\n' :: line, ?_⟩)
        obtain ⟨front, info, ends, ⟨rfl, first⟩, single, newlines, closed, _⟩ :=
          fencedPart?_eq_some_iff.mp found
        refine fencedPart?_eq_some_iff.mpr ⟨front, info, ends, ⟨?_, first⟩, single, newlines,
          fun none => absurd (closed none) (by simp [fence]), by simp [fence]⟩
        have mark : ∀ c ∈ (front ++ fence ++ (info ++ ends ++ fence)).getLast?, isBlank c = false := by
          rw [← List.append_assoc, List.getLast?_append_of_ne_nil _ (by simp [fence])]
          rintro _ ⟨⟩
          rfl
        rw [trimRight, ← List.append_assoc (info ++ ends), ← List.append_assoc (front ++ fence),
          dropEndWhile_append_of_kept mark]
        simp [trimRight]

end Lectern.Repair
