/-
Module: Lectern.Proofs.Text.Trimming
Purpose: What is left of a text without the characters of a kind at its ends, the pieces of a text
  between separators, and its line ends.
Trusted boundary: none
Main exports: forall_mem_of_all, dropEndWhile_eq_iff, dropEndWhile_append_of_ne_nil, trimWhile_eq_self,
  trimWhile_append_of_all, splitOn_of_forall, splitOn_append_cons, mem_splitOn,
  withPlainLineEnds_of_not_mem, withPlainLineEnds_eq_unify
-/
import Mathlib.Data.List.DropRight
import Lectern.Text.Blank

namespace Lectern.Text

/-- What holds of the characters of a text, checked one by one. -/
theorem forall_mem_of_all {holds : Char → Prop} [DecidablePred holds] {text : List Char}
    (all : (text.all fun c => decide (holds c)) = true) : ∀ c ∈ text, holds c :=
  fun c member => of_decide_eq_true (List.all_eq_true.mp all c member)

variable {drop : Char → Bool} {text front back tail kept : List Char}

/-! ## The ends of a text -/

/-- What is left of a text without the characters of a kind at its end. -/
theorem dropEndWhile_eq_iff {drop : Char → Bool} {text kept : List Char} :
    dropEndWhile drop text = kept ↔
      (∃ tail, (∀ c ∈ tail, drop c = true) ∧ text = kept ++ tail) ∧
        ∀ c ∈ kept.getLast?, drop c = false := by
  unfold dropEndWhile
  rw [List.reverse_eq_iff]
  constructor
  · intro left
    refine ⟨⟨(text.reverse.takeWhile drop).reverse, ?_, ?_⟩, ?_⟩
    · intro c member
      exact List.all_eq_true.mp List.all_takeWhile c (List.mem_reverse.mp member)
    · rw [← List.reverse_inj, List.reverse_append, List.reverse_reverse, ← left,
        List.takeWhile_append_dropWhile]
    · intro c last
      have first := List.head?_dropWhile_not drop text.reverse
      rw [left, List.head?_reverse] at first
      rw [Option.mem_def.mp last] at first
      simpa using first
  · rintro ⟨⟨tail, all, rfl⟩, last⟩
    rw [List.reverse_append, List.dropWhile_append_of_pos (by simpa using all)]
    rw [← List.head?_reverse] at last
    cases spelled : kept.reverse with
    | nil => rfl
    | cons c rest => simp [last c (by rw [spelled]; rfl)]

theorem dropEndWhile_append_of_all (all : ∀ c ∈ tail, drop c = true) :
    dropEndWhile drop (text ++ tail) = dropEndWhile drop text := by
  unfold dropEndWhile
  rw [List.reverse_append, List.dropWhile_append_of_pos (by simpa using all)]

theorem dropEndWhile_append_of_ne_nil (filled : dropEndWhile drop back ≠ []) :
    dropEndWhile drop (front ++ back) = front ++ dropEndWhile drop back := by
  obtain ⟨⟨tail, all, split⟩, last⟩ := dropEndWhile_eq_iff.mp (rfl : dropEndWhile drop back = _)
  refine dropEndWhile_eq_iff.mpr ⟨⟨tail, all, by rw [List.append_assoc, ← split]⟩, ?_⟩
  rwa [List.getLast?_append_of_ne_nil _ filled]

/-- What is left behind characters that stay, the last of which is not of the kind. -/
theorem dropEndWhile_append_of_kept (last : ∀ c ∈ front.getLast?, drop c = false) :
    dropEndWhile drop (front ++ back) = front ++ dropEndWhile drop back := by
  by_cases left : dropEndWhile drop back = []
  · have all := List.rdropWhile_eq_nil_iff.mp left
    rw [dropEndWhile_append_of_all all, left, List.append_nil]
    exact dropEndWhile_eq_iff.mpr ⟨⟨[], nofun, (List.append_nil _).symm⟩, last⟩
  · exact dropEndWhile_append_of_ne_nil left

theorem trimWhile_eq_nil_iff : trimWhile drop text = [] ↔ ∀ c ∈ text, drop c = true := by
  refine List.rdropWhile_eq_nil_iff.trans ⟨fun all => ?_, fun all c member => ?_⟩
  · rw [← List.dropWhile_eq_nil_iff]
    by_contra some
    have first := List.head_dropWhile_not drop some
    rw [all _ (List.head_mem some)] at first
    cases first
  · exact all c ((List.dropWhile_suffix drop).subset member)

/-- A text stays as it is if it neither starts nor ends with a character of the kind. -/
theorem trimWhile_eq_self (first : ∀ c ∈ text.head?, drop c = false)
    (last : ∀ c ∈ text.getLast?, drop c = false) : trimWhile drop text = text := by
  have opens : text.dropWhile drop = text := by
    cases text with
    | nil => rfl
    | cons c rest => rw [List.dropWhile_cons_of_neg (by simp [first c rfl])]
  rw [trimWhile, opens]
  exact dropEndWhile_eq_iff.mpr ⟨⟨[], nofun, (List.append_nil _).symm⟩, last⟩

theorem trimWhile_append_of_all (all : ∀ c ∈ tail, drop c = true) :
    trimWhile drop (text ++ tail) = trimWhile drop text := by
  unfold trimWhile
  rw [List.dropWhile_append]
  split
  next none =>
    rw [List.isEmpty_iff] at none
    rw [none, List.dropWhile_eq_nil_iff.mpr all]
  next => rw [dropEndWhile_append_of_all all]

theorem trimWhile_append_of_all_left (all : ∀ c ∈ front, drop c = true) :
    trimWhile drop (front ++ text) = trimWhile drop text := by
  rw [trimWhile, List.dropWhile_append_of_pos all, trimWhile]

/-- A trimmed text neither starts nor ends with a character of the kind. -/
theorem trimWhile_ends : (∀ c ∈ (trimWhile drop text).head?, drop c = false) ∧
    ∀ c ∈ (trimWhile drop text).getLast?, drop c = false := by
  obtain ⟨⟨tail, _, split⟩, last⟩ := dropEndWhile_eq_iff.mp (trimWhile.eq_1 drop text).symm
  refine ⟨fun c first => ?_, last⟩
  have opens := List.head?_dropWhile_not drop text
  rw [split, List.head?_append, Option.mem_def.mp first] at opens
  simpa using opens

/-- A text is what is left of it when it is trimmed, with characters of the kind around it. -/
theorem exists_of_trimWhile (drop : Char → Bool) (text : List Char) : ∃ opens closes,
    text = opens ++ (trimWhile drop text ++ closes) ∧ (∀ c ∈ opens, drop c = true) ∧
      ∀ c ∈ closes, drop c = true := by
  obtain ⟨⟨closes, all, split⟩, _⟩ := dropEndWhile_eq_iff.mp (trimWhile.eq_1 drop text).symm
  refine ⟨text.takeWhile drop, closes, ?_, List.all_eq_true.mp List.all_takeWhile, all⟩
  rw [← split, List.takeWhile_append_dropWhile]

theorem trimWhile_isInfix (drop : Char → Bool) (text : List Char) : trimWhile drop text <:+: text :=
  (List.rdropWhile_prefix drop _).isInfix.trans (List.dropWhile_suffix drop).isInfix

/-- Only characters of the kind are lost at the ends. -/
theorem mem_trimWhile_of_mem {c : Char} (member : c ∈ text) (stays : drop c = false) :
    c ∈ trimWhile drop text := by
  obtain ⟨⟨tail, all, split⟩, _⟩ := dropEndWhile_eq_iff.mp (trimWhile.eq_1 drop text).symm
  rw [← List.takeWhile_append_dropWhile (p := drop) (l := text), split] at member
  rcases List.mem_append.mp member with early | member
  · rw [List.all_eq_true.mp List.all_takeWhile c early] at stays
    cases stays
  · rcases List.mem_append.mp member with here | late
    · exact here
    · rw [all c late] at stays
      cases stays

/-! ## Pieces -/

variable {separates : Char → Bool} {piece rest : List Char}

private theorem splitFrom_append (whole : ∀ c ∈ front, separates c = false) :
    splitFrom separates piece (front ++ rest) =
      splitFrom separates (front.reverse ++ piece) rest := by
  induction front generalizing piece with
  | nil => rfl
  | cons c front inductionHypothesis =>
      obtain ⟨apart, whole⟩ := List.forall_mem_cons.mp whole
      rw [List.cons_append, splitFrom, if_neg (by simp [apart]), inductionHypothesis whole]
      simp

theorem splitOn_of_forall (whole : ∀ c ∈ text, separates c = false) :
    splitOn separates text = [text] := by
  have walked : splitFrom separates [] (text ++ []) = splitFrom separates (text.reverse ++ []) [] :=
    splitFrom_append whole
  rw [List.append_nil] at walked
  simp [splitOn, walked, splitFrom]

theorem splitOn_append_cons {c : Char} (whole : ∀ c ∈ front, separates c = false)
    (ends : separates c = true) :
    splitOn separates (front ++ c :: rest) = front :: splitOn separates rest := by
  rw [splitOn, splitFrom_append whole, splitFrom, if_pos ends]
  simp [splitOn]

private theorem mem_splitFrom (inside : ∀ c ∈ front, c ∈ text ∧ separates c = false)
    (covers : rest ⊆ text) (member : piece ∈ splitFrom separates front rest) :
    ∀ c ∈ piece, c ∈ text ∧ separates c = false := by
  induction rest generalizing front with
  | nil =>
      rw [splitFrom, List.mem_singleton] at member
      subst member
      exact fun c held => inside c (List.mem_reverse.mp held)
  | cons c rest inductionHypothesis =>
      obtain ⟨held, covers⟩ := List.cons_subset.mp covers
      rw [splitFrom] at member
      split at member
      next =>
        rcases List.mem_cons.mp member with rfl | member
        · exact fun c held => inside c (List.mem_reverse.mp held)
        · exact inductionHypothesis (List.forall_mem_nil _) covers member
      next apart =>
        refine inductionHypothesis (List.forall_mem_cons.mpr ⟨⟨held, ?_⟩, inside⟩) covers member
        exact Bool.eq_false_iff.mpr apart

/-- The characters of a piece are characters of the text, and none of them separates. -/
theorem mem_splitOn (member : piece ∈ splitOn separates text) :
    ∀ c ∈ piece, c ∈ text ∧ separates c = false :=
  mem_splitFrom (List.forall_mem_nil _) (List.Subset.refl _) member

/-- A piece stands in the text between separators or the ends. -/
theorem exists_of_mem_splitOn (member : piece ∈ splitOn separates text) : ∃ front back,
    text = front ++ (piece ++ back) ∧ (∀ c ∈ front.getLast?, separates c = true) ∧
      ∀ c ∈ back.head?, separates c = true := by
  induction length : text.length using Nat.strong_induction_on generalizing text with
  | _ size inductionHypothesis =>
      have parts := List.takeWhile_append_dropWhile (p := (!separates ·)) (l := text)
      have first : ∀ c ∈ text.takeWhile (!separates ·), separates c = false := by
        intro c held
        simpa using List.all_eq_true.mp List.all_takeWhile c held
      cases past : text.dropWhile (!separates ·) with
      | nil =>
          rw [past, List.append_nil] at parts
          rw [← parts, splitOn_of_forall first, List.mem_singleton] at member
          exact ⟨[], [], by rw [member, parts, List.append_nil, List.nil_append], nofun, nofun⟩
      | cons c rest =>
          have ends := List.head?_dropWhile_not (!separates ·) text
          rw [past] at parts ends
          simp only [List.head?_cons, Bool.not_eq_false'] at ends
          rw [← parts, splitOn_append_cons first ends] at member
          rcases List.mem_cons.mp member with rfl | later
          · refine ⟨[], c :: rest, by rw [List.nil_append, parts], nofun, ?_⟩
            rintro _ ⟨⟩
            exact ends
          · have short : rest.length < size := by
              rw [← length, ← parts, List.length_append, List.length_cons]
              omega
            obtain ⟨front, back, rfl, opens, closes⟩ :=
              inductionHypothesis rest.length short later rfl
            refine ⟨text.takeWhile (!separates ·) ++ c :: front, back, ?_, ?_, closes⟩
            · rw [List.append_assoc, List.cons_append, parts]
            · rw [List.getLast?_append_of_ne_nil _ (List.cons_ne_nil _ _)]
              cases front with
              | nil =>
                  rintro _ ⟨⟩
                  exact ends
              | cons d front =>
                  rw [List.getLast?_cons_cons]
                  exact opens

/-! ## Line ends -/

/-- Line ends of a text without carriage returns are plain. -/
theorem withPlainLineEnds_of_not_mem (plain : '\r' ∉ text) : withPlainLineEnds text = text := by
  simp [withPlainLineEnds, plain]

/-- Line ends become plain with or without a look ahead for carriage returns. -/
theorem withPlainLineEnds_eq_unify : withPlainLineEnds text = withPlainLineEnds.unify text := by
  by_cases plain : '\r' ∈ text
  · exact if_pos (List.contains_iff_mem.mpr plain)
  · rw [withPlainLineEnds_of_not_mem plain]
    induction text with
    | nil => rfl
    | cons c rest inductionHypothesis =>
        obtain ⟨other, plain⟩ := not_or.mp (mt List.mem_cons.mpr plain)
        rw [withPlainLineEnds.unify, ← inductionHypothesis plain]
        · rintro _ rfl
          exact fun _ => other rfl
        · rintro rfl
          exact other rfl

end Lectern.Text
