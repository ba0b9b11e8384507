/-
Module: Lectern.Proofs.Module.MarkupText
Purpose: The text between tags is what the rule for it says, but for a single line with blanks and
  tabs alone, which gets one blank too many. Where a reference in it has a number that is too long to
  be read, there is no literal.
Trusted boundary: none
Main exports: MarkupText.ruled, MarkupText.StandsFor, MarkupText.text_literal_ruled
-/
import Lectern.Module.MarkupText
import Lectern.Proofs.Json.ReadBack
import Lectern.Proofs.Text.Trimming

namespace Lectern.Module.MarkupText

open Lectern.Text

/-! ## The rule -/

/-- Is this a blank, and no other white space? -/
def isSpace (c : Char) : Bool := c == ' '

/-- The lines of a text, whichever way they end. -/
def lines (text : List Char) : List (List Char) := splitOn (· == '\n') (withPlainLineEnds text)

/-- A line with its tabs as blanks. -/
def untabbed (line : List Char) : List Char := line.map fun c => if c == '\t' then ' ' else c

/-- The lines behind the first one without the blanks at their ends; what stands at the end of the
last one stays. -/
def trimmedBehind : List (List Char) → List (List Char)
  | [] => []
  | [last] => [last.dropWhile isSpace]
  | line :: next :: rest => trimWhile isSpace line :: trimmedBehind (next :: rest)

/-- Lines without the blanks at their ends, but for those at the outer edges of the text. -/
def trimmed : List (List Char) → List (List Char)
  | [] => []
  | [only] => [only]
  | first :: next :: rest => dropEndWhile isSpace first :: trimmedBehind (next :: rest)

/-- The lines that are not empty, with one blank between them. -/
def spaced (pieces : List (List Char)) : List Char :=
  [' '].intercalate (pieces.filter fun piece => !piece.isEmpty)

/-- What the rule for text between tags makes of a text. -/
def ruled (text : List Char) : List Char := spaced (trimmed ((lines text).map untabbed))

/-- A text on a single line that has nothing to see on it, and is not empty. -/
def IsBlankLine (text : List Char) : Prop := text ≠ [] ∧ ∀ c ∈ text, c = ' ' ∨ c = '\t'

instance (text : List Char) : Decidable (IsBlankLine text) :=
  inferInstanceAs (Decidable (text ≠ [] ∧ ∀ c ∈ text, c = ' ' ∨ c = '\t'))

/-- A literal stands for a text: there is none for the empty one, and any other is between its
quotes, in ASCII, and read back from there. -/
def StandsFor (literal : Option String) (text : List Char) : Prop :=
  match literal with
  | none => text = []
  | some written =>
    text ≠ [] ∧ written = Quoted.ascii text ∧ Json.parse written = .ok (.str (String.ofList text))

/-! ## Lines -/

private theorem unify_other {c : Char} {rest : List Char} (other : c ≠ '\r') :
    withPlainLineEnds.unify (c :: rest) = c :: withPlainLineEnds.unify rest := by
  rw [withPlainLineEnds.unify]
  · rintro _ rfl; exact fun _ => other rfl
  · rintro rfl; exact other rfl

private theorem linesFrom_eq (line text : List Char) :
    linesFrom line text = splitFrom (· == '\n') line (withPlainLineEnds.unify text) := by
  fun_induction linesFrom line text with
  | case1 line => rfl
  | case2 line rest inductionHypothesis =>
      simp [withPlainLineEnds.unify, splitFrom, inductionHypothesis]
  | case3 line c rest apart ends inductionHypothesis =>
      have ends : c = '\n' ∨ c = '\r' := by simpa using ends
      have unified : withPlainLineEnds.unify (c :: rest) = '\n' :: withPlainLineEnds.unify rest := by
        rcases ends with rfl | rfl
        · exact unify_other (by decide)
        · rw [withPlainLineEnds.unify]
          rintro behind rfl
          exact apart behind rfl rfl
      simp [unified, splitFrom, inductionHypothesis]
  | case4 line c rest _ stays inductionHypothesis =>
      have stays : c ≠ '\n' ∧ c ≠ '\r' := by simpa using stays
      simp [unify_other stays.2, splitFrom, stays.1, inductionHypothesis]

/-- The lines that are walked through are those of the text. -/
private theorem linesFrom_nil (text : List Char) : linesFrom [] text = lines text := by
  rw [linesFrom_eq, lines, withPlainLineEnds_eq_unify, splitOn]

private theorem linesFrom_ne_nil (line text : List Char) : linesFrom line text ≠ [] := by
  fun_induction linesFrom line text with
  | case1 => exact List.cons_ne_nil _ _
  | case2 => exact List.cons_ne_nil _ _
  | case3 => exact List.cons_ne_nil _ _
  | case4 _ _ _ _ _ inductionHypothesis => exact inductionHypothesis

/-- What is on the only line of a text is the text. -/
private theorem linesFrom_single {line text only : List Char}
    (single : linesFrom line text = [only]) : only = line.reverse ++ text := by
  fun_induction linesFrom line text with
  | case1 line => simpa using single.symm
  | case2 line rest => exact absurd (List.cons.inj single).2 (linesFrom_ne_nil [] rest)
  | case3 line c rest => exact absurd (List.cons.inj single).2 (linesFrom_ne_nil [] rest)
  | case4 line c rest _ _ inductionHypothesis => simpa using inductionHypothesis single

/-! ## Trimmed lines -/

section Trimming

variable {count index : Nat} {line : List Char}

private theorem trimLine_first (more : 1 ≠ count) :
    trimLine count 0 line = dropEndWhile isSpace (untabbed line) :=
  if_pos (bne_iff_ne.mpr more)

private theorem trimLine_inner (inner : index + 2 ≠ count) :
    trimLine count (index + 1) line = trimWhile isSpace (untabbed line) :=
  if_pos (bne_iff_ne.mpr inner)

private theorem trimLine_last (last : index + 2 = count) :
    trimLine count (index + 1) line = (untabbed line).dropWhile isSpace :=
  if_neg (by simp [last])

private theorem mapIdx_trimLine_behind {rest : List (List Char)}
    (counts : index + 1 + rest.length = count) :
    rest.mapIdx (fun i => trimLine count (i + (index + 1))) = trimmedBehind (rest.map untabbed) := by
  induction rest generalizing index with
  | nil => rfl
  | cons line rest inductionHypothesis =>
      rw [List.length_cons] at counts
      have shifted (i : Nat) : i + 1 + (index + 1) = i + (index + 1 + 1) := by omega
      rw [List.mapIdx_cons, Nat.zero_add]
      simp only [shifted]
      rw [inductionHypothesis (by omega)]
      cases rest with
      | nil => rw [trimLine_last (by simpa using counts)]; rfl
      | cons next rest =>
          rw [List.length_cons] at counts
          rw [trimLine_inner (by omega)]
          rfl

/-- The lines as they are trimmed one by one. -/
private theorem mapIdx_trimLine : ∀ all : List (List Char),
    all.mapIdx (trimLine all.length) = trimmed (all.map untabbed)
  | [] => rfl
  | [_] => rfl
  | first :: next :: rest => by
      rw [List.mapIdx_cons, trimLine_first (by simp)]
      exact congrArg _ (mapIdx_trimLine_behind (by simp; omega))

private theorem untabbed_blank_iff :
    (∀ c ∈ untabbed line, isSpace c = true) ↔ isVisible line = false := by
  simp only [untabbed, List.forall_mem_map, isVisible, List.any_eq_false, isSpace]
  refine forall₂_congr fun c _ => ?_
  by_cases tab : c = '\t' <;> simp [tab]

private theorem untabbed_eq_nil_iff : untabbed line = [] ↔ line = [] := List.map_eq_nil_iff

/-- Nothing is left of a line exactly if there was nothing to see on it; on a single line the blanks
stay, so it must be empty then. -/
private theorem trimLine_eq_nil_iff (seen : count = 1 → isVisible line = true ∨ line = []) :
    trimLine count index line = [] ↔ isVisible line = false := by
  rw [← untabbed_blank_iff]
  cases index with
  | zero =>
      by_cases only : count = 1
      · subst only
        rcases seen rfl with visible | rfl
        · refine iff_of_false (fun empty => ?_) fun blank => ?_
          · rw [untabbed_eq_nil_iff.mp empty] at visible
            cases visible
          · rw [untabbed_blank_iff.mp blank] at visible
            cases visible
        · exact iff_of_true rfl (List.forall_mem_nil _)
      · rw [trimLine_first (Ne.symm only)]
        exact List.rdropWhile_eq_nil_iff
  | succ index =>
      by_cases last : index + 2 = count
      · rw [trimLine_last last]
        exact List.dropWhile_eq_nil_iff
      · rw [trimLine_inner last]
        exact trimWhile_eq_nil_iff

end Trimming

/-! ## Lines as one -/

/-- What is made of each element and its index. -/
private theorem flatMap_zip_range {α β : Type} (part : Nat → α → List β) (all : List α) :
    ((List.range all.length).zip all).flatMap (fun (index, element) => part index element) =
      (all.mapIdx part).flatten := by
  induction all using List.reverseRecOn with
  | nil => rfl
  | append_singleton all element inductionHypothesis =>
      rw [List.length_append, List.length_singleton, List.range_succ,
        List.zip_append List.length_range, List.flatMap_append, inductionHypothesis]
      simp

private theorem lastVisible_concat (all : List (List Char)) (line : List Char) :
    lastVisible (all ++ [line]) =
      if isVisible line then some all.length else lastVisible all := by
  unfold lastVisible
  rw [List.length_append, List.length_singleton, List.range_succ,
    List.zip_append List.length_range, List.foldl_append]
  rfl

/-- Either there is nothing to see on any line, or there is a last line with something to see. -/
private theorem lastVisible_cases (all : List (List Char)) :
    ((∀ line ∈ all, isVisible line = false) ∧ lastVisible all = none) ∨
      ∃ front last back, all = front ++ last :: back ∧ isVisible last = true ∧
        (∀ line ∈ back, isVisible line = false) ∧ lastVisible all = some front.length := by
  induction all using List.reverseRecOn with
  | nil => exact .inl ⟨List.forall_mem_nil _, rfl⟩
  | append_singleton all line inductionHypothesis =>
      rw [lastVisible_concat]
      by_cases visible : isVisible line = true
      · exact .inr ⟨all, line, [], rfl, visible, List.forall_mem_nil _, if_pos visible⟩
      · rw [if_neg visible]
        rcases inductionHypothesis with ⟨none, found⟩ | ⟨front, last, back, rfl, sees, none, found⟩
        · refine .inl ⟨fun other member => ?_, found⟩
          rcases List.mem_append.mp member with member | member
          · exact none other member
          · rw [List.mem_singleton.mp member]
            exact Bool.eq_false_iff.mpr visible
        · refine .inr ⟨front, last, back ++ [line], by simp, sees, fun other member => ?_, found⟩
          rcases List.mem_append.mp member with member | member
          · exact none other member
          · rw [List.mem_singleton.mp member]
            exact Bool.eq_false_iff.mpr visible

/-- A piece that is not empty, with a blank behind it. -/
private def withBlank (piece : List Char) : List Char :=
  if piece.isEmpty then [] else piece ++ [' ']

private theorem spaced_of_forall {pieces : List (List Char)} (none : ∀ piece ∈ pieces, piece = []) :
    spaced pieces = [] := by
  have dropped : (pieces.filter fun piece => !piece.isEmpty) = [] :=
    List.filter_eq_nil_iff.mpr fun piece member => by simp [none piece member]
  rw [spaced, dropped]
  rfl

/-- Up to the last piece that is not empty, a blank stands behind each of them. -/
private theorem spaced_split {front back : List (List Char)} {last : List Char}
    (filled : last ≠ []) (none : ∀ piece ∈ back, piece = []) :
    spaced (front ++ last :: back) = front.flatMap withBlank ++ last := by
  have kept (front : List (List Char)) :
      ((front ++ last :: back).filter fun piece => !piece.isEmpty) =
        (front.filter fun piece => !piece.isEmpty) ++ [last] := by
    have dropped : (back.filter fun piece => !piece.isEmpty) = [] :=
      List.filter_eq_nil_iff.mpr fun piece member => by simp [none piece member]
    simp [filled, dropped]
  rw [spaced, kept]
  induction front with
  | nil => simp
  | cons piece front inductionHypothesis =>
      by_cases empty : piece = []
      · simpa [empty, withBlank] using inductionHypothesis
      · have behind : (front.filter fun piece => !piece.isEmpty) ++ [last] ≠ [] := by simp
        obtain ⟨next, rest, spelled⟩ := List.exists_cons_of_ne_nil behind
        rw [List.filter_cons_of_pos (by simp [empty]), List.cons_append, spelled,
          List.intercalate_cons_cons, ← spelled, inductionHypothesis]
        simp [withBlank, empty]

/-- What the lines add up to, as long as a single one is not blank. -/
private theorem joinLines_eq {all : List (List Char)}
    (seen : ∀ line ∈ all, all.length = 1 → isVisible line = true ∨ line = []) :
    joinLines all = spaced (trimmed (all.map untabbed)) := by
  have joined : joinLines all =
      (all.mapIdx fun index line =>
        lineText (lastVisible all) index (trimLine all.length index line)).flatten :=
    flatMap_zip_range (fun index line =>
      lineText (lastVisible all) index (trimLine all.length index line)) all
  have emptied {index : Nat} {line : List Char} (member : line ∈ all) :
      trimLine all.length index line = [] ↔ isVisible line = false :=
    trimLine_eq_nil_iff (seen line member)
  rw [joined, ← mapIdx_trimLine]
  rcases lastVisible_cases all with ⟨none, found⟩ | ⟨front, last, back, split, sees, none, found⟩
  · have nothing : ∀ piece ∈ all.mapIdx (trimLine all.length), piece = [] := by
      intro piece member
      obtain ⟨index, bound, rfl⟩ := List.mem_mapIdx.mp member
      exact (emptied (List.getElem_mem bound)).mpr (none _ (List.getElem_mem bound))
    rw [spaced_of_forall nothing, List.flatten_eq_nil_iff]
    intro piece member
    obtain ⟨index, bound, rfl⟩ := List.mem_mapIdx.mp member
    rw [(emptied (List.getElem_mem bound)).mpr (none _ (List.getElem_mem bound))]
    rfl
  · rw [found]
    generalize all.length = count at *
    subst split
    -- the pieces in front have a blank behind them, the last one has none, those behind are empty
    have front_text : front.mapIdx (fun index line =>
          lineText (some front.length) index (trimLine count index line)) =
        (front.mapIdx (trimLine count)).map withBlank := by
      refine List.ext_getElem (by simp) fun index bound _ => ?_
      have other : (some index == some front.length) = false := by
        simpa using (List.length_mapIdx ▸ bound : index < front.length).ne
      rw [List.getElem_map, List.getElem_mapIdx, List.getElem_mapIdx, lineText, other]
      rfl
    have last_filled : trimLine count front.length last ≠ [] := by
      rw [Ne, emptied (by simp), sees]
      exact Bool.noConfusion
    have back_empty : ∀ piece ∈ back.mapIdx (fun index => trimLine count (index + 1 + front.length)),
        piece = [] := by
      intro piece member
      obtain ⟨index, bound, rfl⟩ := List.mem_mapIdx.mp member
      exact (emptied (by simp)).mpr (none _ (List.getElem_mem bound))
    have back_text : (back.mapIdx fun index line =>
        lineText (some front.length) (index + 1 + front.length)
          (trimLine count (index + 1 + front.length) line)).flatten = [] := by
      rw [List.flatten_eq_nil_iff]
      intro piece member
      obtain ⟨index, bound, rfl⟩ := List.mem_mapIdx.mp member
      rw [(emptied (by simp)).mpr (none _ (List.getElem_mem bound))]
      rfl
    simp only [List.mapIdx_append, List.mapIdx_cons, Nat.zero_add]
    rw [spaced_split last_filled back_empty, List.flatten_append, List.flatten_cons, front_text,
      back_text, List.flatMap_def, lineText, if_neg (by simpa using last_filled)]
    simp

/-! ## The literal -/

/-- The literal of a text whose references can be replaced. -/
private theorem literal?_of_short {raw : List Char} (short : References.overlong? raw = none) :
    literal? raw = .ok (if (collapse (References.decode raw)).isEmpty then none
      else some (Quoted.ascii (collapse (References.decode raw)))) := by
  rw [literal?, References.unescape_eq, short]
  rfl

/-- The literal stands for what the lines add up to. -/
private theorem stands_collapse (text : List Char) :
    StandsFor (if (collapse text).isEmpty then none else some (Quoted.ascii (collapse text)))
      (collapse text) := by
  split
  next empty => exact List.isEmpty_iff.mp empty
  next filled => exact ⟨by simpa using filled, rfl, Json.parse_ascii _⟩

/-- A literal stands for one text alone. -/
private theorem StandsFor.unique {literal : Option String} {text other : List Char}
    (stands : StandsFor literal text) (also : StandsFor literal other) : text = other := by
  cases literal with
  | none => exact stands.trans also.symm
  | some written =>
      obtain ⟨-, -, read⟩ := stands
      obtain ⟨-, -, reread⟩ := also
      exact String.ofList_injective (Json.str.inj (Except.ok.inj (read.symm.trans reread)))

/-- The rule leaves a single line as long as it is. -/
private theorem ruled_of_single {text : List Char} (single : lines text = [text]) :
    ruled text = untabbed text := by
  rw [ruled, single]
  by_cases empty : untabbed text = []
  · simp [trimmed, spaced, empty]
  · simp [trimmed, spaced, empty]

private theorem length_untabbed (line : List Char) : (untabbed line).length = line.length :=
  List.length_map _

private theorem joinLines_blank {text : List Char} (blank : IsBlankLine text) :
    joinLines [text] = untabbed text ++ [' '] := by
  obtain ⟨filled, blank⟩ := blank
  have unseen : isVisible text = false := by
    simpa [isVisible, or_iff_not_imp_left] using blank
  have found : lastVisible [text] = none :=
    (lastVisible_concat [] text).trans (if_neg (by simp [unseen]))
  have written : lineText none 0 (untabbed text) = untabbed text ++ [' '] :=
    if_neg (by simpa [untabbed_eq_nil_iff] using filled)
  rw [joinLines, found]
  simpa [trimLine, untabbed] using written

/-- A text without line ends is on a single line. -/
private theorem lines_of_single {text : List Char} (single : ∀ c ∈ text, c ≠ '\n' ∧ c ≠ '\r') :
    lines text = [text] := by
  rw [lines, withPlainLineEnds_of_not_mem fun member => (single _ member).2 rfl]
  exact splitOn_of_forall fun c member => by simpa using (single c member).1

private theorem IsBlankLine.lines {text : List Char} (blank : IsBlankLine text) :
    lines text = [text] := by
  refine lines_of_single fun c member => ?_
  rcases blank.2 c member with rfl | rfl <;> decide

private theorem collapse_of_blank {text : List Char} (blank : IsBlankLine text) :
    collapse text = ruled text ++ [' '] := by
  rw [collapse, linesFrom_nil, blank.lines, joinLines_blank blank, ruled_of_single blank.lines]

private theorem collapse_of_not_blank {text : List Char} (seen : ¬ IsBlankLine text) :
    collapse text = ruled text := by
  rw [collapse, linesFrom_nil]
  refine joinLines_eq fun line member single => ?_
  obtain ⟨only, spelled⟩ := List.length_eq_one_iff.mp single
  rw [spelled, List.mem_singleton] at member
  subst member
  -- the only line is all of the text, which has something to see on it or is empty
  have whole : line = text := linesFrom_single ((linesFrom_nil _).trans spelled)
  rw [← whole] at seen
  by_contra neither
  obtain ⟨unseen, filled⟩ := not_or.mp neither
  refine seen ⟨filled, fun c held => ?_⟩
  have blank : isVisible line = false := Bool.eq_false_iff.mpr unseen
  simpa [or_iff_not_imp_left] using (List.any_eq_false.mp blank) c held

/-- Text between tags whose references can be replaced gives the literal that the rule for it asks for,
unless all there is to it is a line with blanks and tabs alone, which gets one blank more; so a text on
one line keeps its length but for that. Any other text fails with the first number in its references
that is too long to be read. -/
theorem text_literal_ruled (raw : List Char) :
    match References.overlong? raw with
    | some overlong => literal? raw = .error overlong
    | none => ∃ literal, literal? raw = .ok literal ∧
      (StandsFor literal (ruled (References.decode raw)) ↔ ¬ IsBlankLine (References.decode raw)) ∧
      (IsBlankLine (References.decode raw) →
        StandsFor literal (ruled (References.decode raw) ++ [' '])) ∧
      ((∀ c ∈ References.decode raw, c ≠ '\n' ∧ c ≠ '\r') →
        (collapse (References.decode raw)).length = (References.decode raw).length +
          if IsBlankLine (References.decode raw) then 1 else 0) := by
  split
  next overlong long =>
    rw [literal?, References.unescape_eq, long]
    rfl
  next short =>
    refine ⟨_, literal?_of_short short, ?_⟩
    have stands := stands_collapse (References.decode raw)
    refine ⟨⟨fun asked blank => ?_, fun seen => ?_⟩, fun blank => ?_, fun single => ?_⟩
    · have same := stands.unique asked
      rw [collapse_of_blank blank] at same
      simp at same
    · rwa [collapse_of_not_blank seen] at stands ⊢
    · rwa [collapse_of_blank blank] at stands ⊢
    · have kept : (ruled (References.decode raw)).length = (References.decode raw).length := by
        rw [ruled_of_single (lines_of_single single), length_untabbed]
      split
      next blank => rw [collapse_of_blank blank, List.length_append, kept, List.length_singleton]
      next seen => rw [collapse_of_not_blank seen, kept, Nat.add_zero]

theorem blank_line_lengthened :
    ¬ ∀ (raw : List Char) (literal : Option String), literal? raw = .ok literal →
      StandsFor literal (ruled (References.decode raw)) := by
  intro all
  have made : literal? [' '] = .ok (some "\x22  \x22") := by decide
  have stands := all [' '] _ made
  have same : ruled (References.decode [' ']) = [' '] := by decide
  rw [same] at stands
  have written : "\x22  \x22" = Quoted.ascii [' '] := stands.2.1
  revert written
  decide

end Lectern.Module.MarkupText
