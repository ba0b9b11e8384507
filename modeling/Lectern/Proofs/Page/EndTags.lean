/-
Module: Lectern.Proofs.Page.EndTags
Purpose: The end tags in a text. They are counted apart on both sides of a character that no end tag
  is made of, and the text of a script or a style has none, whatever it is made from.
Trusted boundary: none
Main exports: Markup.endTags, Markup.endTags_cut, Markup.not_infix_withoutEndTags,
  Markup.endTags_append_bracket
-/
import Mathlib.Data.List.Infix
import Lectern.Proofs.Page.Rendering

namespace Lectern.Markup

/-- The names of the end tags in a text. Whatever stands behind `</` is an end tag. -/
def endTags : List Char → List String
  | '<' :: '/' :: rest => String.ofList (rest.takeWhile isNameChar) :: endTags rest
  | _ :: rest => endTags rest
  | [] => []

theorem endTags_cons {c : Char} (other : c ≠ '<') (rest : List Char) :
    endTags (c :: rest) = endTags rest := by
  rw [endTags]
  intro _ bracket
  exact absurd bracket other

theorem endTags_bracket {c : Char} (other : c ≠ '/') (rest : List Char) :
    endTags ('<' :: c :: rest) = endTags (c :: rest) := by
  rw [endTags]
  intro _ _ same
  exact other (List.cons.inj same).1

/-- Text in which no tag opens has no end tags. -/
theorem endTags_append_of_not_mem {text : List Char} (closed : '<' ∉ text) (rest : List Char) :
    endTags (text ++ rest) = endTags rest := by
  induction text with
  | nil => rfl
  | cons c text inductionHypothesis =>
      rw [List.mem_cons, not_or] at closed
      rw [List.cons_append, endTags_cons (Ne.symm closed.1), inductionHypothesis closed.2]

/-! ## Cuts -/

/-- Is a character neither in a name nor in what opens an end tag? -/
def isCut (c : Char) : Bool := c != '<' && c != '/' && !isNameChar c

/-- The end tags in front of a cut and those behind it are all there are. -/
theorem endTags_cut {c : Char} (cut : isCut c = true) (text rest : List Char) :
    endTags (text ++ c :: rest) = endTags text ++ endTags rest := by
  simp only [isCut, Bool.and_eq_true, bne_iff_ne, Bool.not_eq_true'] at cut
  obtain ⟨⟨noBracket, noSlash⟩, noName⟩ := cut
  have name (text : List Char) :
      (text ++ c :: rest).takeWhile isNameChar = text.takeWhile isNameChar := by
    induction text with
    | nil => simp [noName]
    | cons first text inductionHypothesis =>
        rw [List.cons_append, List.takeWhile_cons, List.takeWhile_cons, inductionHypothesis]
  induction text using endTags.induct with
  | case1 text inductionHypothesis =>
      simp only [List.cons_append, endTags, name, inductionHypothesis]
  | case2 first text other inductionHypothesis =>
      have skipped : endTags (first :: (text ++ c :: rest)) = endTags (text ++ c :: rest) := by
        rw [endTags]
        intro behind bracket slash
        cases text with
        | nil => exact noSlash (List.cons.inj slash).1
        | cons second text =>
            obtain ⟨rfl, -⟩ := List.cons.inj slash
            exact other text bracket rfl
      rw [List.cons_append, skipped, inductionHypothesis, endTags]
      exact other
  | case3 => rw [List.nil_append, endTags_cons noBracket, endTags, List.nil_append]

/-! ## Text of scripts and styles -/

/-- What the text of a script or a style is made of, behind some character. -/
def parted (last : Char) : List Char → List Char
  | [] => []
  | c :: rest =>
    if last == '<' && c == '/' then '\\' :: '/' :: parted c rest else c :: parted c rest

theorem toList_withoutEndTags (text : String) :
    (withoutEndTags text).toList = parted ' ' text.toList := by
  unfold withoutEndTags
  rw [String.toList_ofList]
  suffices built : ∀ (last : Char) (text written : List Char),
      (text.foldl (fun state c =>
        (if state.2 == '<' && c == '/' then '/' :: '\\' :: state.1 else c :: state.1, c))
        (written, last)).1.reverse = written.reverse ++ parted last text from
      built ' ' text.toList []
  intro last text
  induction text generalizing last with
  | nil => simp [parted]
  | cons c text inductionHypothesis =>
      intro written
      rw [List.foldl_cons, inductionHypothesis, parted]
      split <;> simp

/-- A text in which no bracket has a slash behind it. -/
def Unended (text : List Char) : Prop := ¬ ['<', '/'] <:+: text

theorem unended_cons {c : Char} {text : List Char} :
    Unended (c :: text) ↔ ¬ (c = '<' ∧ ['/'] <+: text) ∧ Unended text := by
  simp [Unended, List.infix_cons_iff, List.cons_prefix_cons, eq_comm]

private theorem unended_parted (last : Char) (text : List Char) :
    Unended (parted last text) ∧ (last = '<' → ¬ ['/'] <+: parted last text) := by
  induction text generalizing last with
  | nil => simp [parted, Unended]
  | cons c text inductionHypothesis =>
      obtain ⟨unended, starts⟩ := inductionHypothesis c
      rw [parted]
      split
      next slash =>
        simp only [Bool.and_eq_true, beq_iff_eq] at slash
        simp [unended_cons, unended]
      next other =>
        constructor
        · exact unended_cons.mpr ⟨fun both => starts both.1 both.2, unended⟩
        · intro bracket slash
          apply other
          simp [bracket, ← (List.cons_prefix_cons.mp slash).1]

/-- The text of a script or a style holds no end tag, whatever it is made from. -/
theorem unended_withoutEndTags (text : String) : Unended (withoutEndTags text).toList := by
  rw [toList_withoutEndTags]
  exact (unended_parted ' ' text.toList).1

/-- The end tag behind such a text is the first one, though the text may end in a bracket. -/
theorem endTags_append_bracket {text : List Char} (unended : Unended text) (rest : List Char) :
    endTags (text ++ '<' :: rest) = endTags ('<' :: rest) := by
  induction text with
  | nil => rfl
  | cons c text inductionHypothesis =>
      obtain ⟨apart, unended⟩ := unended_cons.mp unended
      rw [List.cons_append, ← inductionHypothesis unended]
      by_cases bracket : c = '<'
      · subst bracket
        cases text with
        | nil => exact endTags_bracket (by decide) rest
        | cons second text =>
            apply endTags_bracket
            rintro rfl
            exact apart ⟨rfl, by simp⟩
      · exact endTags_cons bracket _

end Lectern.Markup
