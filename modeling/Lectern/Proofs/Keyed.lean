/-
Module: Lectern.Proofs.Keyed
Purpose: Lists of items with keys, into which an item is put in place of those with its key, or at
  the end where there is none.
Trusted boundary: none
Main exports: Keyed.find?_put, Keyed.find?_replaced, Keyed.find?_of_mem, Keyed.nodup_put
-/

namespace Lectern.Keyed

variable {α κ : Type} [BEq κ] [LawfulBEq κ]

/-- An item that takes the place of those with its key is found by it if there was one. -/
theorem find?_replaced [DecidableEq κ] (key : α → κ) (item : α) (items : List α)
    (asked : κ) :
    (items.map fun kept => if key kept == key item then item else kept).find? (key · == asked) =
      if asked = key item then if items.any (key · == key item) then some item else none
      else items.find? (key · == asked) := by
  induction items with
  | nil => simp
  | cons first rest inductionHypothesis =>
      rw [List.map_cons, List.find?_cons, List.find?_cons, inductionHypothesis]
      by_cases here : key first = key item
      · by_cases same : asked = key item
        · simp [here, same]
        · have apart : (key item == asked) = false := by simpa using Ne.symm same
          simp [here, same, apart]
      · have apart : (key first == key item) = false := by simpa using here
        by_cases same : asked = key item
        · subst asked
          simp only [apart, Bool.false_eq_true, if_false, if_true, List.any_cons, Bool.false_or]
        · simp only [apart, same, Bool.false_eq_true, if_false]

/-- An item that was put is found by its key, and all others are found as before. -/
theorem find?_put [DecidableEq κ] (key : α → κ) (item : α) (items : List α) (asked : κ) :
    (if items.any (key · == key item) then
      items.map fun kept => if key kept == key item then item else kept
      else items ++ [item]).find? (key · == asked) =
      if asked = key item then some item else items.find? (key · == asked) := by
  by_cases kept : items.any (key · == key item) = true
  · rw [if_pos kept, find?_replaced, if_pos kept]
  · rw [if_neg kept, List.find?_append]
    rw [Bool.not_eq_true] at kept
    have absent : items.find? (key · == key item) = none := by
      rw [List.find?_eq_none]
      intro other member same
      exact (List.any_eq_false.mp kept) other member same
    by_cases same : asked = key item
    · subst asked
      simp [absent]
    · simp [same, Ne.symm same]

/-- An item is found by its key, if no other one has it. -/
theorem find?_of_mem (key : α → κ) {items : List α} (distinct : (items.map key).Nodup) {item : α}
    (member : item ∈ items) : items.find? (key · == key item) = some item := by
  induction items with
  | nil => cases member
  | cons first rest inductionHypothesis =>
      rw [List.map_cons, List.nodup_cons] at distinct
      rcases List.mem_cons.mp member with rfl | inside
      · rw [List.find?_cons, beq_self_eq_true]
      · have apart : (key first == key item) = false := by
          rw [beq_eq_false_iff_ne]
          intro same
          exact distinct.1 (List.mem_map.mpr ⟨item, inside, same.symm⟩)
        rw [List.find?_cons, apart]
        exact inductionHypothesis distinct.2 inside

/-- The keys are what they were behind a replacement. -/
theorem map_replaced (key : α → κ) (item : α) (items : List α) :
    (items.map fun kept => if key kept == key item then item else kept).map key =
      items.map key := by
  rw [List.map_map]
  apply List.map_congr_left
  intro other _
  by_cases here : key other = key item
  · simp [here]
  · simp [here]

/-- Distinct keys stay distinct. -/
theorem nodup_put (key : α → κ) (item : α) (items : List α) (distinct : (items.map key).Nodup) :
    ((if items.any (key · == key item) then
      items.map fun kept => if key kept == key item then item else kept
      else items ++ [item]).map key).Nodup := by
  by_cases kept : items.any (key · == key item) = true
  · rw [if_pos kept, map_replaced]
    exact distinct
  · rw [if_neg kept, List.map_append, List.nodup_append]
    refine ⟨distinct, by simp, ?_⟩
    intro first member last here same
    rw [List.map_singleton, List.mem_singleton] at here
    obtain ⟨other, inside, rfl⟩ := List.mem_map.mp member
    refine kept (List.any_eq_true.mpr ⟨other, inside, ?_⟩)
    rw [same, here]
    exact beq_self_eq_true _

end Lectern.Keyed
