/-
Module: Lectern.Proofs.Text.Identifiers
Purpose: Identifiers tell numbers with 128 bits apart.
Trusted boundary: none
Main exports: Text.Quoted.mod_of_hexDigits, Identifier.digits_injective,
  Identifier.grouped_injective
-/
import Mathlib.Algebra.Order.Group.Nat
import Lectern.Text.Identifier

namespace Lectern

namespace Text.Quoted

/-- Each of the sixteen digits is another character, and none is the separator of groups. -/
theorem hexDigit_injective {left right : Nat} (leftSmall : left < 16) (rightSmall : right < 16)
    (same : hexDigit left = hexDigit right) : left = right := by
  have general : ∀ left < 16, ∀ right < 16, hexDigit left = hexDigit right → left = right := by
    decide +kernel
  exact general left leftSmall right rightSmall same

theorem hexDigit_ne_hyphen {value : Nat} (small : value < 16) : hexDigit value ≠ '-' := by
  have general : ∀ value < 16, hexDigit value ≠ '-' := by decide +kernel
  exact general value small

/-- The first digit, then the others. -/
theorem hexDigits_succ (count code : Nat) :
    hexDigits (count + 1) code = hexDigit (code / 16 ^ count % 16) :: hexDigits count code := by
  unfold hexDigits
  rw [List.range_succ, List.reverse_append, List.reverse_singleton, List.singleton_append,
    List.map_cons]
  rfl

theorem length_hexDigits (count code : Nat) : (hexDigits count code).length = count := by
  simp [hexDigits]

/-- The last digits of two codes are the same only if these agree up to the place of the digits. -/
theorem mod_of_hexDigits {count left right : Nat}
    (same : hexDigits count left = hexDigits count right) :
    left % 16 ^ count = right % 16 ^ count := by
  induction count with
  | zero => rw [pow_zero, Nat.mod_one, Nat.mod_one]
  | succ count inductionHypothesis =>
      rw [hexDigits_succ, hexDigits_succ, List.cons.injEq] at same
      have first : left / 16 ^ count % 16 = right / 16 ^ count % 16 :=
        hexDigit_injective (Nat.mod_lt _ (by decide)) (Nat.mod_lt _ (by decide)) same.1
      rw [Nat.mod_pow_succ, Nat.mod_pow_succ, first, inductionHypothesis same.2]

theorem hyphen_notMem_hexDigits (count code : Nat) : '-' ∉ hexDigits count code := by
  intro listed
  obtain ⟨place, -, same⟩ := List.mem_map.mp listed
  exact hexDigit_ne_hyphen (Nat.mod_lt _ (by decide)) same

end Text.Quoted

namespace Identifier

/-- Different numbers with 128 bits have different digits. -/
theorem digits_injective {left right : Nat} (leftSmall : left < 2 ^ 128)
    (rightSmall : right < 2 ^ 128) (same : digits left = digits right) : left = right := by
  have agree := Text.Quoted.mod_of_hexDigits same
  rw [show 16 ^ 32 = 2 ^ 128 by decide, Nat.mod_eq_of_lt leftSmall,
    Nat.mod_eq_of_lt rightSmall] at agree
  exact agree

/-- Parts that are joined by a separator they do not have follow each other once it is taken out. -/
private theorem filter_intercalate (parts : List String) (bare : ∀ part ∈ parts, '-' ∉ part.toList) :
    ("-".intercalate parts).toList.filter (· != '-') = parts.flatMap String.toList := by
  have kept (part : String) (none : '-' ∉ part.toList) :
      part.toList.filter (· != '-') = part.toList := by
    rw [List.filter_eq_self]
    intro digit listed
    rw [bne_iff_ne]
    rintro rfl
    exact none listed
  induction parts with
  | nil => rfl
  | cons part rest inductionHypothesis =>
      have here := kept part (bare part List.mem_cons_self)
      have later := inductionHypothesis fun other listed => bare other (List.mem_cons_of_mem _ listed)
      cases rest with
      | nil =>
          rw [String.intercalate_singleton, here]
          simp
      | cons next others =>
          have none : "-".toList.filter (· != '-') = [] := by decide
          rw [String.intercalate_cons_cons, String.toList_append, String.toList_append,
            List.filter_append, List.filter_append, here, later, none, List.append_nil]
          exact List.flatMap_cons.symm

/-- What is left of the groups without their separators is the digits. -/
theorem filter_grouped (number : Nat) :
    (grouped number).toList.filter (· != '-') = digits number := by
  have length : (digits number).length = 32 := Text.Quoted.length_hexDigits 32 number
  have none : '-' ∉ digits number := Text.Quoted.hyphen_notMem_hexDigits 32 number
  unfold grouped
  generalize digits number = all at length none
  have split (start count : Nat) :
      (all.drop start).take count ++ all.drop (start + count) = all.drop start := by
    rw [← List.drop_drop, List.take_append_drop]
  have last : (all.drop 20).take 12 = all.drop 20 := List.take_of_length_le (by simp [length])
  dsimp only
  rw [filter_intercalate]
  · simp only [List.flatMap_cons, List.flatMap_nil, String.toList_ofList, List.append_nil, last]
    rw [split 16 4, split 12 4, split 8 4, split 0 8, List.drop_zero]
  · intro part listed
    have group : ∃ start count, part = String.ofList ((all.drop start).take count) := by
      simp only [List.mem_cons, List.not_mem_nil, or_false] at listed
      rcases listed with same | same | same | same | same <;> exact ⟨_, _, same⟩
    obtain ⟨start, count, rfl⟩ := group
    rw [String.toList_ofList]
    exact fun inside => none (List.mem_of_mem_drop (List.mem_of_mem_take inside))

/-- Different numbers with 128 bits have different identifiers in groups. -/
theorem grouped_injective {left right : Nat} (leftSmall : left < 2 ^ 128)
    (rightSmall : right < 2 ^ 128) (same : grouped left = grouped right) : left = right := by
  apply digits_injective leftSmall rightSmall
  rw [← filter_grouped, ← filter_grouped, same]

end Identifier

end Lectern
