/-
Module: Lectern.Proofs.Generation.Backoff
Purpose: The delays between attempts: as long as there is one, it grows with the attempts that failed
  up to the maximum and stays there, if the budgets are numbers at all.
Trusted boundary: none
Main exports: Budgets.Numeric, Budgets.delays_grow_iff
-/
import Lectern.Proofs.Lesson.ReadBack
import Lectern.Proofs.Number.Units
import Lectern.Settings.Basic

namespace Lectern

open Number

/-! ## Doubling an amount -/

namespace Number

theorem le_doubled (size : ℕ∞) (times : Nat) : size * 2 ^ times ≤ doubled size times := by
  rw [doubled]
  split
  next => exact le_rfl
  next => exact le_top

theorem doubled_mono (size : ℕ∞) {fewer more : Nat} (le : fewer ≤ more) :
    doubled size fewer ≤ doubled size more := by
  have grown : size * 2 ^ fewer ≤ size * 2 ^ more := by
    gcongr
    exact one_le_two
  rw [doubled, doubled]
  split
  next below =>
    split
    next => exact grown
    next => exact le_top
  next beyond => rw [if_neg fun below => beyond (grown.trans_lt below)]

end Number

/-! ## Budgets that are read -/

namespace Budgets

/-- The delays are made of numbers. -/
def Numeric (budgets : Budgets) : Prop :=
  budgets.backoffBaseSeconds.isNaN = false ∧ budgets.backoffMaxSeconds.isNaN = false

instance (budgets : Budgets) : Decidable budgets.Numeric := by
  unfold Numeric
  infer_instance

private theorem not_below_of_read {fallback value : Float} {names : List String}
    {members : Schema.Members} (usual : ¬ fallback < Float.ofInt 0)
    (given : Schema.optional names (Schema.numberAtLeast 0 Schema.number) fallback members =
      .valid value) : ¬ value < Float.ofInt 0 := by
  rcases Schema.optional_eq_valid given with rfl | ⟨data, given⟩
  · exact usual
  · obtain ⟨number, -, checked⟩ := Schema.Checked.andThen_eq_valid.mp given
    split at checked
    next => cases checked
    next enough =>
      cases checked
      exact enough

/-- What is read as a delay is an amount, where it is a number. -/
theorem amounts_of_read {data : Json} {budgets : Budgets}
    (valid : Budgets.read data = .valid budgets) (numeric : budgets.Numeric) :
    IsAmount budgets.backoffBaseSeconds ∧ IsAmount budgets.backoffMaxSeconds := by
  obtain ⟨members, valid⟩ := Schema.record_eq_valid valid
  simp only [Schema.Checked.seq_eq_valid, Schema.Checked.map_eq_valid] at valid
  obtain ⟨_, most, ⟨_, base, ⟨_, _, ⟨_, _, ⟨_, _, rfl⟩, _, rfl⟩, _, rfl⟩, baseGiven, rfl⟩, mostGiven,
    rfl⟩ := valid
  have usualBase : ¬ (2.0 : Float) < Float.ofInt 0 := by decide +kernel
  have usualMost : ¬ (10.0 : Float) < Float.ofInt 0 := by decide +kernel
  exact ⟨(isAmount_iff _).mpr ⟨not_below_of_read usualBase baseGiven, numeric.1⟩,
    (isAmount_iff _).mpr ⟨not_below_of_read usualMost mostGiven, numeric.2⟩⟩

/-! ## Delays -/

/-- The base, doubled with each attempt that failed behind the first. -/
noncomputable def grown (budgets : Budgets) (failed : Int) : ℕ∞ :=
  doubled (size budgets.backoffBaseSeconds) (failed - 1).toNat

section Delay

variable {budgets : Budgets} {failed : Int} {delay : Float}

theorem backoffDelay?_isSome_iff : (budgets.backoffDelay? failed).isSome ↔ failed ≤ 1024 := by
  unfold backoffDelay?
  split
  next far => exact iff_of_false (by simp) (by omega)
  next near => exact iff_of_true rfl (by omega)

/-- The delay is the smaller one of two. -/
private theorem delay_cases (answer : budgets.backoffDelay? failed = some delay) (first : 1 ≤ failed) :
    ∃ times < 1024, (failed - 1).toNat = times ∧
      ((budgets.backoffMaxSeconds < budgets.backoffBaseSeconds * twoToThe times ∧
          delay = budgets.backoffMaxSeconds) ∨
        (¬ budgets.backoffMaxSeconds < budgets.backoffBaseSeconds * twoToThe times ∧
          delay = budgets.backoffBaseSeconds * twoToThe times)) := by
  obtain ⟨times, rfl⟩ : ∃ times : Nat, failed = times + 1 := ⟨(failed - 1).toNat, by omega⟩
  unfold backoffDelay? at answer
  split at answer
  next => cases answer
  next near =>
    refine ⟨times, by omega, by omega, ?_⟩
    rw [Int.add_sub_cancel] at answer
    cases answer
    split
    next less => exact .inl ⟨less, rfl⟩
    next enough => exact .inr ⟨enough, rfl⟩

section Numbers

variable (base : IsAmount budgets.backoffBaseSeconds) (most : IsAmount budgets.backoffMaxSeconds)
  (answer : budgets.backoffDelay? failed = some delay) (first : 1 ≤ failed)
include base most answer first

/-- A delay is the base as it has grown, up to the maximum. -/
private theorem isAmount_delay :
    IsAmount delay ∧ size delay = min (budgets.grown failed) (size budgets.backoffMaxSeconds) := by
  obtain ⟨times, few, rfl, delays⟩ := delay_cases answer first
  have exact := size_mul_twoToThe _ few base
  have product := (isAmount_mul_twoToThe _ few).mpr base
  rw [lt_iff_size_lt most product, exact] at delays
  rcases delays with ⟨less, rfl⟩ | ⟨enough, rfl⟩
  · exact ⟨most, (min_eq_right less.le).symm⟩
  · exact ⟨product, exact.trans (min_eq_left (not_lt.mp enough)).symm⟩

/-- A base that has grown past the maximum is cut off there. -/
private theorem delay_eq_most
    (past : size budgets.backoffMaxSeconds < budgets.grown failed) :
    delay = budgets.backoffMaxSeconds := by
  obtain ⟨times, few, rfl, ⟨-, rfl⟩ | ⟨enough, rfl⟩⟩ := delay_cases answer first
  · rfl
  · refine absurd ?_ enough
    rw [lt_iff_size_lt most ((isAmount_mul_twoToThe _ few).mpr base),
      size_mul_twoToThe _ few base]
    exact past

end Numbers

/-- The check lets budgets through that are no numbers; a delay made of one is at most nothing. -/
private theorem numeric_of_le (answer : budgets.backoffDelay? failed = some delay)
    (first : 1 ≤ failed) (le : delay ≤ budgets.backoffMaxSeconds) : budgets.Numeric := by
  by_contra unsound
  rw [Numeric, not_and_or, Bool.not_eq_false, Bool.not_eq_false] at unsound
  rcases unsound with nothing | nothing
  · obtain ⟨times, -, -, ⟨less, -⟩ | ⟨-, rfl⟩⟩ := delay_cases answer first
    · exact not_lt_of_isNaN (.inr (isNaN_mul nothing)) less
    · exact not_le_of_isNaN (.inl (isNaN_mul nothing)) le
  · exact not_le_of_isNaN (.inr nothing) le

theorem grown_mono {later : Int} (le : failed ≤ later) :
    budgets.grown failed ≤ budgets.grown later :=
  doubled_mono _ (by omega)

end Delay

/-- What there is of delays for budgets that have been read. Behind the first 1024 failed attempts
there is one, and behind more there is none. It is at most the maximum exactly if the budgets are
numbers. Then it is the base, doubled with each attempt, up to the maximum: it never becomes smaller,
and from where the doubled base is past the maximum on it is the maximum. -/
theorem delays_grow_iff {data : Json} {budgets : Budgets}
    (valid : Budgets.read data = .valid budgets) :
    (∀ failed ≥ 1, (∃ delay, budgets.backoffDelay? failed = some delay) ↔ failed ≤ 1024) ∧
    (∀ failed ≥ 1, ∀ delay, budgets.backoffDelay? failed = some delay →
      (delay ≤ budgets.backoffMaxSeconds ↔ budgets.Numeric)) ∧
    (budgets.Numeric → ∀ failed ≥ 1, ∀ delay, budgets.backoffDelay? failed = some delay →
      size delay = min (budgets.grown failed) (size budgets.backoffMaxSeconds) ∧
      ∀ later ≥ failed, ∀ further, budgets.backoffDelay? later = some further →
        delay ≤ further ∧
        (size budgets.backoffMaxSeconds <
            size budgets.backoffBaseSeconds * 2 ^ (failed - 1).toNat →
          further = budgets.backoffMaxSeconds)) := by
  refine ⟨fun failed _ => ?_, fun failed first delay answer => ⟨numeric_of_le answer first, ?_⟩, ?_⟩
  · rw [← backoffDelay?_isSome_iff, Option.isSome_iff_exists]
  · intro numeric
    obtain ⟨base, most⟩ := amounts_of_read valid numeric
    obtain ⟨amount, exact⟩ := isAmount_delay base most answer first
    rw [le_iff_size_le amount most, exact]
    exact min_le_right _ _
  · intro numeric failed first delay answer
    obtain ⟨base, most⟩ := amounts_of_read valid numeric
    obtain ⟨amount, exact⟩ := isAmount_delay base most answer first
    refine ⟨exact, fun later behind further answer' => ⟨?_, fun past => ?_⟩⟩
    · obtain ⟨amount', exact'⟩ := isAmount_delay base most answer' (first.trans behind)
      rw [le_iff_size_le amount amount', exact, exact']
      exact min_le_min_right _ (grown_mono behind)
    · refine delay_eq_most base most answer' (first.trans behind) ?_
      exact (past.trans_le (le_doubled _ _)).trans_le (grown_mono behind)

/-- The usual delays are at the maximum behind the fourth failed attempt, and there is one behind the
1024th. -/
theorem delays_grow_iff_usual :
    Budgets.read (.obj []) = .valid {} ∧ ({} : Budgets).Numeric ∧
    ({} : Budgets).backoffDelay? 4 = some 10.0 ∧ size 10.0 < size 2.0 * 2 ^ 3 ∧
    ∃ delay, ({} : Budgets).backoffDelay? 1024 = some delay ∧ (10.0 : Float) ≤ delay ∧
      delay ≤ 10.0 ∧ delay = 10.0 := by
  have valid : Budgets.read (.obj []) = .valid {} := rfl
  have numeric : ({} : Budgets).Numeric := by decide +kernel
  have fourth : ({} : Budgets).backoffDelay? 4 = some 10.0 := by decide +kernel
  have past : size 10.0 < size 2.0 * 2 ^ 3 := by decide +kernel
  obtain ⟨exists_iff, capped, grows⟩ := delays_grow_iff valid
  obtain ⟨delay, last⟩ := (exists_iff 1024 (by decide)).mpr (by decide)
  obtain ⟨-, behind⟩ := grows numeric 4 (by decide) _ fourth
  obtain ⟨le, most⟩ := behind 1024 (by decide) delay last
  exact ⟨valid, numeric, fourth, past, delay, last, le,
    (capped 1024 (by decide) delay last).mpr numeric, most past⟩

/-- With the usual budgets there is no delay behind 1025 failed attempts, where the maximum is long
reached: the doubling is beyond all numbers before it is cut off. -/
theorem no_delay_behind_1025 :
    Budgets.read (.obj []) = .valid {} ∧ ({} : Budgets).backoffDelay? 1025 = none := ⟨rfl, rfl⟩

end Budgets

end Lectern
