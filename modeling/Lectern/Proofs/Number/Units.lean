/-
Module: Lectern.Proofs.Number.Units
Purpose: How large floating-point numbers are, counted in the smallest positive one: comparing two
  amounts compares their sizes, and an amount times a power of two is that often doubled exactly, or
  infinite where no number is so large.
Trusted boundary: none
Main exports: Number.size, Number.IsAmount, Number.lt_iff_size_lt, Number.le_iff_size_le,
  Number.not_le_of_isNaN, Number.doubled, Number.size_mul_twoToThe
-/
import Mathlib
import Lectern.Number.Binary

namespace Lectern.Number

open Float.Model
open Float.Model.UnpackedFloat hiding unpack pack

/-! ## Mantissas and exponents of the format -/

/-- A mantissa and an exponent as the bits of a floating-point number hold them. -/
structure Fits (mantissa : Nat) (exponent : Int) : Prop where
  most : mantissa < 2 ^ 53
  low : -1074 ≤ exponent
  high : exponent ≤ 971
  normal : exponent = -1074 ∨ 2 ^ 52 ≤ mantissa

/-- What unpacking gives. -/
def Canonical : UnpackedFloat → Prop
  | .finite _ mantissa exponent _ => Fits mantissa exponent
  | _ => True

private theorem bias_eq : Format.binary64.exponentBias = 1023 := rfl

private theorem width_eq : Format.binary64.mantissaBits = 53 := rfl

private theorem toNat_implicit (fraction : BitVec 52) :
    (1#1 ++ fraction).toNat = 2 ^ 52 + fraction.toNat := by
  rw [BitVec.toNat_append]
  exact (Nat.shiftLeft_add_eq_or_of_lt fraction.isLt 1).symm

theorem canonical_unpack (bits : BitVec Format.binary64.numBits) :
    Canonical (UnpackedFloat.unpack Format.binary64 bits) := by
  unfold UnpackedFloat.unpack
  simp only
  have small : (unpackMantissa bits).toNat < 2 ^ 52 := (unpackMantissa bits).isLt
  have few : (unpackExponent bits).toNat < 2 ^ 11 := (unpackExponent bits).isLt
  split
  next => split <;> trivial
  next notTop =>
    have below : (unpackExponent bits).toNat ≠ 2047 := by
      intro top
      exact notTop (BitVec.eq_of_toNat_eq (by rw [top]; rfl))
    split
    next =>
      split
      next => trivial
      next least _ =>
        rw [least]
        exact ⟨by omega, by decide, by decide, .inl rfl⟩
    next more =>
      have positive : (unpackExponent bits).toNat ≠ 0 := by
        intro none
        exact more (BitVec.eq_of_toNat_eq (by rw [none]; rfl))
      have lead := toNat_implicit (unpackMantissa bits)
      rw [bias_eq]
      refine ⟨by omega, ?_, ?_, .inr (by omega)⟩ <;> push_cast <;> omega

/-! ## Packing -/

@[simp]
theorem sign_packComponents (sign : Sign) (exponent : BitVec 11) (fraction : BitVec 52) :
    Sign.ofBitVec (unpackSign (packComponents Format.binary64 sign exponent fraction)) = sign := by
  simp only [unpackSign, packComponents, BitVec.extractLsb]
  rw [BitVec.extractLsb'_append_eq_of_le (by omega), BitVec.extractLsb'_append_eq_of_le (by omega)]
  cases sign <;> rfl

private theorem biased_eq (exponent : Int) :
    (exponent + Format.binary64.exponentBias + (52 : Nat)).toNat = (exponent + 1075).toNat := by
  rw [bias_eq]
  omega

section Pack

variable {sign : Sign} {mantissa : Nat} {exponent : Int} (positive : 0 < mantissa)

theorem pack_overflow (high : 971 < exponent) :
    UnpackedFloat.pack Format.binary64 (.finite sign mantissa exponent positive) =
      packedInfinity Format.binary64 sign := by
  simp only [UnpackedFloat.pack, biased_eq]
  rw [if_pos (by omega)]

theorem pack_normal (least : 2 ^ 52 ≤ mantissa) (most : mantissa < 2 ^ 53) (high : exponent ≤ 971) :
    UnpackedFloat.pack Format.binary64 (.finite sign mantissa exponent positive) =
      packComponents Format.binary64 sign (BitVec.ofNat 11 (exponent + 1075).toNat)
        (BitVec.ofNat 52 mantissa) := by
  have log : mantissa.log2 = 52 := (Nat.log2_eq_iff (by omega)).mpr ⟨least, most⟩
  simp only [UnpackedFloat.pack, biased_eq]
  rw [if_neg (by omega), if_pos (by rw [log]; rfl)]

theorem pack_small (small : mantissa < 2 ^ 52) (high : exponent ≤ 971) :
    UnpackedFloat.pack Format.binary64 (.finite sign mantissa exponent positive) =
      packComponents Format.binary64 sign 0#11 (BitVec.ofNat 52 mantissa) := by
  have log : mantissa.log2 < 52 := (Nat.log2_lt (by omega)).mpr small
  simp only [UnpackedFloat.pack, biased_eq]
  rw [if_neg (by omega), if_neg (by rw [width_eq]; omega)]

end Pack

private theorem ofNat_ne {width m n : Nat} (small : m < 2 ^ width) (other : n < 2 ^ width)
    (ne : m ≠ n) : BitVec.ofNat width m ≠ BitVec.ofNat width n := by
  intro same
  have values := congrArg BitVec.toNat same
  rw [BitVec.toNat_ofNat, BitVec.toNat_ofNat, Nat.mod_eq_of_lt small,
    Nat.mod_eq_of_lt other] at values
  exact ne values

/-- Nothing is lost between unpacking and unpacking again. -/
theorem unpack_pack {number : UnpackedFloat} (canonical : Canonical number) :
    UnpackedFloat.unpack Format.binary64 (UnpackedFloat.pack Format.binary64 number) = number := by
  cases number with
  | infinity sign => cases sign <;> rfl
  | notANumber => rfl
  | zero sign => cases sign <;> rfl
  | finite sign mantissa exponent positive =>
    obtain ⟨most, low, high, normal⟩ := canonical
    by_cases lead : 2 ^ 52 ≤ mantissa
    · have field : (BitVec.ofNat 11 (exponent + 1075).toNat).toNat = (exponent + 1075).toNat := by
        rw [BitVec.toNat_ofNat]
        omega
      have whole : (1#1 ++ BitVec.ofNat 52 mantissa).toNat = mantissa := by
        rw [toNat_implicit, BitVec.toNat_ofNat]
        omega
      have notTop : BitVec.ofNat 11 (exponent + 1075).toNat ≠ -1#11 :=
        ofNat_ne (n := 2047) (by omega) (by decide) (by omega)
      have notLeast : BitVec.ofNat 11 (exponent + 1075).toNat ≠ 0#11 :=
        ofNat_ne (by omega) (by decide) (by omega)
      rw [pack_normal positive lead most high, UnpackedFloat.unpack]
      simp only [unpackMantissa_packComponents, unpackExponent_packComponents, sign_packComponents]
      rw [if_neg notTop, if_neg notLeast]
      simp only [whole, field, bias_eq]
      congr 1
      omega
    · have least : exponent = -1074 := by omega
      have whole : (BitVec.ofNat 52 mantissa).toNat = mantissa := by
        rw [BitVec.toNat_ofNat]
        omega
      have some : BitVec.ofNat 52 mantissa ≠ 0#52 := ofNat_ne (by omega) (by decide) (by omega)
      rw [pack_small positive (by omega) high, UnpackedFloat.unpack]
      simp only [unpackMantissa_packComponents, unpackExponent_packComponents, sign_packComponents]
      rw [if_neg (by decide), if_pos trivial, dif_neg some]
      simp only [whole, bias_eq, least]
      rfl

/-! ## Sizes -/

/-- How many of the smallest positive number make up an unpacked one, its sign left out. -/
def units : UnpackedFloat → ℕ∞
  | .zero _ => 0
  | .finite _ mantissa exponent _ => (mantissa * 2 ^ (exponent + 1074).toNat : ℕ)
  | _ => ⊤

/-- No negative number, and not what is no number at all. -/
def NotNegative : UnpackedFloat → Prop
  | .infinity sign => sign = .positive
  | .notANumber => False
  | .zero _ => True
  | .finite sign .. => sign = .positive

/-- How many of the smallest positive number make up a number, its sign left out. -/
def size (number : Float) : ℕ∞ := units number.toModel.unpack

/-- A floating-point number that says how much of something there is. -/
def IsAmount (number : Float) : Prop := NotNegative number.toModel.unpack

private theorem units_lt_units {m k : Nat} {e f : Int} (first : Fits m e) (second : Fits k f)
    (less : e < f) : m * 2 ^ (e + 1074).toNat < k * 2 ^ (f + 1074).toNat := by
  obtain ⟨most, low, -, -⟩ := first
  obtain ⟨-, -, -, normal⟩ := second
  have further : (f + 1074).toNat = (e + 1074).toNat + 1 + (f - e - 1).toNat := by omega
  calc m * 2 ^ (e + 1074).toNat
    _ < 2 ^ 53 * 2 ^ (e + 1074).toNat := Nat.mul_lt_mul_of_pos_right most (by positivity)
    _ = 2 ^ 52 * 2 ^ ((e + 1074).toNat + 1) := by rw [pow_succ' 2 (e + 1074).toNat]; ring
    _ ≤ k * 2 ^ (f + 1074).toNat := by
      rw [further, pow_add _ _ (f - e - 1).toNat]
      exact Nat.mul_le_mul (by omega) (Nat.le_mul_of_pos_right _ (by positivity))

/-- The larger exponent decides, and mantissas at the same one. -/
private theorem compare_fits {m k : Nat} {e f : Int} (first : Fits m e) (second : Fits k f) :
    (compare e f).then (compare m k) =
      compare (m * 2 ^ (e + 1074).toNat) (k * 2 ^ (f + 1074).toNat) := by
  rcases lt_trichotomy e f with less | rfl | more
  · rw [compare_lt_iff_lt.mpr less, compare_lt_iff_lt.mpr (units_lt_units first second less)]
    rfl
  · have scaled : StrictMono fun m : Nat => m * 2 ^ (e + 1074).toNat :=
      fun _ _ less => Nat.mul_lt_mul_of_pos_right less (by positivity)
    rw [compare_eq_iff_eq.mpr rfl, ← cmp_eq_compare, ← cmp_eq_compare]
    exact (scaled.cmp_map_eq m k).symm
  · rw [compare_gt_iff_gt.mpr more, compare_gt_iff_gt.mpr (units_lt_units second first more)]
    rfl

private theorem compare_cast (m k : Nat) : compare (m : ℕ∞) (k : ℕ∞) = compare m k := by
  rw [← cmp_eq_compare, ← cmp_eq_compare]
  exact Nat.strictMono_cast.cmp_map_eq m k

private theorem units_pos {sign : Sign} {m : Nat} {e : Int} (positive : 0 < m) :
    0 < units (.finite sign m e positive) := by
  have whole : 0 < m * 2 ^ (e + 1074).toNat := by positivity
  rw [units]
  exact_mod_cast whole

theorem compare_units {a b : UnpackedFloat} (canonicalA : Canonical a) (canonicalB : Canonical b)
    (amountA : NotNegative a) (amountB : NotNegative b) :
    a.compare b = some (compare (units a) (units b)) := by
  cases a with
  | notANumber => exact amountA.elim
  | infinity sign =>
    cases amountA
    cases b with
    | notANumber => exact amountB.elim
    | infinity sign => cases amountB; rfl
    | zero sign => rfl
    | finite sign k f positive =>
      rw [compare_gt_iff_gt.mpr (WithTop.coe_lt_top _)]
      rfl
  | zero sign =>
    cases b with
    | notANumber => exact amountB.elim
    | infinity sign => cases amountB; rfl
    | zero sign => rfl
    | finite sign k f positive =>
      cases amountB
      rw [compare_lt_iff_lt.mpr (show units (.zero sign) < _ from units_pos positive)]
      rfl
  | finite sign m e positive =>
    cases amountA
    cases b with
    | notANumber => exact amountB.elim
    | infinity sign =>
      cases amountB
      rw [compare_lt_iff_lt.mpr (WithTop.coe_lt_top _)]
      rfl
    | zero sign =>
      rw [compare_gt_iff_gt.mpr (show units (.zero sign) < _ from units_pos positive)]
      rfl
    | finite sign k f positive' =>
      cases amountB
      rw [units, units, compare_cast, ← compare_fits canonicalA canonicalB]
      rfl

private theorem lt_iff_compare {a b : Float} :
    a < b ↔ a.toModel.unpack.compare b.toModel.unpack = some .lt := by
  change decide ((a.toModel.unpack.compare b.toModel.unpack == some .lt) = true) = true ↔ _
  rw [decide_eq_true_iff, beq_iff_eq]

private theorem le_iff_compare {a b : Float} :
    a ≤ b ↔ (a.toModel.unpack.compare b.toModel.unpack).any (·.isLE) = true := by
  change decide ((a.toModel.unpack.compare b.toModel.unpack).any (·.isLE) = true) = true ↔ _
  rw [decide_eq_true_iff]

section Order

variable {a b : Float} (amountA : IsAmount a) (amountB : IsAmount b)
include amountA amountB

private theorem compare_eq :
    a.toModel.unpack.compare b.toModel.unpack = some (compare (size a) (size b)) :=
  compare_units (canonical_unpack _) (canonical_unpack _) amountA amountB

theorem lt_iff_size_lt : a < b ↔ size a < size b := by
  rw [lt_iff_compare, compare_eq amountA amountB, Option.some_inj, compare_lt_iff_lt]

theorem le_iff_size_le : a ≤ b ↔ size a ≤ size b := by
  rw [le_iff_compare, compare_eq amountA amountB, Option.any_some, Ordering.isLE_iff_ne_gt]
  exact compare_le_iff_le

end Order

/-- An amount is what a check against zero lets through, but for what is no number. -/
theorem isAmount_iff (number : Float) :
    IsAmount number ↔ ¬ number < Float.ofInt 0 ∧ number.isNaN = false := by
  have zero : (Float.ofInt 0).toModel.unpack = .zero .positive := rfl
  change _ ↔ _ ∧ number.toModel.unpack.isNaN = false
  rw [lt_iff_compare, IsAmount, zero]
  rcases number.toModel.unpack with ⟨_ | _⟩ | _ | _ | ⟨_ | _⟩ <;>
    simp [NotNegative, UnpackedFloat.compare, UnpackedFloat.isNaN]

private theorem unpack_of_isNaN {number : Float} (nothing : number.isNaN = true) :
    number.toModel.unpack = .notANumber := by
  change number.toModel.unpack.isNaN = true at nothing
  revert nothing
  cases number.toModel.unpack with
  | notANumber => exact fun _ => rfl
  | _ => nofun

section NoNumber

variable {a b : Float} (neither : a.isNaN = true ∨ b.isNaN = true)
include neither

private theorem compare_of_isNaN : a.toModel.unpack.compare b.toModel.unpack = none := by
  rcases neither with nothing | nothing
  · rw [unpack_of_isNaN nothing]
    cases b.toModel.unpack <;> rfl
  · rw [unpack_of_isNaN nothing]
    cases a.toModel.unpack <;> rfl

/-- What is no number is less than nothing, and nothing is less than it. -/
theorem not_lt_of_isNaN : ¬ a < b := by
  rw [lt_iff_compare, compare_of_isNaN neither]
  nofun

theorem not_le_of_isNaN : ¬ a ≤ b := by
  rw [le_iff_compare, compare_of_isNaN neither]
  nofun

end NoNumber

theorem isNaN_mul {a b : Float} (nothing : a.isNaN = true) : (a * b).isNaN = true := by
  change (UnpackedFloat.unpack Format.binary64 (UnpackedFloat.pack Format.binary64
    (UnpackedFloat.mul Format.binary64 a.toModel.unpack b.toModel.unpack))).isNaN = true
  rw [unpack_of_isNaN nothing, UnpackedFloat.mul]
  rfl

/-! ## Doubling -/

/-- The size of `2 ^ 1024`, from which on there are no finite numbers. -/
@[irreducible]
def overflow : Nat := 2 ^ (1024 + 1074)

private theorem overflow_eq : overflow = 2 ^ (1024 + 1074) := by
  unfold overflow
  rfl

/-- The size of what is doubled some times. -/
noncomputable def doubled (size : ℕ∞) (times : Nat) : ℕ∞ :=
  if size * 2 ^ times < overflow then size * 2 ^ times else ⊤

private theorem shiftRight_exact (m shift : Nat) :
    (⟨m * 2 ^ shift, false, false⟩ : ExtendedMantissa) >>> shift = ⟨m, false, false⟩ := by
  change shift.repeat ExtendedMantissa.shiftRightOne _ = _
  induction shift generalizing m with
  | zero => simp [Nat.repeat]
  | succ shift ih =>
    have half : m * 2 ^ (shift + 1) = m * 2 * 2 ^ shift := by rw [pow_succ']; ring
    rw [Nat.repeat, half, ih]
    simp [ExtendedMantissa.shiftRightOne]

private theorem target_eq (total : Int) :
    Format.binary64.targetExponent total = max (total - 53) (-1074) := rfl

private theorem totalExponent_shifted {m : Nat} (positive : 0 < m) (shift : Nat) (e : Int) :
    totalExponent (m * 2 ^ shift) e = totalExponent m (e + shift) := by
  have log : (m * 2 ^ shift).log2 = m.log2 + shift := by
    rw [Nat.log2_eq_iff (by positivity), add_right_comm, pow_add, pow_add 2 (m.log2 + 1)]
    constructor
    · exact Nat.mul_le_mul_right _ (Nat.log2_self_le (by omega))
    · exact Nat.mul_lt_mul_of_pos_right Nat.lt_log2_self (by positivity)
  simp only [totalExponent, log]
  push_cast
  ring

section Round

variable {m shift : Nat} {e : Int} (positive : 0 < m)
  (target : Format.binary64.targetExponent (totalExponent m (e + shift)) = e + shift)
include positive target

private theorem shift_exact :
    shiftToTargetExponent Format.binary64 (m * 2 ^ shift) e .exact =
      (⟨m, false, false⟩, e + shift) := by
  have amount : (e + shift - e).toNat = shift := by omega
  simp only [shiftToTargetExponent, shiftToExponent, totalExponent_shifted positive, target, amount]
  rw [ExtendedMantissa.ofMantissaAndAccuracy, shiftRight_exact]

/-- Where only zeros are shifted out, nothing is rounded. -/
private theorem round_exact (sign : Sign) :
    roundWithAccuracy Format.binary64 sign (m * 2 ^ shift) e .exact =
      .finite sign m (e + shift) positive := by
  have first := shift_exact positive target
  have second : shiftToTargetExponent Format.binary64 m (e + shift) .exact =
      (⟨m, false, false⟩, e + shift) := by
    have unshifted : Format.binary64.targetExponent (totalExponent m (e + shift + (0 : Nat))) =
        e + shift + (0 : Nat) := by simpa using target
    simpa using shift_exact positive unshifted
  simp only [roundWithAccuracy, first, ExtendedMantissa.roundedMantissa, ExtendedMantissa.accuracy,
    Accuracy.roundToNearestEven, second]
  rw [dif_neg (by omega)]

end Round

/-- A power of two, unpacked. -/
private abbrev power (times : Nat) : UnpackedFloat :=
  .finite .positive (2 ^ 52) (times - 52) (by decide)

private theorem mul_power {sign : Sign} {m : Nat} {e : Int} (positive : 0 < m) (fits : Fits m e)
    (times : Nat) :
    ∃ k f, ∃ positive' : 0 < k,
      UnpackedFloat.mul Format.binary64 (.finite sign m e positive) (power times) =
        .finite sign k f positive' ∧
      (f ≤ 971 → Fits k f) ∧ (971 < f → 2 ^ 52 ≤ k) ∧
      k * 2 ^ (f + 1074).toNat = m * 2 ^ (e + 1074).toNat * 2 ^ times := by
  obtain ⟨most, low, -, -⟩ := fits
  have log : m.log2 < 53 := (Nat.log2_lt (by omega)).mpr most
  have least := Nat.log2_self_le (show m ≠ 0 by omega)
  have above := Nat.lt_log2_self (n := m)
  -- Of the 52 zeros behind the product, those stay that make the mantissa as wide as it can be.
  obtain ⟨kept, exponent⟩ :
      ∃ kept : Nat, (kept : Int) = min (52 - m.log2 : Int) (times + e + 1074) :=
    ⟨(min (52 - m.log2 : Int) (times + e + 1074)).toNat, by omega⟩
  have split : m * 2 ^ 52 = m * 2 ^ kept * 2 ^ (52 - kept) := by
    rw [mul_assoc, ← pow_add, Nat.add_sub_cancel' (by omega)]
  have target : Format.binary64.targetExponent
      (totalExponent (m * 2 ^ kept) (e + (times - 52) + (52 - kept : Nat))) =
      e + (times - 52) + (52 - kept : Nat) := by
    rw [target_eq, totalExponent_shifted (by omega), totalExponent]
    omega
  have product : UnpackedFloat.mul Format.binary64 (.finite sign m e positive) (power times) =
      .finite sign (m * 2 ^ kept) (e + (times - 52) + (52 - kept : Nat)) (by positivity) := by
    rw [UnpackedFloat.mul, split, round_exact (by positivity) target]
    cases sign <;> rfl
  have narrow : m * 2 ^ kept < 2 ^ 53 := by
    calc m * 2 ^ kept
      _ < 2 ^ (m.log2 + 1) * 2 ^ kept := Nat.mul_lt_mul_of_pos_right above (by positivity)
      _ = 2 ^ (m.log2 + 1 + kept) := (pow_add ..).symm
      _ ≤ 2 ^ 53 := Nat.pow_le_pow_right (by decide) (by omega)
  have wide (more : (kept : Int) ≠ times + e + 1074) : 2 ^ 52 ≤ m * 2 ^ kept := by
    calc 2 ^ 52
      _ = 2 ^ m.log2 * 2 ^ kept := by rw [← pow_add]; congr 1; omega
      _ ≤ m * 2 ^ kept := Nat.mul_le_mul_right _ least
  refine ⟨_, _, _, product, fun high => ⟨narrow, by omega, high, ?_⟩, fun high => wide (by omega), ?_⟩
  · by_cases bottom : (kept : Int) = times + e + 1074
    · left
      omega
    · exact .inr (wide bottom)
  · rw [mul_assoc, mul_assoc, ← pow_add, ← pow_add]
    congr 2
    omega

private theorem lt_overflow {k : Nat} {f : Int} (fits : Fits k f) :
    k * 2 ^ (f + 1074).toNat < overflow := by
  obtain ⟨most, -, high, -⟩ := fits
  calc k * 2 ^ (f + 1074).toNat
    _ < 2 ^ 53 * 2 ^ (f + 1074).toNat := Nat.mul_lt_mul_of_pos_right most (by positivity)
    _ = 2 ^ (53 + (f + 1074).toNat) := (pow_add ..).symm
    _ ≤ 2 ^ (1024 + 1074) := pow_le_pow_right₀ (by decide) (by omega)
    _ = overflow := overflow_eq.symm

private theorem overflow_le {k : Nat} {f : Int} (wide : 2 ^ 52 ≤ k) (high : 971 < f) :
    overflow ≤ k * 2 ^ (f + 1074).toNat := by
  calc overflow
    _ = 2 ^ (1024 + 1074) := overflow_eq
    _ ≤ 2 ^ (52 + (f + 1074).toNat) := pow_le_pow_right₀ (by decide) (by omega)
    _ = 2 ^ 52 * 2 ^ (f + 1074).toNat := pow_add ..
    _ ≤ k * 2 ^ (f + 1074).toNat := Nat.mul_le_mul_right _ wide

private theorem doubled_of_lt {size : ℕ∞} {times value : Nat} (whole : size * 2 ^ times = value)
    (below : value < overflow) : doubled size times = value := by
  rw [doubled, whole, if_pos (Nat.cast_lt.mpr below)]

private theorem doubled_of_le {size : ℕ∞} {times : Nat} (beyond : overflow ≤ size * 2 ^ times) :
    doubled size times = ⊤ := by
  rw [doubled, if_neg (not_lt.mpr beyond)]

/-- The product with a power of two as it is unpacked again. -/
private theorem unpack_mul_power {a : UnpackedFloat} (canonical : Canonical a) (times : Nat) :
    ∃ product,
      UnpackedFloat.unpack Format.binary64 (UnpackedFloat.pack Format.binary64
        (UnpackedFloat.mul Format.binary64 a (power times))) = product ∧
      (NotNegative product ↔ NotNegative a) ∧
      (NotNegative a → units product = doubled (units a) times) := by
  cases a with
  | notANumber =>
    exact ⟨.notANumber, by rw [UnpackedFloat.mul]; rfl, .rfl, fun amount => amount.elim⟩
  | infinity sign =>
    refine ⟨.infinity sign, ?_, .rfl, fun _ => ?_⟩
    · rw [UnpackedFloat.mul]
      cases sign <;> rfl
    · have endless : units (.infinity sign) * 2 ^ times = ⊤ := ENat.top_mul (by positivity)
      exact (doubled_of_le (endless ▸ le_top)).symm
  | zero sign =>
    refine ⟨.zero sign, ?_, .rfl, fun _ => ?_⟩
    · rw [UnpackedFloat.mul]
      cases sign <;> rfl
    · have nothing : units (.zero sign) * 2 ^ times = (0 : ℕ) := zero_mul _
      exact (doubled_of_lt nothing (overflow_eq ▸ pow_pos two_pos _)).symm
  | finite sign m e positive =>
    obtain ⟨k, f, positive', product, fits, wide, value⟩ := mul_power positive canonical times
    rw [product]
    have size : units (.finite sign m e positive) * 2 ^ times = (k * 2 ^ (f + 1074).toNat : ℕ) := by
      rw [value, units]
      push_cast
      rfl
    by_cases high : f ≤ 971
    · refine ⟨.finite sign k f positive', unpack_pack (fits high), .rfl, fun _ => ?_⟩
      exact (doubled_of_lt size (lt_overflow (fits high))).symm
    · have above : 971 < f := by omega
      refine ⟨.infinity sign, ?_, .rfl, fun _ => ?_⟩
      · rw [pack_overflow positive' above]
        cases sign <;> rfl
      · have beyond := overflow_le (wide above) above
        have endless : units (.infinity sign) = ⊤ := rfl
        rw [doubled_of_le (by rw [size]; exact Nat.cast_le.mpr beyond), endless]

private theorem packed_power (biased : Nat) (few : biased < 2048) :
    BitVec.ofNat 64 (2 ^ 52 * biased) =
      packComponents Format.binary64 .positive (BitVec.ofNat 11 biased) 0#52 := by
  apply BitVec.eq_of_toNat_eq
  simp only [packComponents, BitVec.toNat_append, Sign.toBitVec, BitVec.toNat_ofNat]
  rw [Nat.mod_eq_of_lt few]
  simp only [Nat.or_zero, Nat.shiftLeft_eq, Nat.zero_mod, Nat.zero_mul, Nat.zero_or]
  omega

theorem unpack_twoToThe {times : Nat} (few : times < 1024) :
    (twoToThe times).toModel.unpack = power times := by
  have bits : twoToThe times = Float.ofBits (UInt64.ofNat (2 ^ 52 * (times + 1023))) := by
    have near : (min (times : Int) 1024 + 1023).toNat = times + 1023 := by omega
    simp only [twoToThe, near]
    rw [if_neg (by omega), if_neg (by omega)]
    rfl
  have packed : BitVec.ofNat 64 (2 ^ 52 * (times + 1023)) =
      UnpackedFloat.pack Format.binary64 (power times) := by
    have biased : ((times : Int) - 52 + 1075).toNat = times + 1023 := by omega
    rw [packed_power _ (by omega), pack_normal (by decide) le_rfl (by decide) (by omega), biased]
    rfl
  have canonical : Canonical (power times) := ⟨by decide, by omega, by omega, .inr le_rfl⟩
  rw [bits]
  change UnpackedFloat.unpack Format.binary64 (UnpackedFloat.pack Format.binary64
    (UnpackedFloat.unpack Format.binary64 (BitVec.ofNat 64 (2 ^ 52 * (times + 1023))))) = _
  rw [packed, unpack_pack canonical, unpack_pack canonical]

section Product

variable (number : Float) {times : Nat} (few : times < 1024)
include few

private theorem unpack_mul_twoToThe :
    ∃ product, (number * twoToThe times).toModel.unpack = product ∧
      (NotNegative product ↔ NotNegative number.toModel.unpack) ∧
      (NotNegative number.toModel.unpack →
        units product = doubled (units number.toModel.unpack) times) := by
  change ∃ product, UnpackedFloat.unpack Format.binary64 (UnpackedFloat.pack Format.binary64
    (UnpackedFloat.mul Format.binary64 number.toModel.unpack (twoToThe times).toModel.unpack)) =
      product ∧ _
  rw [unpack_twoToThe few]
  exact unpack_mul_power (canonical_unpack _) times

theorem isAmount_mul_twoToThe : IsAmount (number * twoToThe times) ↔ IsAmount number := by
  obtain ⟨_, rfl, amount, -⟩ := unpack_mul_twoToThe number few
  exact amount

/-- A product with a power of two is exact, up to where no number is so large. -/
theorem size_mul_twoToThe (amount : IsAmount number) :
    size (number * twoToThe times) = doubled (size number) times := by
  obtain ⟨_, rfl, -, exact⟩ := unpack_mul_twoToThe number few
  exact exact amount

end Product

end Lectern.Number
