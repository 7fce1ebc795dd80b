import Mathlib.Algebra.Order.Field.Power
import Mathlib.Data.Nat.Cast.Order.Field
import Mathlib.Tactic.FieldSimp
import Mathlib.Tactic.Linarith
import Mathlib.Tactic.Positivity
import Mathlib.Tactic.Ring
import Playhouse.Decimal.Written

/-!
How a decimal is rounded to a floating-point number. Rounding keeps, beside a mantissa, one bit of
what follows it and whether anything follows that bit; this is enough to find the nearest mantissa.
The result: every number of the interval that `quarters` gives for a binary number is rounded to it.
-/
namespace Playhouse.Decimal
open Float.Model
open Float.Model.UnpackedFloat

/-! ### The bits after the mantissa -/

/-- The mantissa and the bits after it hold the quotient: it has the mantissa in front, then half of
the bit, and then less than a half, which is nothing unless the last bit is set. -/
def Holds (em : ExtendedMantissa) (num den : Nat) : Prop :=
  ∃ rest < den, 2 * num = den * (2 * em.mantissa + em.roundBit.toNat) + rest ∧ (em.stickyBit = true ↔ rest ≠ 0)

variable {den num : Nat} {em : ExtendedMantissa}

theorem holds_fraction (num : Nat) (positive : 0 < den) :
    Holds (.ofMantissaAndAccuracy (num / den) (accuracyOfFraction (num % den) den)) num den := by
  have below := Nat.mod_lt num positive
  have parts : 2 * num = den * (2 * (num / den)) + 2 * (num % den) := by
    have := Nat.div_add_mod num den
    calc 2 * num = 2 * (den * (num / den) + num % den) := by rw [this]
      _ = den * (2 * (num / den)) + 2 * (num % den) := by ring
  unfold accuracyOfFraction
  split
  · rename_i exact_
    exact ⟨0, positive, by simpa [ExtendedMantissa.ofMantissaAndAccuracy, exact_] using parts, by
      simp [ExtendedMantissa.ofMantissaAndAccuracy]⟩
  · rename_i inexact
    cases order : compare (2 * (num % den)) den with
    | lt =>
      rw [Nat.compare_eq_lt] at order
      exact ⟨2 * (num % den), order, by simpa [ExtendedMantissa.ofMantissaAndAccuracy] using parts, by
        simpa [ExtendedMantissa.ofMantissaAndAccuracy] using inexact⟩
    | eq =>
      rw [Nat.compare_eq_eq] at order
      refine ⟨0, positive, ?_, by simp [ExtendedMantissa.ofMantissaAndAccuracy]⟩
      simp only [ExtendedMantissa.ofMantissaAndAccuracy, Bool.toNat_true, mul_add, mul_one]
      omega
    | gt =>
      rw [Nat.compare_eq_gt] at order
      refine ⟨2 * (num % den) - den, by omega, ?_, ?_⟩
      · simp only [ExtendedMantissa.ofMantissaAndAccuracy, Bool.toNat_true, mul_add, mul_one]
        omega
      · simp only [ExtendedMantissa.ofMantissaAndAccuracy, true_iff]
        omega

theorem Holds.shiftRightOne (holds : Holds em num den) : Holds em.shiftRightOne num (den * 2) := by
  obtain ⟨rest, below, parts, sticky⟩ := holds
  have bits : 2 * (em.mantissa / 2) + (em.mantissa % 2 != 0).toNat = em.mantissa := by
    rcases Nat.mod_two_eq_zero_or_one em.mantissa with even | odd
    · rw [even]
      change 2 * (em.mantissa / 2) + 0 = _
      omega
    · rw [odd]
      change 2 * (em.mantissa / 2) + 1 = _
      omega
  refine ⟨den * em.roundBit.toNat + rest, ?_, ?_, ?_⟩
  · have := Nat.mul_le_mul_left den (Bool.toNat_le em.roundBit)
    omega
  · rw [parts]
    change _ = den * 2 * (2 * (em.mantissa / 2) + (em.mantissa % 2 != 0).toNat) + _
    rw [bits]
    ring
  · change (em.roundBit || em.stickyBit) = true ↔ _
    cases bit : em.roundBit with
    | false => simpa using sticky
    | true =>
      simp only [Bool.true_or, Bool.toNat_true, true_iff]
      omega

theorem Holds.shiftRight (holds : Holds em num den) (shift : Nat) : Holds (em >>> shift) num (den * 2 ^ shift) := by
  induction shift with
  | zero => simpa [HShiftRight.hShiftRight, Nat.repeat] using holds
  | succ shift ih =>
    rw [pow_succ, ← mul_assoc]
    exact ih.shiftRightOne

/-- The bits round to the nearest mantissa, of two as near to the even one. -/
theorem Holds.rounded (holds : Holds em num den) : em.roundedMantissa = roundDiv num den := by
  obtain ⟨rest, below, parts, sticky⟩ := holds
  have positive : 0 < den := by omega
  have split_ : 2 * num = 2 * (den * em.mantissa) + (den * em.roundBit.toNat + rest) := by
    rw [parts]
    ring
  have small : den * em.roundBit.toNat ≤ den := by
    simpa using Nat.mul_le_mul_left den (Bool.toNat_le em.roundBit)
  have quotient : num / den = em.mantissa := by
    apply Nat.div_eq_of_lt_le
    · rw [mul_comm]
      omega
    · rw [add_mul, one_mul, mul_comm em.mantissa]
      omega
  have remainder : 2 * (num % den) = den * em.roundBit.toNat + rest := by
    have := Nat.div_add_mod num den
    rw [quotient] at this
    omega
  rcases em with ⟨mantissa, roundBit, stickyBit⟩
  unfold roundDiv
  simp only at quotient remainder sticky ⊢
  rw [quotient, remainder]
  cases roundBit with
  | false =>
    have low : rest < den := below
    simp only [Bool.toNat_false, mul_zero, zero_add, if_pos low]
    cases stickyBit <;> rfl
  | true =>
    simp only [Bool.toNat_true, mul_one, if_neg (show ¬ den + rest < den by omega)]
    cases stickyBit with
    | true =>
      have inside : den < den + rest := by
        have := sticky.1 rfl
        omega
      rw [if_pos inside]
      rfl
    | false =>
      have middle : ¬ den < den + rest := by
        have : rest = 0 := by simpa using sticky
        omega
      rw [if_neg middle]
      change mantissa + mantissa % 2 = _
      simp only [beq_iff_eq]
      split <;> omega

/-- A mantissa is the rounded quotient if the quotient lies within a half of it, and not at the end of
that unless the mantissa is even. -/
theorem roundDiv_eq {mantissa : Nat} (positive : 0 < den) (low : 2 * (mantissa * den) ≤ 2 * num + den)
    (high : 2 * num ≤ 2 * (mantissa * den) + den)
    (inside : mantissa % 2 = 0 ∨ 2 * (mantissa * den) < 2 * num + den ∧ 2 * num < 2 * (mantissa * den) + den) :
    roundDiv num den = mantissa := by
  have parts := Nat.div_add_mod num den
  have below := Nat.mod_lt num positive
  have grow {a b : Nat} (le : a ≤ b) : a * den ≤ b * den := Nat.mul_le_mul_right den le
  have near : mantissa = num / den ∨ mantissa = num / den + 1 := by
    rcases Nat.lt_or_ge mantissa (num / den) with less | least
    · have := grow (Nat.succ_le_of_lt less)
      rw [Nat.succ_mul, mul_comm (num / den)] at this
      omega
    · rcases Nat.lt_or_ge (num / den + 1) mantissa with more | most
      · have := grow (Nat.succ_le_of_lt more)
        simp only [Nat.succ_mul, mul_comm (num / den)] at this
        omega
      · omega
  unfold roundDiv
  simp only [beq_iff_eq]
  rcases near with same | next
  · have product : mantissa * den = den * (num / den) := by rw [same, mul_comm]
    rw [product] at low high inside
    split
    · exact same.symm
    · rw [if_neg (by omega), if_pos (by omega)]
      exact same.symm
  · have product : mantissa * den = den * (num / den) + den := by
      rw [next, Nat.add_mul, one_mul, mul_comm]
    rw [product] at low high inside
    rw [if_neg (by omega)]
    split
    · exact next.symm
    · rw [if_neg (by omega)]
      exact next.symm

/-! ### The exponent that a number is rounded at -/

theorem targetExponent_eq (total : Int) : Format.binary64.targetExponent total = max (total - 53) (-1074) :=
  rfl

section
variable {num den : Nat} {exponent : Int}

/-- The leading bit of a number is no further down than its mantissa says. -/
theorem lt_totalExponent (positive : 0 < den) :
    (num : ℚ) / den * 2 ^ exponent < 2 ^ totalExponent (num / den) exponent := by
  have floor : num < den * 2 ^ ((num / den).log2 + 1) := by
    have above := Nat.lt_log2_self (n := num / den)
    rw [Nat.div_lt_iff_lt_mul positive, mul_comm] at above
    exact above
  have quotient : (num : ℚ) / den < 2 ^ ((num / den).log2 + 1) := by
    rw [div_lt_iff₀ (by exact_mod_cast positive), mul_comm]
    exact_mod_cast floor
  have total : totalExponent (num / den) exponent = ((num / den).log2 + 1 : Nat) + exponent := rfl
  rw [total, zpow_add₀ two_ne_zero, zpow_natCast]
  exact mul_lt_mul_of_pos_right quotient (by positivity)

/-- The leading bit of a number is no further up than its mantissa says. A number below the least
exponent has no mantissa and counts as being there. -/
theorem totalExponent_le (positive : 0 < den)
    (enough : exponent ≤ Format.binary64.targetExponent (totalExponent (num / den) exponent)) {bound : Int}
    (high : -1073 ≤ bound) (below : (num : ℚ) / den * 2 ^ exponent < 2 ^ bound) :
    totalExponent (num / den) exponent ≤ bound := by
  have total : totalExponent (num / den) exponent = ((num / den).log2 : Int) + 1 + exponent := rfl
  rw [targetExponent_eq] at enough
  rcases Nat.eq_zero_or_pos (num / den) with none_ | some_
  · have log : (num / den).log2 = 0 := by rw [none_, Nat.log2_zero]
    omega
  · have floor : 2 ^ (num / den).log2 * den ≤ num :=
      (Nat.le_div_iff_mul_le positive).1 (Nat.log2_self_le (Nat.pos_iff_ne_zero.1 some_))
    have quotient : (2 : ℚ) ^ (num / den).log2 ≤ num / den := by
      rw [le_div_iff₀ (by exact_mod_cast positive)]
      exact_mod_cast floor
    have reached : (2 : ℚ) ^ (((num / den).log2 : Int) + exponent) < 2 ^ bound := by
      rw [zpow_add₀ two_ne_zero, zpow_natCast]
      exact lt_of_le_of_lt (mul_le_mul_of_nonneg_right quotient (by positivity)) below
    have := (zpow_lt_zpow_iff_right₀ (one_lt_two (α := ℚ))).1 reached
    omega

end

/-! ### Rounding to a given number -/

/-- The form in which every finite number but zero is held: with 53 bits, or fewer at the least
exponent. -/
structure Binary.Canonical (value : Binary) : Prop where
  positive : 0 < value.mantissa
  bits : value.mantissa < 2 ^ 53
  least : -1074 ≤ value.exponent
  most : value.exponent ≤ 971
  full : 2 ^ 52 ≤ value.mantissa ∨ value.exponent = -1074

/-- A number in this form, with a sign. -/
abbrev Binary.Canonical.signed {value : Binary} (canonical : value.Canonical) (sign : Sign) : UnpackedFloat :=
  .finite sign value.mantissa value.exponent canonical.positive

/-- A number of the interval of those that round to `value`; its ends belong to it if the mantissa is
even. -/
structure Binary.Rounds (value : Binary) (x : ℚ) : Prop where
  low : (quarters value).1 * 2 ^ (value.exponent - 2) ≤ x
  high : x ≤ (quarters value).2.2 * 2 ^ (value.exponent - 2)
  ends : value.mantissa % 2 = 0 ∨
    (quarters value).1 * 2 ^ (value.exponent - 2) < x ∧ x < (quarters value).2.2 * 2 ^ (value.exponent - 2)

section
variable {value : Binary} {x : ℚ}

/-- A number that rounds to `value` is within half of the last place from it. -/
theorem Binary.Rounds.half (rounds : value.Rounds x) :
    (4 * value.mantissa - 2) * 2 ^ (value.exponent - 2) ≤ x ∧
      x ≤ (4 * value.mantissa + 2) * 2 ^ (value.exponent - 2) ∧
      (value.mantissa % 2 = 0 ∨ (4 * value.mantissa - 2) * 2 ^ (value.exponent - 2) < x ∧
        x < (4 * value.mantissa + 2) * 2 ^ (value.exponent - 2)) := by
  have positive : (0 : ℚ) < 2 ^ (value.exponent - 2) := by positivity
  have low : (4 * value.mantissa - 2 : ℚ) ≤ (quarters value).1 := by
    have least : 4 * value.mantissa ≤ (quarters value).1 + 2 := by
      unfold quarters
      simp only
      split <;> omega
    have : (4 * value.mantissa : ℚ) ≤ (quarters value).1 + 2 := by exact_mod_cast least
    linarith
  have high : ((quarters value).2.2 : ℚ) = 4 * value.mantissa + 2 := by
    unfold quarters
    push_cast
    rfl
  have wide := mul_le_mul_of_nonneg_right low positive.le
  obtain ⟨above, below, ends⟩ := rounds
  rw [high] at below ends
  exact ⟨wide.trans above, below, ends.imp_right fun inside => ⟨wide.trans_lt inside.1, inside.2⟩⟩

/-- Just above a power of two the numbers that round to it reach only a quarter down. -/
theorem Binary.Rounds.quarter (rounds : value.Rounds x) (power : value.mantissa = 2 ^ 52)
    (normal : -1074 < value.exponent) : (2 ^ 54 - 1) * 2 ^ (value.exponent - 2) ≤ x := by
  have narrow : (quarters value).1 = 2 ^ 54 - 1 := by
    unfold quarters
    simp only [power, twoTo, fractionBits, Nat.pow_eq, beq_self_eq_true, Bool.true_and, gt_iff_lt,
      decide_eq_true_eq, if_pos normal]
    norm_num
  have low := rounds.low
  rw [narrow] at low
  exact_mod_cast low

variable {num den : Nat} {exponent : Int}

/-- A number is rounded at the exponent of the number it rounds to, or one below it if it lies below
the power of two that it is rounded up to. -/
theorem Binary.Rounds.target (rounds : value.Rounds (num / den * 2 ^ exponent)) (canonical : value.Canonical)
    (positive : 0 < den)
    (enough : exponent ≤ Format.binary64.targetExponent (totalExponent (num / den) exponent)) :
    Format.binary64.targetExponent (totalExponent (num / den) exponent) = value.exponent ∨
      value.mantissa = 2 ^ 52 ∧ -1074 < value.exponent ∧
        (num : ℚ) / den * 2 ^ exponent < 2 ^ (value.exponent + 52) ∧
        Format.binary64.targetExponent (totalExponent (num / den) exponent) = value.exponent - 1 := by
  obtain ⟨low, high, -⟩ := rounds.half
  obtain ⟨-, bits, least, -, full⟩ := canonical
  have lower : (num : ℚ) / den * 2 ^ exponent < 2 ^ totalExponent (num / den) exponent :=
    lt_totalExponent positive
  have reaches {bound : Int} (reached : (2 : ℚ) ^ bound ≤ num / den * 2 ^ exponent) :
      bound < totalExponent (num / den) exponent :=
    (zpow_lt_zpow_iff_right₀ one_lt_two).1 (reached.trans_lt lower)
  have unit : (0 : ℚ) < 2 ^ (value.exponent - 2) := by positivity
  have scale (n : Nat) : (2 : ℚ) ^ (value.exponent + n) = 2 ^ (n + 2) * 2 ^ (value.exponent - 2) := by
    rw [zpow_add₀ two_ne_zero, zpow_sub₀ two_ne_zero, zpow_natCast, pow_add]
    field_simp
  have at51 : (2 : ℚ) ^ (value.exponent + 51) = 2 ^ 53 * 2 ^ (value.exponent - 2) := scale 51
  have at52 : (2 : ℚ) ^ (value.exponent + 52) = 2 ^ 54 * 2 ^ (value.exponent - 2) := scale 52
  have at53 : (2 : ℚ) ^ (value.exponent + 53) = 2 ^ 55 * 2 ^ (value.exponent - 2) := scale 53
  have below53 : (num : ℚ) / den * 2 ^ exponent < 2 ^ (value.exponent + 53) := by
    have small : (4 * value.mantissa + 2 : ℚ) < 2 ^ 55 := by
      have : 4 * value.mantissa + 2 < 2 ^ 55 := by omega
      exact_mod_cast this
    rw [at53]
    exact high.trans_lt (mul_lt_mul_of_pos_right small unit)
  have most := totalExponent_le positive enough (by omega) below53
  rw [targetExponent_eq]
  rcases lt_or_ge ((num : ℚ) / den * 2 ^ exponent) (2 ^ (value.exponent + 52)) with below52 | above52
  · have few := totalExponent_le positive enough (by omega) below52
    by_cases normal : -1074 < value.exponent
    · have wide : 2 ^ 52 ≤ value.mantissa := full.resolve_right (by omega)
      have power : value.mantissa = 2 ^ 52 := by
        by_contra other
        have more : (2 : ℚ) ^ 54 ≤ 4 * value.mantissa - 2 := by
          have : 2 ^ 54 + 2 ≤ 4 * value.mantissa := by omega
          have : (2 ^ 54 + 2 : ℚ) ≤ 4 * value.mantissa := by exact_mod_cast this
          linarith
        have reached := (mul_le_mul_of_nonneg_right more unit.le).trans low
        rw [← at52] at reached
        exact absurd below52 reached.not_gt
      have reached : (2 : ℚ) ^ (value.exponent + 51) ≤ num / den * 2 ^ exponent := by
        rw [at51]
        refine le_trans (mul_le_mul_of_nonneg_right ?_ unit.le) (rounds.quarter power normal)
        norm_num
      have := reaches reached
      exact .inr ⟨power, normal, below52, by omega⟩
    · left
      omega
  · have := reaches above52
    left
    omega

variable {mantissa : Nat} {target : Int}

/-- A number within half of the last place from a mantissa is rounded to it. -/
theorem roundDiv_scaled (positive : 0 < den) (le : exponent ≤ target)
    (low : (4 * mantissa - 2) * 2 ^ (target - 2) ≤ (num : ℚ) / den * 2 ^ exponent)
    (high : (num : ℚ) / den * 2 ^ exponent ≤ (4 * mantissa + 2) * 2 ^ (target - 2))
    (ends : mantissa % 2 = 0 ∨ (4 * mantissa - 2) * 2 ^ (target - 2) < (num : ℚ) / den * 2 ^ exponent ∧ (num : ℚ) /
      den * 2 ^ exponent < (4 * mantissa + 2) * 2 ^ (target - 2)) :
    roundDiv num (den * 2 ^ (target - exponent).toNat) = mantissa := by
  obtain ⟨shift, rfl⟩ : ∃ shift : Nat, target = exponent + shift := ⟨(target - exponent).toNat, by omega⟩
  have same : (exponent + shift - exponent).toNat = shift := by omega
  rw [same]
  have unit : (0 : ℚ) < 2 ^ exponent / (4 * den) := by positivity
  have left_ : (num : ℚ) / den * 2 ^ exponent = (2 * (2 * num)) * (2 ^ exponent / (4 * den)) := by
    field_simp
    ring
  have right_ (n : ℚ) : n * 2 ^ (exponent + shift - 2) = n * (den * 2 ^ shift) * (2 ^ exponent / (4 * den)) := by
    rw [show exponent + (shift : Int) - 2 = exponent + shift + (-2) by ring, zpow_add₀ two_ne_zero,
      zpow_add₀ two_ne_zero, zpow_natCast]
    field_simp
    norm_num
  rw [left_, right_] at low high
  rw [left_, right_, right_] at ends
  have low_nat : 2 * (mantissa * (den * 2 ^ shift)) ≤ 2 * num + den * 2 ^ shift := by
    have := le_of_mul_le_mul_right low unit
    have : (2 * (mantissa * (den * 2 ^ shift)) : ℚ) ≤ 2 * num + den * 2 ^ shift := by linarith
    exact_mod_cast this
  have high_nat : 2 * num ≤ 2 * (mantissa * (den * 2 ^ shift)) + den * 2 ^ shift := by
    have := le_of_mul_le_mul_right high unit
    have : (2 * num : ℚ) ≤ 2 * (mantissa * (den * 2 ^ shift)) + den * 2 ^ shift := by linarith
    exact_mod_cast this
  refine roundDiv_eq (by positivity) low_nat high_nat (ends.imp_right ?_)
  rintro ⟨above, below⟩
  have := lt_of_mul_lt_mul_right above unit.le
  have first : (2 * (mantissa * (den * 2 ^ shift)) : ℚ) < 2 * num + den * 2 ^ shift := by linarith
  have := lt_of_mul_lt_mul_right below unit.le
  have second : (2 * num : ℚ) < 2 * (mantissa * (den * 2 ^ shift)) + den * 2 ^ shift := by linarith
  exact ⟨by exact_mod_cast first, by exact_mod_cast second⟩

theorem shiftToTargetExponent_fits (bits : mantissa < 2 ^ 53) (least : -1074 ≤ target) :
    shiftToTargetExponent Format.binary64 mantissa target .exact = (⟨mantissa, false, false⟩, target) := by
  have log : mantissa.log2 ≤ 52 := by
    rcases Nat.eq_zero_or_pos mantissa with zero | positive
    · simp [zero]
    · have := (Nat.log2_lt (Nat.pos_iff_ne_zero.1 positive)).2 bits
      omega
  have still : (Format.binary64.targetExponent (totalExponent mantissa target) - target).toNat = 0 := by
    rw [targetExponent_eq, totalExponent]
    omega
  unfold shiftToTargetExponent shiftToExponent
  simp only [still, Nat.cast_zero, add_zero]
  rfl

/-- A mantissa that rounding has brought to one bit more gives that bit up. -/
theorem shiftToTargetExponent_carry (least : -1074 ≤ target) :
    shiftToTargetExponent Format.binary64 (2 ^ 53) target .exact = (⟨2 ^ 52, false, false⟩, target + 1) := by
  have once : (Format.binary64.targetExponent (totalExponent (2 ^ 53) target) - target).toNat = 1 := by
    rw [targetExponent_eq, totalExponent, Nat.log2_two_pow]
    omega
  unfold shiftToTargetExponent shiftToExponent
  simp only [once, Nat.cast_one]
  rfl

/-- A result that is not zero is the number with its mantissa and its exponent. -/
theorem dite_finite (sign : Sign) {found : Nat} {place : Int} (positive : 0 < mantissa) (same : found = mantissa)
    (level : place = exponent) :
    (if none : found = 0 then zero sign else .finite sign found place (Nat.pos_iff_ne_zero.2 none)) =
      .finite sign mantissa exponent positive := by
  subst same level
  rw [dif_neg (Nat.pos_iff_ne_zero.1 positive)]

theorem Binary.Rounds.roundWithAccuracy (rounds : value.Rounds (num / den * 2 ^ exponent))
    (canonical : value.Canonical) (positive : 0 < den) (sign : Sign)
    (enough : exponent ≤ Format.binary64.targetExponent (totalExponent (num / den) exponent)) :
    roundWithAccuracy Format.binary64 sign (num / den) exponent (accuracyOfFraction (num % den) den) =
      canonical.signed sign := by
  have rounded := ((holds_fraction num positive).shiftRight
    (Format.binary64.targetExponent (totalExponent (num / den) exponent) - exponent).toNat).rounded
  have first : shiftToTargetExponent Format.binary64 (num / den) exponent (accuracyOfFraction (num % den) den) =
      (ExtendedMantissa.ofMantissaAndAccuracy (num / den) (accuracyOfFraction (num % den) den) >>>
        (Format.binary64.targetExponent (totalExponent (num / den) exponent) - exponent).toNat,
        Format.binary64.targetExponent (totalExponent (num / den) exponent)) := by
    unfold shiftToTargetExponent shiftToExponent
    simp only [Prod.mk.injEq, true_and]
    omega
  unfold UnpackedFloat.roundWithAccuracy
  dsimp only
  obtain same | ⟨power, normal, below, lower⟩ := rounds.target canonical positive enough
  · rw [same] at enough rounded
    obtain ⟨low, high, ends⟩ := rounds.half
    refine dite_finite sign canonical.positive ?_ ?_ <;>
      simp only [first, rounded, same, roundDiv_scaled positive enough low high ends,
        shiftToTargetExponent_fits canonical.bits canonical.least]
  · rw [lower] at enough rounded
    -- one place lower the power of two has a bit more
    have double (n : ℚ) : (2 * n) * 2 ^ (value.exponent - 1 - 2) = n * 2 ^ (value.exponent - 2) := by
      rw [show value.exponent - 2 = value.exponent - 1 - 2 + 1 by ring, zpow_add_one₀ two_ne_zero]
      ring
    have low : (4 * (2 ^ 53 : Nat) - 2) * 2 ^ (value.exponent - 1 - 2) ≤ (num : ℚ) / den * 2 ^ exponent := by
      have := rounds.quarter power normal
      rw [← double] at this
      refine le_trans (le_of_eq ?_) this
      norm_num
    have high : (num : ℚ) / den * 2 ^ exponent ≤ (4 * (2 ^ 53 : Nat) + 2) * 2 ^ (value.exponent - 1 - 2) := by
      rw [show value.exponent + 52 = value.exponent - 1 - 2 + 55 by ring, zpow_add₀ two_ne_zero] at below
      refine below.le.trans ?_
      rw [mul_comm]
      refine mul_le_mul_of_nonneg_right ?_ (by positivity)
      norm_num
    have least : -1074 ≤ value.exponent - 1 := by omega
    refine dite_finite sign canonical.positive ?_ ?_ <;>
      simp only [first, rounded, lower, roundDiv_scaled positive enough low high (.inl (by norm_num)),
        shiftToTargetExponent_carry least, power, sub_add_cancel]

/-! ### Rounding a decimal -/

variable {digits : Nat} {power : Int}

/-- A number that rounds to a positive one lies well inside the powers of two that the format has. -/
theorem Binary.Rounds.bounds (rounds : value.Rounds x) (canonical : value.Canonical) :
    (2 : ℚ) ^ (-1075 : Int) ≤ x ∧ x < 2 ^ (1024 : Int) := by
  obtain ⟨low, high, -⟩ := rounds.half
  obtain ⟨positive, bits, least, most, -⟩ := canonical
  have unit : (0 : ℚ) < 2 ^ (value.exponent - 2) := by positivity
  constructor
  · have some_ : (2 : ℚ) ^ (1 : Int) ≤ 4 * value.mantissa - 2 := by
      have : (1 : ℚ) ≤ value.mantissa := by exact_mod_cast positive
      norm_num
      linarith
    calc (2 : ℚ) ^ (-1075 : Int) ≤ 2 ^ (1 + (value.exponent - 2)) := zpow_le_zpow_right₀ (by norm_num) (by omega)
      _ = 2 ^ (1 : Int) * 2 ^ (value.exponent - 2) := zpow_add₀ two_ne_zero _ _
      _ ≤ x := (mul_le_mul_of_nonneg_right some_ unit.le).trans low
  · have few : (4 * value.mantissa + 2 : ℚ) < 2 ^ (55 : Int) := by
      have : 4 * value.mantissa + 2 < 2 ^ 55 := by omega
      exact_mod_cast this
    calc x ≤ (4 * value.mantissa + 2) * 2 ^ (value.exponent - 2) := high
      _ < 2 ^ (55 : Int) * 2 ^ (value.exponent - 2) := mul_lt_mul_of_pos_right few unit
      _ = 2 ^ (55 + (value.exponent - 2)) := (zpow_add₀ two_ne_zero _ _).symm
      _ ≤ 2 ^ (1024 : Int) := zpow_le_zpow_right₀ (by norm_num) (by omega)

section
variable (rounds : value.Rounds (digits * 10 ^ power)) (canonical : value.Canonical)
include rounds canonical

theorem Binary.Rounds.digits_pos : 0 < digits := by
  refine Nat.pos_of_ne_zero ?_
  rintro rfl
  have low := (rounds.bounds canonical).1
  rw [Nat.cast_zero, zero_mul] at low
  have : (0 : ℚ) < 2 ^ (-1075 : Int) := by positivity
  exact absurd low this.not_ge

theorem Binary.Rounds.power_le : power ≤ 2048 := by
  obtain ⟨-, high⟩ := rounds.bounds canonical
  by_contra large
  have some_ : (1 : ℚ) ≤ digits := by exact_mod_cast rounds.digits_pos canonical
  have : (2 : ℚ) ^ (1024 : Int) ≤ digits * 10 ^ power := by
    calc (2 : ℚ) ^ (1024 : Int) ≤ 2 ^ power := zpow_le_zpow_right₀ (by norm_num) (by omega)
      _ ≤ 10 ^ power := zpow_le_zpow_left₀ (by omega) (by norm_num) (by norm_num)
      _ ≤ digits * 10 ^ power := le_mul_of_one_le_left (by positivity) some_
  exact absurd high this.not_gt

theorem Binary.Rounds.le_power : -(2048 + (digits.log2 : Int)) ≤ power := by
  obtain ⟨low, -⟩ := rounds.bounds canonical
  by_contra small
  have few : (digits : ℚ) ≤ 2 ^ ((digits.log2 : Int) + 1) := by
    have : digits < 2 ^ (digits.log2 + 1) := Nat.lt_log2_self
    exact_mod_cast this.le
  have scale : (10 : ℚ) ^ power ≤ 2 ^ power := by
    obtain ⟨n, rfl⟩ : ∃ n : Nat, power = -n := ⟨(-power).toNat, by omega⟩
    rw [zpow_neg, zpow_neg, zpow_natCast, zpow_natCast]
    exact inv_anti₀ (by positivity) (pow_le_pow_left₀ (by norm_num) (by norm_num) n)
  have : (digits : ℚ) * 10 ^ power < 2 ^ (-1075 : Int) := by
    calc (digits : ℚ) * 10 ^ power ≤ 2 ^ ((digits.log2 : Int) + 1) * 2 ^ power :=
          mul_le_mul few scale (by positivity) (by positivity)
      _ = 2 ^ ((digits.log2 : Int) + 1 + power) := (zpow_add₀ two_ne_zero _ _).symm
      _ < 2 ^ (-1075 : Int) := zpow_lt_zpow_right₀ (by norm_num) (by omega)
  exact absurd low this.not_ge

end

/-- A quotient is computed with a mantissa that has bits enough for it to be rounded. -/
theorem divCore_enough (some_ : 0 < digits) (positive : 0 < den) (shift : Nat)
    (exact_ : (shift : Int) = -min 0 (Format.binary64.targetExponent (totalExponent digits 0 - totalExponent den 0))) :
    -(shift : Int) ≤ Format.binary64.targetExponent (totalExponent (digits * 2 ^ shift / den) (-shift)) := by
  have below : ((digits * 2 ^ shift : Nat) : ℚ) / den * 2 ^ (-(shift : Int)) <
      2 ^ totalExponent (digits * 2 ^ shift / den) (-shift) := lt_totalExponent positive
  have same : ((digits * 2 ^ shift : Nat) : ℚ) / den * 2 ^ (-(shift : Int)) = digits / den := by
    push_cast
    rw [zpow_neg, zpow_natCast]
    field_simp
  have least : (2 : ℚ) ^ ((digits.log2 : Int) - (den.log2 + 1)) ≤ digits / den := by
    have numerator : 2 ^ digits.log2 ≤ digits := Nat.log2_self_le (Nat.pos_iff_ne_zero.1 some_)
    have denominator : den < 2 ^ (den.log2 + 1) := Nat.lt_log2_self
    rw [zpow_sub₀ two_ne_zero, zpow_natCast, zpow_add_one₀ two_ne_zero, zpow_natCast, ← pow_succ]
    exact div_le_div₀ (by positivity) (by exact_mod_cast numerator) (by exact_mod_cast positive)
      (by exact_mod_cast denominator.le)
  have order := (zpow_lt_zpow_iff_right₀ one_lt_two).1 (least.trans_lt (same ▸ below))
  rw [targetExponent_eq] at exact_ ⊢
  have left_ : totalExponent digits 0 = (digits.log2 : Int) + 1 + 0 := rfl
  have right_ : totalExponent den 0 = (den.log2 : Int) + 1 + 0 := rfl
  omega

/-- A decimal is read as the number that it rounds to. -/
theorem Binary.Rounds.ofScientific (rounds : value.Rounds (digits * 10 ^ power)) (canonical : value.Canonical) :
    UnpackedFloat.ofScientific Format.binary64 digits power = canonical.signed .positive := by
  have some_ : digits ≠ 0 := Nat.pos_iff_ne_zero.1 (rounds.digits_pos canonical)
  have large := rounds.power_le canonical
  have small := rounds.le_power canonical
  unfold UnpackedFloat.ofScientific
  rw [dif_neg some_, if_neg (by simp only [Int.reducePow]; omega), if_neg (by simp only [Int.reducePow]; omega)]
  by_cases up : 0 ≤ power
  · rw [if_pos up]
    obtain ⟨n, rfl⟩ : ∃ n : Nat, power = n := ⟨power.toNat, by omega⟩
    have scaled : value.Rounds ((digits * 2 ^ 53 * 10 ^ n : Nat) / (1 : Nat) * 2 ^ (-53 : Int)) := by
      convert rounds using 1
      push_cast
      rw [zpow_natCast]
      field_simp
      norm_num
    have enough : -53 ≤ Format.binary64.targetExponent (totalExponent (digits * 2 ^ 53 * 10 ^ n / 1) (-53)) := by
      have long : 53 ≤ (digits * 2 ^ 53 * 10 ^ n / 1).log2 := by
        rw [Nat.div_one, Nat.le_log2 (by positivity), mul_right_comm]
        exact Nat.le_mul_of_pos_left _ (by positivity)
      rw [targetExponent_eq, totalExponent]
      omega
    have rounded := scaled.roundWithAccuracy canonical Nat.one_pos .positive enough
    rw [Nat.div_one, Nat.mod_one, ← Nat.shiftLeft_eq] at rounded
    exact rounded
  · rw [if_neg up]
    obtain ⟨n, rfl⟩ : ∃ n : Nat, power = -n := ⟨(-power).toNat, by omega⟩
    obtain ⟨shift, exact_⟩ : ∃ shift : Nat, (shift : Int) = -min 0 (Format.binary64.targetExponent
        (totalExponent digits 0 - totalExponent (10 ^ n) 0)) :=
      ⟨_, Int.toNat_of_nonneg (neg_nonneg.2 (min_le_left _ _))⟩
    have scaled : value.Rounds ((digits * 2 ^ shift : Nat) / (10 ^ n : Nat) * 2 ^ (-shift : Int)) := by
      convert rounds using 1
      push_cast
      rw [zpow_neg, zpow_neg, zpow_natCast, zpow_natCast]
      field_simp
    have enough := divCore_enough (Nat.pos_iff_ne_zero.2 some_) (show 0 < 10 ^ n by positivity) shift exact_
    have rounded := scaled.roundWithAccuracy canonical (by positivity) .positive enough
    have core : divCore Format.binary64 digits 0 (10 ^ n) 0 = (digits * 2 ^ shift / 10 ^ n, -(shift : Int),
        accuracyOfFraction (digits * 2 ^ shift % 10 ^ n) (10 ^ n)) := by
      have target : min 0 (Format.binary64.targetExponent
          (totalExponent digits 0 - totalExponent (10 ^ n) 0)) = -(shift : Int) := by omega
      unfold divCore
      simp only [sub_self, target, sub_neg_eq_add, zero_add, Int.toNat_natCast, Nat.shiftLeft_eq]
    have size : (-(-(n : Int))).toNat = n := by omega
    unfold UnpackedFloat.div
    dsimp only
    rw [size, core]
    exact rounded

end

end Playhouse.Decimal
