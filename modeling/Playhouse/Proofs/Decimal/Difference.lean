import Playhouse.Data.Number
import Playhouse.Proofs.Decimal.Bits

/-!
Differences of floating-point numbers. A finite number has an exact value; a number that has the
canonical form is rounded to itself, so the difference of two numbers is exact where it has that form,
which it has if it is small and they are not.
-/
namespace Playhouse.Decimal
open Float.Model Float Nat Binary
open Float.Model.UnpackedFloat

variable {exponent : Int} {n : Nat}

/-! ### Values -/

/-- The rational number that a binary one stands for. -/
def Binary.toRat (value : Binary) : ℚ := value.mantissa * 2 ^ value.exponent

/-- The exact value of a number that is finite. -/
def valueOf? (x : Float) : Option ℚ :=
  match classify x.toBits with
  | (negative, .finite value) => some (if negative then -value.toRat else value.toRat)
  | _ => none

section
variable {value : Binary}

theorem Binary.Canonical.rounds (canonical : value.Canonical) : value.Rounds value.toRat := by
  have unit : (0 : ℚ) < 2 ^ (value.exponent - 2) := by positivity
  have quarter : value.toRat = (4 * value.mantissa : ℚ) * 2 ^ (value.exponent - 2) := by
    rw [toRat, zpow_sub₀ two_ne_zero]
    ring
  have low : ((quarters value).1 : ℚ) < 4 * value.mantissa := by
    have below : (quarters value).1 < 4 * value.mantissa := by
      have positive := canonical.positive
      unfold quarters
      simp only
      split <;> omega
    exact_mod_cast below
  have high : (4 * value.mantissa : ℚ) < (quarters value).2.2 := by
    have above : 4 * value.mantissa < (quarters value).2.2 := Nat.lt_add_of_pos_right (by norm_num)
    exact_mod_cast above
  rw [quarter]
  have strict_low := mul_lt_mul_of_pos_right low unit
  have strict_high := mul_lt_mul_of_pos_right high unit
  exact ⟨strict_low.le, strict_high.le, .inr ⟨strict_low, strict_high⟩⟩

theorem Binary.Canonical.toRat_pos (canonical : value.Canonical) : 0 < value.toRat := by
  have positive : (0 : ℚ) < value.mantissa := by exact_mod_cast canonical.positive
  exact mul_pos positive (by positivity)

/-- A number of at most 53 bits that is neither too large nor too small has the canonical form. -/
theorem exists_canonical (exponent : Int) (positive : 0 < n) (bits : n < 2 ^ 53) (least : -1022 ≤ exponent)
    (most : exponent ≤ 971) : ∃ value : Binary, value.Canonical ∧ value.toRat = n * 2 ^ exponent := by
  have top : n.log2 < 53 := (log2_lt (Nat.pos_iff_ne_zero.1 positive)).2 bits
  have shifted : 2 ^ 52 ≤ n * 2 ^ (52 - n.log2) := by
    calc 2 ^ 52 = 2 ^ n.log2 * 2 ^ (52 - n.log2) := by rw [← Nat.pow_add]; congr 1; omega
      _ ≤ n * 2 ^ (52 - n.log2) := Nat.mul_le_mul_right _ (log2_self_le (Nat.pos_iff_ne_zero.1 positive))
  have below : n * 2 ^ (52 - n.log2) < 2 ^ 53 := by
    calc n * 2 ^ (52 - n.log2) < 2 ^ (n.log2 + 1) * 2 ^ (52 - n.log2) :=
          Nat.mul_lt_mul_of_pos_right lt_log2_self (Nat.two_pow_pos _)
      _ = 2 ^ 53 := by rw [← Nat.pow_add]; congr 1; omega
  refine ⟨⟨n * 2 ^ (52 - n.log2), exponent - (52 - n.log2 : Nat)⟩,
    ⟨Nat.mul_pos positive (Nat.two_pow_pos _), below, ?_, ?_, .inl shifted⟩, ?_⟩
  · simp only
    omega
  · simp only
    omega
  · simp only [toRat, cast_mul, cast_pow, cast_ofNat]
    rw [zpow_sub₀ two_ne_zero, zpow_natCast]
    field_simp

/-! ### Packed numbers -/

theorem unpack_notANumber : (pack .notANumber).unpack = .notANumber := rfl

theorem unpack_infinity (sign : Sign) : (pack (.infinity sign)).unpack = .infinity sign := by
  cases sign <;> rfl

theorem unpack_zero (sign : Sign) : (pack (.zero sign)).unpack = .zero sign := by
  cases sign <;> rfl

theorem unpack_inj {u v : UnpackedFloat} (same : ofModel (pack u) = ofModel (pack v)) :
    (pack u).unpack = (pack v).unpack := by
  rw [ofModel.inj same]

theorem classify_pack (canonical : value.Canonical) (negative : Bool) :
    classify (ofModel (pack (canonical.signed (signOf negative)))).toBits = (negative, .finite value) := by
  generalize packed : ofModel (pack (canonical.signed (signOf negative))) = x
  rcases class_ : classify x.toBits with ⟨sign, _ | _ | other⟩
  · have same := unpack_inj (packed.trans (classify_nan class_))
    rw [unpack_pack canonical, unpack_notANumber] at same
    cases same
  · have same := unpack_inj (packed.trans (classify_infinite class_))
    rw [unpack_pack canonical, unpack_infinity] at same
    cases same
  · rcases classify_finite class_ with ⟨-, zero⟩ | ⟨canonical_other, finite⟩
    · have same := unpack_inj (packed.trans zero)
      rw [unpack_pack canonical, unpack_zero] at same
      cases same
    · have same := unpack_inj (packed.trans finite)
      rw [unpack_pack canonical, unpack_pack canonical_other] at same
      injection same with signs mantissas exponents
      obtain ⟨mantissa, exponent⟩ := value
      obtain ⟨mantissa_other, exponent_other⟩ := other
      cases mantissas
      cases exponents
      cases sign <;> cases negative <;> first | rfl | cases signs

theorem valueOf?_pack (canonical : value.Canonical) :
    valueOf? (ofModel (pack (canonical.signed .positive))) = some value.toRat := by
  have class_ : classify (ofModel (pack (canonical.signed .positive))).toBits =
      (false, .finite value) := classify_pack canonical false
  rw [valueOf?, class_]
  rfl

theorem valueOf?_zero : valueOf? (ofModel (pack (.zero .positive))) = some 0 := by
  have class_ : classify (ofModel (pack (.zero .positive))).toBits = (false, .finite ⟨0, -1074⟩) := by decide
  rw [valueOf?, class_]
  simp [toRat]

theorem exists_pack {x : Float} {a : ℚ} (holds : valueOf? x = some a) (positive : 0 < a) :
    ∃ (value : Binary) (canonical : value.Canonical), value.toRat = a ∧
      x = ofModel (pack (canonical.signed .positive)) := by
  rcases class_ : classify x.toBits with ⟨negative, _ | _ | value⟩ <;> rw [valueOf?, class_] at holds
  · cases holds
  · cases holds
  · cases holds
    have nonneg : 0 ≤ value.toRat := by unfold toRat; positivity
    cases negative with
    | true =>
      rw [if_pos rfl] at positive
      linarith
    | false =>
      rcases classify_finite class_ with ⟨none_, -⟩ | ⟨canonical, packed⟩
      · rw [if_neg Bool.false_ne_true, toRat, none_, cast_zero, zero_mul] at positive
        exact absurd positive (lt_irrefl 0)
      · exact ⟨value, canonical, rfl, packed⟩

/-! ### Exact differences -/

theorem log2_mul_two_pow (positive : 0 < n) (shift : Nat) : (n * 2 ^ shift).log2 = n.log2 + shift := by
  have some_ : n ≠ 0 := Nat.pos_iff_ne_zero.1 positive
  rw [log2_eq_iff (Nat.pos_iff_ne_zero.1 (Nat.mul_pos positive (Nat.two_pow_pos shift)))]
  obtain ⟨low, high⟩ := (log2_eq_iff some_).1 rfl
  constructor
  · rw [Nat.pow_add]
    exact Nat.mul_le_mul_right _ low
  · rw [Nat.add_right_comm, Nat.pow_add]
    exact Nat.mul_lt_mul_of_pos_right high (Nat.two_pow_pos shift)

theorem decreaseExponent_value (n : Nat) (exponent target : Int) :
    ((decreaseExponent n exponent target).1 : ℚ) * 2 ^ (decreaseExponent n exponent target).2 = n * 2 ^ exponent := by
  simp only [decreaseExponent, shiftLeft_eq, cast_mul, cast_pow, cast_ofNat]
  rw [zpow_sub₀ two_ne_zero, zpow_natCast]
  field_simp

/-- A number at the exponent that rounding starts from. -/
def lowered (n : Nat) (exponent : Int) : Nat × Int :=
  decreaseExponent n exponent (Format.binary64.targetExponent (totalExponent n exponent))

theorem round_eq (canonical : value.Canonical) (same : (n : ℚ) * 2 ^ exponent = value.toRat) :
    UnpackedFloat.round Format.binary64 .positive n exponent = canonical.signed .positive := by
  have positive : 0 < n := by
    rw [Nat.pos_iff_ne_zero]
    rintro rfl
    have := canonical.toRat_pos
    rw [← same, cast_zero, zero_mul] at this
    exact lt_irrefl 0 this
  -- the exponent is lowered first, so that rounding can only raise it
  have lowers : UnpackedFloat.round Format.binary64 .positive n exponent =
      roundWithAccuracy Format.binary64 .positive (lowered n exponent).1 (lowered n exponent).2 .exact := rfl
  have kept : ((lowered n exponent).1 : ℚ) * 2 ^ (lowered n exponent).2 = n * 2 ^ exponent :=
    decreaseExponent_value n exponent _
  have enough : (lowered n exponent).2 ≤
      Format.binary64.targetExponent (totalExponent (lowered n exponent).1 (lowered n exponent).2) := by
    simp only [lowered, decreaseExponent, shiftLeft_eq, totalExponent, log2_mul_two_pow positive, targetExponent_eq]
    omega
  rw [lowers]
  generalize lowered n exponent = start at *
  obtain ⟨mantissa, lower⟩ := start
  have rounds : value.Rounds ((mantissa : ℚ) / (1 : Nat) * 2 ^ lower) := by
    rw [cast_one, div_one, kept, same]
    exact canonical.rounds
  have rounded := rounds.roundWithAccuracy canonical Nat.one_pos .positive (by rwa [Nat.div_one])
  rwa [Nat.div_one, mod_one] at rounded

/-- The unit in which numbers from 32 on are counted. -/
theorem Binary.Canonical.exponent_ge (canonical : value.Canonical) (far : 32 ≤ value.toRat) : -47 ≤ value.exponent := by
  by_contra low
  have mantissa : (value.mantissa : ℚ) < 2 ^ 53 := by exact_mod_cast canonical.bits
  have unit : (2 : ℚ) ^ value.exponent ≤ 2 ^ (-48 : Int) := zpow_le_zpow_right₀ one_le_two (by omega)
  have small : value.toRat < 2 ^ 53 * 2 ^ (-48 : Int) :=
    lt_of_lt_of_le (mul_lt_mul_of_pos_right mantissa (by positivity)) (mul_le_mul_of_nonneg_left unit (by positivity))
  norm_num at small
  linarith

/-- The mantissa at a lower exponent. -/
def Binary.mantissaAt (value : Binary) (exponent : Int) : Nat :=
  (decreaseExponent value.mantissa value.exponent exponent).1

theorem Binary.mantissaAt_mul (le : exponent ≤ value.exponent) :
    (value.mantissaAt exponent : ℚ) * 2 ^ exponent = value.toRat := by
  have lowered : (decreaseExponent value.mantissa value.exponent exponent).2 = exponent := by
    simp only [decreaseExponent]
    omega
  have kept := decreaseExponent_value value.mantissa value.exponent exponent
  rwa [lowered] at kept

theorem sub_pack {other : Binary} (canonical : value.Canonical) (canonical_other : other.Canonical)
    (difference : value.mantissaAt (min value.exponent other.exponent) =
      other.mantissaAt (min value.exponent other.exponent) + n) :
    ofModel (pack (canonical.signed .positive)) - ofModel (pack (canonical_other.signed .positive)) =
      ofModel (pack (normalize Format.binary64 n (min value.exponent other.exponent) .positive)) := by
  have subtracts (u v : UnpackedFloat) : ofModel (pack u) - ofModel (pack v) =
      ofModel (pack (UnpackedFloat.sub Format.binary64 (pack u).unpack (pack v).unpack)) := rfl
  have aligned : UnpackedFloat.sub Format.binary64 (canonical.signed .positive) (canonical_other.signed .positive) =
      normalize Format.binary64 (value.mantissaAt (min value.exponent other.exponent) -
        other.mantissaAt (min value.exponent other.exponent) : Int) (min value.exponent other.exponent) .positive := rfl
  rw [subtracts, unpack_pack canonical, unpack_pack canonical_other, aligned, difference, cast_add, add_sub_cancel_left]

/-- A number below 64 that is counted in the unit of 32 is not rounded. -/
theorem valueOf?_normalize (least : -47 ≤ exponent) (near : (n : ℚ) * 2 ^ exponent < 64) :
    valueOf? (ofModel (pack (normalize Format.binary64 n exponent .positive))) = some ((n : ℚ) * 2 ^ exponent) := by
  rcases Nat.eq_zero_or_pos n with rfl | some_
  · have none_ : normalize Format.binary64 (0 : Nat) exponent .positive = .zero .positive := rfl
    rw [none_, valueOf?_zero, cast_zero, zero_mul]
  · have scaled : (n : ℚ) * 2 ^ exponent = (n * 2 ^ (exponent + 47).toNat : Nat) * 2 ^ (-47 : Int) := by
      rw [cast_mul, cast_pow, cast_ofNat, mul_assoc, ← zpow_natCast, ← zpow_add₀ two_ne_zero]
      congr 2
      omega
    have bits : n * 2 ^ (exponent + 47).toNat < 2 ^ 53 := by
      have above : ((n * 2 ^ (exponent + 47).toNat : Nat) : ℚ) * 2 ^ (-47 : Int) < (2 ^ 53 : Nat) * 2 ^ (-47 : Int) := by
        rw [← scaled]
        refine near.trans_eq ?_
        norm_num
      exact_mod_cast lt_of_mul_lt_mul_right above (by positivity)
    obtain ⟨value, canonical, same⟩ := exists_canonical (-47) (Nat.mul_pos some_ (Nat.two_pow_pos _)) bits
      (by norm_num) (by norm_num)
    have order : compare (n : Int) 0 = .gt := by
      rw [Int.compare_eq_gt]
      omega
    simp only [UnpackedFloat.normalize, order, Int.toNat_natCast]
    rw [round_eq canonical (scaled.trans same.symm), valueOf?_pack canonical, same, scaled]

/-- The difference of two numbers is exact if it is below 64 and they are not below 32. -/
theorem valueOf?_sub {x y : Float} {a b : ℚ} (first : valueOf? x = some a) (second : valueOf? y = some b)
    (far : 32 ≤ b) (le : b ≤ a) (near : a - b < 64) : valueOf? (x - y) = some (a - b) := by
  obtain ⟨value, canonical, rfl, rfl⟩ := exists_pack first (by linarith)
  obtain ⟨other, canonical_other, rfl, rfl⟩ := exists_pack second (by linarith)
  have least : -47 ≤ min value.exponent other.exponent :=
    le_min (canonical.exponent_ge (far.trans le)) (canonical_other.exponent_ge far)
  have kept := value.mantissaAt_mul (min_le_left value.exponent other.exponent)
  have kept_other := other.mantissaAt_mul (min_le_right value.exponent other.exponent)
  obtain ⟨n, difference⟩ : ∃ n, value.mantissaAt (min value.exponent other.exponent) =
      other.mantissaAt (min value.exponent other.exponent) + n := by
    refine Nat.exists_eq_add_of_le ?_
    rw [← kept, ← kept_other] at le
    exact_mod_cast le_of_mul_le_mul_right le (by positivity)
  have exact_ : value.toRat - other.toRat = n * 2 ^ min value.exponent other.exponent := by
    rw [← kept, ← kept_other, difference]
    push_cast
    ring
  rw [exact_] at near ⊢
  rw [sub_pack canonical canonical_other difference, valueOf?_normalize least near]

end

end Playhouse.Decimal
