import Mathlib.Tactic.LinearCombination
import Playhouse.Proofs.Decimal.Rounding

/-!
The shortest decimal of a number is one that rounds back to it. Seventeen digits are always enough,
so the search for the fewest digits ends with a candidate, and every candidate lies in the interval of
the numbers that round back.
-/
namespace Playhouse.Decimal
open List Nat Bool

variable {n : Nat} {grid : Int}

/-! ### Candidates -/

/-- The factor of the quarters, in the comparison of quarters with grid points as naturals. -/
def upScale (exponent grid : Int) : Nat :=
  (if exponent < 0 then 1 else twoTo exponent.toNat) * (if grid < 0 then tenTo (-grid).toNat else 1)

/-- The factor of the grid points. -/
def downScale (exponent grid : Int) : Nat :=
  (if exponent < 0 then twoTo (-exponent).toNat else 1) * (if grid < 0 then 1 else tenTo grid.toNat)

theorem downScale_pos (exponent grid : Int) : 0 < downScale exponent grid := by
  unfold downScale twoTo tenTo
  simp only [pow_eq]
  split_ifs <;> positivity

theorem scales_eq (exponent grid : Int) :
    (upScale exponent grid : ℚ) * 10 ^ grid = 2 ^ exponent * downScale exponent grid := by
  have cancel (base : ℚ) (nonzero : base ≠ 0) (e : Int) (negative : e < 0) : base ^ (-e).toNat * base ^ e = 1 := by
    rw [← zpow_natCast, Int.toNat_of_nonneg (by omega), ← zpow_add₀ nonzero, neg_add_cancel, zpow_zero]
  have natural (base : ℚ) (e : Int) (positive : ¬ e < 0) : base ^ e = base ^ e.toNat := by
    rw [← zpow_natCast, Int.toNat_of_nonneg (by omega)]
  have two := cancel 2 (by norm_num) exponent
  have ten := cancel 10 (by norm_num) grid
  simp only [upScale, downScale, twoTo, tenTo, pow_eq]
  split_ifs with low down down <;> push_cast
  · linear_combination ten down - two low
  · rw [natural 10 grid down]
    linear_combination -(10 ^ grid.toNat : ℚ) * two low
  · rw [natural 2 exponent low]
    linear_combination (2 ^ exponent.toNat : ℚ) * ten down
  · rw [natural 10 grid down, natural 2 exponent low]
    ring

/-- Scaled quarters and grid points compare as the numbers do. -/
theorem scaled_le_iff (exponent grid : Int) (quarter point : Nat) :
    (quarter * upScale exponent grid ≤ point * downScale exponent grid ↔
      (quarter : ℚ) * 2 ^ exponent ≤ point * 10 ^ grid) ∧
    (point * downScale exponent grid ≤ quarter * upScale exponent grid ↔
      (point : ℚ) * 10 ^ grid ≤ quarter * 2 ^ exponent) := by
  have scales := scales_eq exponent grid
  have down : (0 : ℚ) < downScale exponent grid := by exact_mod_cast downScale_pos exponent grid
  have ten : (0 : ℚ) < 10 ^ grid := by positivity
  have first : (quarter * upScale exponent grid : ℚ) * 10 ^ grid =
      quarter * 2 ^ exponent * downScale exponent grid := by
    linear_combination (quarter : ℚ) * scales
  have second : (point * downScale exponent grid : ℚ) * 10 ^ grid = point * 10 ^ grid * downScale exponent grid := by
    ring
  constructor
  all_goals
    rw [← mul_le_mul_iff_left₀ down, ← first, ← second, mul_le_mul_iff_left₀ ten]
    exact_mod_cast Iff.rfl

section
variable {value : Binary} {place : Int} {count : Nat}

/-- Whether a grid point is inside the interval, as the search for candidates decides it. -/
def inside (value : Binary) (grid : Int) (n : Nat) : Bool :=
  let exponent := value.exponent - 2
  let point := n * downScale exponent grid
  if value.mantissa % 2 == 0 then
    (quarters value).1 * upScale exponent grid ≤ point && point ≤ (quarters value).2.2 * upScale exponent grid
  else (quarters value).1 * upScale exponent grid < point && point < (quarters value).2.2 * upScale exponent grid

theorem rounds_of_inside (within : inside value grid n = true) : value.Rounds (n * 10 ^ grid) := by
  obtain ⟨low, low'⟩ := scaled_le_iff (value.exponent - 2) grid (quarters value).1 n
  obtain ⟨high', high⟩ := scaled_le_iff (value.exponent - 2) grid (quarters value).2.2 n
  unfold inside at within
  simp only [beq_iff_eq] at within
  split at within
  · rename_i even
    simp only [and_eq_true, decide_eq_true_eq] at within
    exact ⟨low.1 within.1, high.1 within.2, .inl even⟩
  · simp only [and_eq_true, decide_eq_true_eq] at within
    have above := lt_of_not_ge (mt low'.2 within.1.not_ge)
    have below := lt_of_not_ge (mt high'.2 within.2.not_ge)
    exact ⟨above.le, below.le, .inr ⟨above, below⟩⟩

/-- The grid point at or below the number. -/
def lowerPoint (value : Binary) (grid : Int) : Nat :=
  (quarters value).2.1 * upScale (value.exponent - 2) grid / downScale (value.exponent - 2) grid

/-- The candidate, if it is known which of the two grid points next to the number are inside. -/
def nearest (value : Binary) (grid : Int) : Bool → Bool → Option Nat
  | true, true =>
    let scale := (quarters value).2.1 * upScale (value.exponent - 2) grid
    let below := scale - lowerPoint value grid * downScale (value.exponent - 2) grid
    let above := (lowerPoint value grid + 1) * downScale (value.exponent - 2) grid - scale
    if below < above then some (lowerPoint value grid)
    else if above < below then some (lowerPoint value grid + 1)
    else some (if lowerPoint value grid % 2 == 0 then lowerPoint value grid else lowerPoint value grid + 1)
  | true, false => some (lowerPoint value grid)
  | false, true => some (lowerPoint value grid + 1)
  | false, false => none

theorem candidate?_eq_nearest (value : Binary) (place : Int) (count : Nat) :
    candidate? value place count = nearest value (place - count)
      (inside value (place - count) (lowerPoint value (place - count)))
      (inside value (place - count) (lowerPoint value (place - count) + 1)) := rfl

/-- A candidate is one of the two grid points next to the number, and inside the interval. -/
theorem candidate?_eq_none_or (value : Binary) (place : Int) (count : Nat) :
    (candidate? value place count = none ∧ inside value (place - count) (lowerPoint value (place - count)) = false ∧
      inside value (place - count) (lowerPoint value (place - count) + 1) = false) ∨
    ∃ n, candidate? value place count = some n ∧ inside value (place - count) n = true := by
  rw [candidate?_eq_nearest]
  generalize first : inside value (place - count) (lowerPoint value (place - count)) = one
  generalize second : inside value (place - count) (lowerPoint value (place - count) + 1) = two
  cases one with
  | true =>
    right
    cases two with
    | true =>
      simp only [nearest]
      split
      · exact ⟨_, rfl, first⟩
      · split
        · exact ⟨_, rfl, second⟩
        · split
          · exact ⟨_, rfl, first⟩
          · exact ⟨_, rfl, second⟩
    | false => exact ⟨_, rfl, first⟩
  | false =>
    cases two with
    | true => exact .inr ⟨_, rfl, second⟩
    | false => exact .inl ⟨rfl, rfl, rfl⟩

/-! ### Seventeen digits are enough -/

/-- The interval is wide enough for the grid of seventeen digits. -/
theorem quarters_wide (canonical : value.Canonical) :
    4 * value.mantissa < ((quarters value).2.2 - (quarters value).1) * 10 ^ 16 := by
  obtain ⟨positive, bits, -⟩ := canonical
  unfold quarters
  simp only [twoTo, fractionBits, pow_eq, and_eq_true, beq_iff_eq]
  split
  · rename_i narrow
    rw [narrow.1]
    norm_num
  · omega

theorem outside (without : inside value grid n = false) :
    (n : ℚ) * 10 ^ grid ≤ (quarters value).1 * 2 ^ (value.exponent - 2) ∨
      (quarters value).2.2 * 2 ^ (value.exponent - 2) ≤ (n : ℚ) * 10 ^ grid := by
  obtain ⟨low, low'⟩ := scaled_le_iff (value.exponent - 2) grid (quarters value).1 n
  obtain ⟨high', high⟩ := scaled_le_iff (value.exponent - 2) grid (quarters value).2.2 n
  rw [← low', ← high']
  unfold inside at without
  simp only [beq_iff_eq] at without
  split at without <;>
    simp only [and_eq_false_iff, decide_eq_false_iff_not, not_le, not_lt] at without <;> omega

theorem exists_candidate (canonical : value.Canonical)
    (reached : (10 : ℚ) ^ (place - 1) ≤ value.mantissa * 2 ^ value.exponent) :
    ∃ n, candidate? value place 17 = some n := by
  obtain ⟨-, first, second⟩ | ⟨n, found, -⟩ := candidate?_eq_none_or value place 17
  · exfalso
    generalize grid_eq : place - ((17 : Nat) : Int) = grid at first second
    generalize lower_eq : lowerPoint value grid = lower at first second
    have unit : (0 : ℚ) < 2 ^ (value.exponent - 2) := by positivity
    have middle : (quarters value).2.1 = 4 * value.mantissa := rfl
    have down := downScale_pos (value.exponent - 2) grid
    have below : (lower : ℚ) * 10 ^ grid ≤ (4 * value.mantissa : Nat) * 2 ^ (value.exponent - 2) := by
      rw [← (scaled_le_iff _ grid _ lower).2, ← lower_eq, ← middle]
      exact div_mul_le_self _ _
    have above : ((4 * value.mantissa : Nat) : ℚ) * 2 ^ (value.exponent - 2) < (lower + 1 : Nat) * 10 ^ grid := by
      rw [← not_le, ← (scaled_le_iff _ grid _ (lower + 1)).2, ← lower_eq, ← middle, not_le]
      exact lt_mul_of_div_lt (lt_succ_self _) down
    have order : (quarters value).1 ≤ 4 * value.mantissa ∧ 4 * value.mantissa < (quarters value).2.2 := by
      unfold quarters
      simp only
      omega
    have low : (lower : ℚ) * 10 ^ grid ≤ (quarters value).1 * 2 ^ (value.exponent - 2) := by
      refine (outside first).resolve_right fun high => ?_
      have : ((4 * value.mantissa : Nat) : ℚ) < (quarters value).2.2 := by exact_mod_cast order.2
      have := mul_lt_mul_of_pos_right this unit
      linarith
    have high : (quarters value).2.2 * 2 ^ (value.exponent - 2) ≤ ((lower + 1 : Nat) : ℚ) * 10 ^ grid := by
      refine (outside second).resolve_left fun low => ?_
      have : ((quarters value).1 : ℚ) ≤ (4 * value.mantissa : Nat) := by exact_mod_cast order.1
      have := mul_le_mul_of_nonneg_right this unit.le
      linarith
    -- the step of the grid is at least as wide as the interval, which seventeen digits do not allow
    have step : ((quarters value).2.2 - (quarters value).1 : ℚ) * 2 ^ (value.exponent - 2) ≤ 10 ^ grid := by
      push_cast at high
      linarith
    have fine : (10 : ℚ) ^ grid * 10 ^ 16 ≤ (4 * value.mantissa) * 2 ^ (value.exponent - 2) := by
      have power : (10 : ℚ) ^ grid * 10 ^ 16 = 10 ^ (place - 1) := by
        rw [← grid_eq, ← zpow_natCast, ← zpow_add₀ (by norm_num)]
        congr 1
        push_cast
        ring
      have quarter : (2 : ℚ) ^ value.exponent = 2 ^ (value.exponent - 2) * 4 := by
        rw [show value.exponent = value.exponent - 2 + 2 by ring, zpow_add₀ two_ne_zero]
        norm_num
      rw [power]
      rw [quarter] at reached
      linarith
    have wide : (4 * value.mantissa : ℚ) < ((quarters value).2.2 - (quarters value).1) * 10 ^ 16 := by
      have natural := quarters_wide canonical
      have : ((4 * value.mantissa : Nat) : ℚ) < (((quarters value).2.2 - (quarters value).1) * 10 ^ 16 : Nat) := by
        exact_mod_cast natural
      rw [cast_mul _ (10 ^ 16), cast_sub (by omega)] at this
      exact_mod_cast this
    have := mul_lt_mul_of_pos_right wide unit
    linarith
  · exact ⟨n, found⟩

end

/-! ### The place of the first digit -/

theorem length_natDigits (n : Nat) : (natDigits n).length = (toDigits 10 n).length := length_map ..

theorem lt_pow_length (n : Nat) : n < 10 ^ (natDigits n).length := by
  rw [length_natDigits]
  exact (length_toDigits_le_iff (by norm_num) length_toDigits_pos).1 (le_refl _)

theorem pow_length_le (positive : 0 < n) : 10 ^ ((natDigits n).length - 1) ≤ n := by
  rw [length_natDigits]
  rcases Nat.eq_zero_or_pos ((toDigits 10 n).length - 1) with one | more
  · rw [one, pow_zero]
    exact positive
  · by_contra less
    have := (length_toDigits_le_iff (by norm_num) more).2 (not_le.1 less)
    omega

theorem leadingPlace_reached {num den : Nat} (some_ : 0 < num) (positive : 0 < den) :
    (10 : ℚ) ^ (leadingPlace num den - 1) ≤ num / den := by
  have below : (0 : ℚ) < den := by exact_mod_cast positive
  have digits : 0 < (natDigits num).length := by
    rw [length_natDigits]
    exact length_toDigits_pos
  unfold leadingPlace
  simp only [tenTo, pow_eq, ge_iff_le]
  generalize shift_eq : ((natDigits den).length : Int) - (natDigits num).length = shift
  rw [le_div_iff₀ below]
  have short : (10 : ℚ) ^ (-shift - 1) * den ≤ num := by
    have most : (den : ℚ) ≤ 10 ^ (natDigits den).length := by exact_mod_cast (lt_pow_length den).le
    have least : (10 : ℚ) ^ ((natDigits num).length - 1) ≤ num := by exact_mod_cast pow_length_le some_
    have power : (10 : ℚ) ^ (-shift - 1) * 10 ^ (natDigits den).length = 10 ^ ((natDigits num).length - 1) := by
      rw [← zpow_natCast, ← zpow_natCast, ← zpow_add₀ (by norm_num)]
      congr 1
      omega
    calc (10 : ℚ) ^ (-shift - 1) * den ≤ 10 ^ (-shift - 1) * 10 ^ (natDigits den).length :=
          mul_le_mul_of_nonneg_left most (by positivity)
      _ ≤ num := by rw [power]; exact least
  by_cases negative : shift < 0
  · simp only [if_pos negative]
    split
    · rename_i reaches
      obtain ⟨n, rfl⟩ : ∃ n : Nat, shift = -n := ⟨(-shift).toNat, by omega⟩
      rw [neg_neg, Int.toNat_natCast] at reaches
      rw [show 1 - -(n : Int) - 1 = n by ring, zpow_natCast, mul_comm]
      exact_mod_cast reaches
    · exact short
  · simp only [if_neg negative]
    split
    · rename_i reaches
      obtain ⟨n, rfl⟩ : ∃ n : Nat, shift = n := ⟨shift.toNat, by omega⟩
      rw [Int.toNat_natCast] at reaches
      rw [show 1 - (n : Int) - 1 = -n by ring, zpow_neg, zpow_natCast, inv_mul_le_iff₀ (by positivity), mul_comm]
      exact_mod_cast reaches
    · exact short

/-! ### The digits -/

theorem natDigits_lt {digit : Nat} (member : digit ∈ natDigits n) : digit < 10 := by
  obtain ⟨c, within, rfl⟩ := mem_map.1 member
  have := isDigit_of_mem_toDigits (by norm_num) (by norm_num) within
  simp only [Char.isDigit, and_eq_true, decide_eq_true_eq, ge_iff_le, UInt32.le_iff_toNat_le] at this
  have same : c.val.toNat = c.toNat := rfl
  have zero : '0'.val.toNat = 48 := rfl
  have nine : '9'.val.toNat = 57 := rfl
  omega

/-- The number that decimal digits write. -/
def wholeOf (digits : List Nat) : Nat := digits.foldl (fun n digit => n * 10 + digit) 0

theorem wholeOf_append (front back : List Nat) :
    wholeOf (front ++ back) = wholeOf front * 10 ^ back.length + wholeOf back := by
  have shifted (start : Nat) : back.foldl (fun n digit => n * 10 + digit) start =
      start * 10 ^ back.length + wholeOf back := by
    unfold wholeOf
    induction back generalizing start with
    | nil => simp
    | cons digit back ih =>
      simp only [foldl_cons, length_cons, zero_mul, zero_add]
      rw [ih, ih digit, pow_succ]
      ring
  rw [wholeOf, foldl_append, shifted]
  rfl

theorem wholeOf_natDigits (n : Nat) : wholeOf (natDigits n) = n := by
  have read := ofDigitChars_ten_toDigits (n := n)
  rw [ofDigitChars_eq_foldl] at read
  simp only [mul_comm 10] at read
  unfold wholeOf natDigits
  rw [foldl_map]
  exact read

theorem wholeOf_lt {digits : List Nat} (small : ∀ digit ∈ digits, digit < 10) :
    wholeOf digits < 10 ^ digits.length := by
  induction digits with
  | nil => exact Nat.one_pos
  | cons digit digits ih =>
    have first := small digit mem_cons_self
    have rest := ih (forall_mem_cons.1 small).2
    have one : wholeOf [digit] = digit := by simp [wholeOf]
    rw [← singleton_append, wholeOf_append, one, singleton_append, length_cons, pow_succ]
    have := Nat.mul_le_mul_right (10 ^ digits.length) (show digit ≤ 9 by omega)
    omega

theorem wholeOf_replicate (n : Nat) : wholeOf (replicate n 0) = 0 := by
  induction n with
  | zero => rfl
  | succ n ih =>
    rw [replicate_succ', wholeOf_append, ih]
    rfl

theorem dropZeros_append (digits : List Nat) : ∃ zeros, digits = dropZeros digits ++ replicate zeros 0 := by
  refine ⟨(digits.reverse.takeWhile (· == 0)).length, ?_⟩
  have zeros : digits.reverse.takeWhile (· == 0) = replicate (digits.reverse.takeWhile (· == 0)).length 0 := by
    refine eq_replicate_iff.2 ⟨rfl, fun digit member => ?_⟩
    simpa using all_eq_true.1 all_takeWhile digit member
  unfold dropZeros
  calc digits = digits.reverse.reverse := (reverse_reverse digits).symm
    _ = (digits.reverse.takeWhile (· == 0) ++ digits.reverse.dropWhile (· == 0)).reverse := by
      rw [takeWhile_append_dropWhile]
    _ = _ := by
      rw [reverse_append, zeros, reverse_replicate, length_replicate]

/-- Decimal digits, the first of them no zero, that write a number. -/
structure Digits.Writes (d : Digits) (x : ℚ) : Prop where
  digit : ∀ n ∈ d.digits, n < 10
  leading : ∃ first rest, d.digits = first :: rest ∧ 0 < first
  value : (wholeOf d.digits : ℚ) * 10 ^ (d.point - d.digits.length) = x

theorem natDigits_leading (positive : 0 < n) : ∃ first rest, natDigits n = first :: rest ∧ 0 < first := by
  have bound := pow_length_le positive
  have total := wholeOf_natDigits n
  cases digits : natDigits n with
  | nil =>
    have := length_natDigits n
    rw [digits] at this
    exact absurd this.symm length_toDigits_pos.ne'
  | cons first rest =>
    refine ⟨first, rest, rfl, Nat.pos_of_ne_zero ?_⟩
    rintro rfl
    have below : wholeOf rest < 10 ^ rest.length :=
      wholeOf_lt fun digit member => natDigits_lt (digits ▸ mem_cons_of_mem _ member)
    rw [digits, length_cons, Nat.add_sub_cancel] at bound
    have same : wholeOf (natDigits n) = wholeOf rest := by rw [digits]; rfl
    omega

/-- The digits of a positive number and a place for them, without the zeros at the end. -/
theorem writes_dropZeros (positive : 0 < n) (place : Int) (count : Nat) :
    Digits.Writes ⟨dropZeros (natDigits n), place + ((natDigits n).length - count : Int)⟩
      (n * 10 ^ (place - count)) := by
  obtain ⟨zeros, split_⟩ := dropZeros_append (natDigits n)
  obtain ⟨first, rest, digits, some_⟩ := natDigits_leading positive
  have total : wholeOf (dropZeros (natDigits n)) * 10 ^ zeros = n := by
    have := wholeOf_natDigits n
    rw [split_, wholeOf_append, wholeOf_replicate, length_replicate] at this
    exact this
  have size : (natDigits n).length = (dropZeros (natDigits n)).length + zeros := by
    have := congrArg length split_
    rwa [length_append, length_replicate] at this
  refine ⟨fun digit member => ?_, ?_, ?_⟩
  · refine natDigits_lt (n := n) ?_
    rw [split_]
    exact mem_append_left _ member
  · cases kept : dropZeros (natDigits n) with
    | nil =>
      rw [kept] at total
      change 0 * _ = n at total
      omega
    | cons digit more =>
      rw [kept, digits, cons_append] at split_
      injection split_ with same
      exact ⟨digit, more, rfl, same ▸ some_⟩
  · have power : (10 : ℚ) ^ (place + ((natDigits n).length - count : Int) - (dropZeros (natDigits n)).length) =
        10 ^ zeros * 10 ^ (place - count) := by
      rw [← zpow_natCast, ← zpow_add₀ (by norm_num), size]
      congr 1
      push_cast
      ring
    have whole : (n : ℚ) = wholeOf (dropZeros (natDigits n)) * 10 ^ zeros := by exact_mod_cast total.symm
    change (wholeOf (dropZeros (natDigits n)) : ℚ) * 10 ^ (place + ((natDigits n).length - count : Int) -
      (dropZeros (natDigits n)).length) = _
    rw [power, whole]
    ring

/-- The shortest decimal rounds back to its number. -/
theorem shortest_writes {value : Binary} (canonical : value.Canonical) :
    ∃ x, (shortest value).Writes x ∧ value.Rounds x := by
  obtain ⟨num, den, num_eq, den_eq, some_, positive, quotient⟩ : ∃ num den : Nat,
      num = (if value.exponent < 0 then value.mantissa else value.mantissa * twoTo value.exponent.toNat) ∧
      den = (if value.exponent < 0 then twoTo (-value.exponent).toNat else 1) ∧ 0 < num ∧ 0 < den ∧
      (num : ℚ) / den = value.mantissa * 2 ^ value.exponent := by
    have positive := canonical.positive
    refine ⟨_, _, rfl, rfl, ?_⟩
    simp only [twoTo, pow_eq]
    by_cases negative : value.exponent < 0
    · simp only [if_pos negative]
      refine ⟨positive, by positivity, ?_⟩
      push_cast
      rw [← zpow_natCast, Int.toNat_of_nonneg (by omega), zpow_neg, div_inv_eq_mul]
    · simp only [if_neg negative]
      refine ⟨by positivity, Nat.one_pos, ?_⟩
      push_cast
      rw [← zpow_natCast, Int.toNat_of_nonneg (by omega), div_one]
  have reached := leadingPlace_reached some_ positive
  rw [quotient] at reached
  obtain ⟨last, seventeen⟩ := exists_candidate canonical reached
  unfold shortest
  simp only [beq_iff_eq, if_neg (Nat.pos_iff_ne_zero.1 canonical.positive), ← num_eq, ← den_eq]
  generalize leadingPlace num den = place at seventeen
  split
  · rename_i none_
    have := findSome?_eq_none_iff.1 none_ 16 (by simp)
    rw [seventeen] at this
    cases this
  · rename_i count n found
    obtain ⟨k, -, candidate⟩ := exists_of_findSome?_eq_some found
    obtain ⟨n, candidate, same⟩ := Option.map_eq_some_iff.1 candidate
    cases same
    obtain ⟨none_, -⟩ | ⟨m, some_, within⟩ := candidate?_eq_none_or value place (k + 1)
    · rw [candidate] at none_
      cases none_
    · rw [candidate] at some_
      cases some_
      have rounds := rounds_of_inside within
      exact ⟨_, writes_dropZeros (rounds.digits_pos canonical) place (k + 1), rounds⟩

end Playhouse.Decimal
