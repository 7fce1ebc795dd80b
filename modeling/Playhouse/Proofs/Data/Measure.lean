import Playhouse.Proofs.Data.Fields
import Playhouse.Proofs.Decimal.Difference

/-!
What numbers measure. An integer measures itself and a float the rational number that it holds, with the infinite
floats at both ends of all of them; a float that is no number measures nothing. All comparisons, of floats and of
integers with floats, compare these measures: numbers are equal if they measure the same, and ordered as what they
measure. So equality is symmetric and transitive on all that can be keys.
-/
namespace Playhouse
open Decimal Nat Option Number List Float
open Float.Model (UnpackedFloat)
open Float.Model.UnpackedFloat (Sign)

/-! ### Canonical numbers -/

theorem Decimal.Binary.Canonical.lt_of_exponent_lt {value other : Binary} (canonical : value.Canonical)
    (canonical_other : other.Canonical) (less : value.exponent < other.exponent) : value.toRat < other.toRat := by
  -- the number with the larger exponent has all its bits
  have full : 2 ^ 52 ≤ other.mantissa := canonical_other.full.resolve_right (by have := canonical.least; omega)
  have bits : (value.mantissa : ℚ) < 2 ^ 53 := by exact_mod_cast canonical.bits
  have full_rat : (2 : ℚ) ^ 52 ≤ other.mantissa := by exact_mod_cast full
  calc value.toRat < 2 ^ 53 * 2 ^ value.exponent := mul_lt_mul_of_pos_right bits (by positivity)
    _ = 2 ^ 52 * 2 ^ (value.exponent + 1) := by rw [zpow_add_one₀ two_ne_zero]; ring
    _ ≤ other.mantissa * 2 ^ other.exponent :=
        mul_le_mul full_rat (zpow_le_zpow_right₀ one_le_two (by omega)) (by positivity) (by positivity)

/-- Of two canonical numbers the one with the larger exponent is larger, and with one exponent the one with the larger
mantissa. -/
theorem Decimal.Binary.Canonical.compare_eq {value other : Binary} (canonical : value.Canonical)
    (canonical_other : other.Canonical) :
    (compare value.exponent other.exponent).then (compare value.mantissa other.mantissa) =
      cmp value.toRat other.toRat := by
  rcases lt_trichotomy value.exponent other.exponent with less | same | greater
  · rw [compare_lt_iff_lt.mpr less, (canonical.lt_of_exponent_lt canonical_other less).cmp_eq_lt]
    rfl
  · have unit : (0 : ℚ) < 2 ^ other.exponent := by positivity
    rw [compare_eq_iff_eq.mpr same, Binary.toRat, Binary.toRat, same, cmp_mul_pos_right unit,
      strictMono_cast.cmp_map_eq, cmp_eq_compare]
    rfl
  · rw [compare_gt_iff_gt.mpr greater, (canonical_other.lt_of_exponent_lt canonical greater).cmp_eq_gt]
    rfl

namespace Number

/-! ### Measures -/

/-- What a number measures: a rational number, or more than all of them on one side. -/
inductive Measure where
  | rational (q : ℚ)
  | beyond (negative : Bool)

/-- Where a measure stands among all measures. -/
def Measure.rank : Measure → WithBot (WithTop ℚ)
  | rational q => ((q : WithTop ℚ) : WithBot (WithTop ℚ))
  | beyond true => ⊥
  | beyond false => ⊤

theorem cmp_rational (a b : ℚ) : cmp (Measure.rational a).rank (Measure.rational b).rank = cmp a b :=
  (WithBot.coe_strictMono.comp WithTop.coe_strictMono).cmp_map_eq a b

theorem lowest_lt (q : ℚ) : (Measure.beyond true).rank < (Measure.rational q).rank := WithBot.bot_lt_coe _

theorem lt_highest (q : ℚ) : (Measure.rational q).rank < (Measure.beyond false).rank :=
  WithBot.coe_lt_coe.mpr (WithTop.coe_lt_top q)

theorem lowest_lt_highest : (Measure.beyond true).rank < (Measure.beyond false).rank := bot_lt_top

/-- The measure of a number; a float that is no number has none. -/
def measure? : Number → Option Measure
  | int n => some (.rational n)
  | float x =>
    match classify x.toBits with
    | (_, .nan) => none
    | (negative, .infinite) => some (.beyond negative)
    | (negative, .finite value) => some (.rational (if negative then -value.toRat else value.toRat))

/-- The place of a number in the order, if it is one. -/
def rank? (a : Number) : Option (WithBot (WithTop ℚ)) := a.measure?.map Measure.rank

theorem rank?_int (n : Int) : (int n).rank? = some (Measure.rational n).rank := rfl

/-! ### Floats -/

/-- The numbers that floats are packed from, each with its measure. -/
inductive Measures : UnpackedFloat → Option Measure → Prop
  | nan : Measures .notANumber none
  | infinite (negative : Bool) : Measures (.infinity (signOf negative)) (some (.beyond negative))
  | zero (sign : Sign) : Measures (.zero sign) (some (.rational 0))
  | finite (negative : Bool) {value : Binary} (canonical : value.Canonical) :
      Measures (canonical.signed (signOf negative)) (some (.rational (if negative then -value.toRat else value.toRat)))

theorem measures_float (x : Float) : Measures x.toModel.unpack (float x).measure? := by
  rw [measure?]
  rcases class_ : classify x.toBits with ⟨negative, _ | _ | value⟩
  · obtain rfl := classify_nan class_
    exact .nan
  · obtain rfl := classify_infinite class_
    rw [unpack_infinity]
    exact .infinite negative
  · rcases classify_finite class_ with ⟨none_, rfl⟩ | ⟨canonical, rfl⟩
    · rw [unpack_zero]
      simpa [Binary.toRat, none_] using Measures.zero (signOf negative)
    · rw [unpack_pack canonical]
      exact .finite negative canonical

theorem compare_finite {value other : Binary} (canonical : value.Canonical) (canonical_other : other.Canonical)
    (first second : Bool) :
    (canonical.signed (signOf first)).compare
        (canonical_other.signed (signOf second)) =
      some (cmp (if first then -value.toRat else value.toRat) (if second then -other.toRat else other.toRat)) := by
  have positive := canonical.toRat_pos
  have positive_other := canonical_other.toRat_pos
  cases first with
  | false =>
    cases second with
    | false => exact congrArg some (canonical.compare_eq canonical_other)
    | true =>
      have greater : -other.toRat < value.toRat := by linarith
      exact congrArg some greater.cmp_eq_gt.symm
  | true =>
    cases second with
    | false =>
      have less : -value.toRat < other.toRat := by linarith
      exact congrArg some less.cmp_eq_lt.symm
    | true =>
      have swapped : ((compare value.exponent other.exponent).then (compare value.mantissa other.mantissa)).swap =
          cmp (-value.toRat) (-other.toRat) := by
        rw [canonical.compare_eq canonical_other, cmp_swap]
        exact (StrictAnti.cmp_map_eq (fun _ _ less => neg_lt_neg less) _ _).symm
      exact congrArg some swapped

/-- Floats are compared as what they measure. -/
theorem Measures.compare {u v : UnpackedFloat} {m n : Option Measure} (first : Measures u m) (second : Measures v n) :
    u.compare v = m.bind fun a => n.map fun b => cmp a.rank b.rank := by
  cases first with
  | nan => rfl
  | infinite negative =>
    cases second with
    | nan => cases negative <;> rfl
    | infinite other =>
      cases negative <;> cases other
      · exact congrArg some (cmp_self_eq_eq _).symm
      · exact congrArg some lowest_lt_highest.cmp_eq_gt.symm
      · exact congrArg some lowest_lt_highest.cmp_eq_lt.symm
      · exact congrArg some (cmp_self_eq_eq _).symm
    | zero | finite =>
      cases negative
      · exact congrArg some (lt_highest _).cmp_eq_gt.symm
      · exact congrArg some (lowest_lt _).cmp_eq_lt.symm
  | zero sign =>
    cases second with
    | nan => rfl
    | infinite other =>
      cases other
      · exact congrArg some (lt_highest _).cmp_eq_lt.symm
      · exact congrArg some (lowest_lt _).cmp_eq_gt.symm
    | zero other => exact congrArg some (cmp_self_eq_eq _).symm
    | finite other canonical =>
      have positive := canonical.toRat_pos
      cases other
      · exact congrArg some ((cmp_rational _ _).trans positive.cmp_eq_lt).symm
      · exact congrArg some ((cmp_rational _ _).trans (neg_lt_zero.mpr positive).cmp_eq_gt).symm
  | finite negative canonical =>
    cases second with
    | nan => cases negative <;> rfl
    | infinite other =>
      cases negative <;> cases other
      · exact congrArg some (lt_highest _).cmp_eq_lt.symm
      · exact congrArg some (lowest_lt _).cmp_eq_gt.symm
      · exact congrArg some (lt_highest _).cmp_eq_lt.symm
      · exact congrArg some (lowest_lt _).cmp_eq_gt.symm
    | zero sign =>
      have positive := canonical.toRat_pos
      cases negative
      · exact congrArg some ((cmp_rational _ _).trans positive.cmp_eq_gt).symm
      · exact congrArg some ((cmp_rational _ _).trans (neg_lt_zero.mpr positive).cmp_eq_lt).symm
    | finite other canonical_other =>
      rw [compare_finite canonical canonical_other]
      exact congrArg some (cmp_rational _ _).symm

theorem compare_float (x y : Float) :
    x.toModel.unpack.compare y.toModel.unpack = (float x).rank?.bind fun p => (float y).rank?.map (cmp p) := by
  rw [(measures_float x).compare (measures_float y), rank?, rank?]
  cases (float x).measure? <;> cases (float y).measure? <;> rfl

theorem compared_iff {first second : Option (WithBot (WithTop ℚ))} {order : Ordering} :
    (first.bind fun p => second.map (cmp p)) = some order ↔
      ∃ p q, first = some p ∧ second = some q ∧ order.Compares p q := by
  constructor
  · intro compared
    obtain ⟨p, placed, compared⟩ := Option.bind_eq_some_iff.mp compared
    obtain ⟨q, placed_other, rfl⟩ := Option.map_eq_some_iff.mp compared
    exact ⟨p, q, placed, placed_other, cmp_compares p q⟩
  · rintro ⟨p, q, rfl, rfl, ordered⟩
    exact congrArg some ordered.cmp_eq

theorem compare_float_iff (x y : Float) (order : Ordering) :
    x.toModel.unpack.compare y.toModel.unpack = some order ↔
      ∃ p q, (float x).rank? = some p ∧ (float y).rank? = some q ∧ order.Compares p q := by
  rw [compare_float, compared_iff]

/-! ### Integers and floats -/

theorem compareWith?_eq {x : Float} {a : ℚ} (holds : valueOf? x = some a) (n : Int) :
    compareWith? n x = some (compare (n : ℚ) a) := by
  unfold valueOf? at holds
  split at holds
  · rename_i negative value class_
    obtain ⟨signed, size, value_eq⟩ : ∃ signed : Int,
        (if negative then -(value.mantissa : Int) else value.mantissa) = signed ∧
        (if negative then -value.toRat else value.toRat) = (signed : ℚ) * 2 ^ value.exponent := by
      refine ⟨_, rfl, ?_⟩
      cases negative <;> simp [Binary.toRat]
    rw [value_eq, Option.some.injEq] at holds
    subst holds
    rw [compareWith?, class_]
    simp only [size, twoTo, pow_eq]
    split
    · rename_i fraction
      have positive : (0 : ℚ) < 2 ^ (-value.exponent).toNat := by positivity
      have cleared : signed * 2 ^ value.exponent * 2 ^ (-value.exponent).toNat = (signed : ℚ) := by
        rw [mul_assoc, ← zpow_natCast, ← zpow_add₀ two_ne_zero,
          show value.exponent + ((-value.exponent).toNat : Int) = 0 by omega, zpow_zero, mul_one]
      rw [← cmp_eq_compare, ← cmp_eq_compare, ← cmp_mul_pos_right positive (n : ℚ), cleared,
        ← Int.cast_strictMono.cmp_map_eq (β := ℚ), Int.cast_mul, Int.cast_natCast, cast_pow, cast_ofNat]
    · rename_i whole
      have power : (2 : ℚ) ^ value.exponent = 2 ^ value.exponent.toNat := by
        rw [← zpow_natCast, show (value.exponent.toNat : Int) = value.exponent by omega]
      rw [power, ← cmp_eq_compare, ← cmp_eq_compare, ← Int.cast_strictMono.cmp_map_eq (β := ℚ), Int.cast_mul,
        Int.cast_natCast, cast_pow, cast_ofNat]
  · cases holds

theorem compareWith?_rank (n : Int) (x : Float) :
    compareWith? n x = (float x).rank?.map (cmp (Measure.rational n).rank) := by
  rcases class_ : classify x.toBits with ⟨negative, _ | _ | value⟩
  · rw [compareWith?, rank?, measure?, class_]
    rfl
  · rw [compareWith?, rank?, measure?, class_]
    cases negative
    · exact congrArg some (lt_highest n).cmp_eq_lt.symm
    · exact congrArg some (lowest_lt n).cmp_eq_gt.symm
  · have holds : valueOf? x = some (if negative then -value.toRat else value.toRat) := by rw [valueOf?, class_]
    rw [compareWith?_eq holds, ← cmp_eq_compare, rank?, measure?, class_]
    exact congrArg some (cmp_rational _ _).symm

theorem compareWith?_iff (n : Int) (x : Float) (order : Ordering) :
    compareWith? n x = some order ↔ ∃ p q, (int n).rank? = some p ∧ (float x).rank? = some q ∧ order.Compares p q := by
  rw [compareWith?_rank, ← compared_iff, rank?_int, Option.bind_some]

/-! ### Equality -/

theorem float_beq_iff (x y : Float) : (x == y) = true ↔ x.toModel.unpack.compare y.toModel.unpack = some .eq := by
  have opened : (x == y) = (x.toModel.unpack.compare y.toModel.unpack == some .eq) := rfl
  rw [opened, beq_iff_eq]

theorem rational_eq_iff (m n : Int) : (Measure.rational m).rank = (Measure.rational n).rank ↔ m = n := by
  rw [eq_iff_eq_of_cmp_eq_cmp (cmp_rational m n), Int.cast_inj]

theorem equal_iff (a b : Number) : a.equal b = true ↔ ∃ p, a.rank? = some p ∧ b.rank? = some p := by
  cases a with
  | int m =>
    cases b with
    | int n => simpa [equal, rank?_int, rational_eq_iff] using eq_comm
    | float y =>
      rw [equal, beq_iff_eq, compareWith?_iff]
      simp [rank?_int]
  | float x =>
    cases b with
    | int n =>
      rw [equal, beq_iff_eq, compareWith?_iff]
      simp [rank?_int]
    | float y =>
      rw [equal, float_beq_iff, compare_float_iff]
      simp

theorem equal_comm (a b : Number) : a.equal b = b.equal a := by
  rw [Bool.eq_iff_iff, equal_iff, equal_iff]
  simp only [and_comm]

theorem equal_trans {a b c : Number} (first : a.equal b = true) (second : b.equal c = true) : a.equal c = true := by
  rw [equal_iff] at first second ⊢
  obtain ⟨k, left, middle⟩ := first
  obtain ⟨l, again, right⟩ := second
  obtain rfl : k = l := Option.some.inj (middle.symm.trans again)
  exact ⟨k, left, right⟩

end Number

namespace Value

variable {a b : Value}

theorem isKey_of_equal (key : a.isKey = true) (same : a.equal b = true) : b.isKey = true := by
  cases b with
  | list items | record fields => cases a <;> simp_all [Value.equal, Value.number?, Value.isKey, Value.key?]
  | _ => rfl

theorem equal_of_number {n : Number} (number : b.number? = some n) :
    a.equal b = (a.number?.map (·.equal n)).getD false := by
  cases a <;> cases b <;> simp_all [Value.equal, Value.number?]

theorem number_of_equal {m : Number} (number : a.number? = some m) (same : a.equal b = true) :
    ∃ n, b.number? = some n ∧ m.equal n = true := by
  cases a <;> cases b <;> simp_all [Value.equal, Value.number?]

theorem equal_comm (key : b.isKey = true) : a.equal b = b.equal a := by
  cases b with
  | null => cases a <;> rfl
  | text s => rw [Bool.eq_iff_iff, equal_text, text_equal]
  | bool | int | float => cases a <;> simp [Value.equal, Value.number?, Number.equal_comm]
  | list items | record fields => cases key

theorem equal_congr (key : b.isKey = true) (same : a.equal b = true) (c : Value) : c.equal a = c.equal b := by
  cases number : b.number? with
  | none =>
    cases b with
    | null => cases a <;> simp_all [Value.equal, Value.number?]
    | text s => simp_all
    | _ => simp_all [Value.number?, Value.isKey, Value.key?]
  | some n =>
    obtain ⟨m, number_a, equal⟩ := number_of_equal number (equal_comm key ▸ same)
    rw [equal_of_number number_a, equal_of_number number]
    cases c.number? with
    | none => rfl
    | some k =>
      rw [map_some, map_some, getD_some, getD_some, Bool.eq_iff_iff]
      constructor
      · exact fun first => equal_trans first (Number.equal_comm n m ▸ equal)
      · exact fun first => equal_trans first equal

theorem equal_left_congr (key : b.isKey = true) (same : a.equal b = true) (c : Value) : a.equal c = b.equal c := by
  have key_a : a.isKey = true := isKey_of_equal key (equal_comm key ▸ same)
  cases key_c : c.isKey with
  | true => rw [equal_comm key_c, equal_congr key same, equal_comm key]
  | false =>
    have apart {d : Value} (key_d : d.isKey = true) : d.equal c = false := by
      rw [Bool.eq_false_iff]
      intro equal
      rw [isKey_of_equal key_d equal] at key_c
      cases key_c
    rw [apart key_a, apart key]

end Value

/-! ### Order -/

namespace Number

end Number

/-! ### The least of some values -/

namespace Value

/-- The place of a value in the order of numbers, if it is one. -/
def rank? (value : Value) : Option (WithBot (WithTop ℚ)) := value.number?.bind Number.rank?

variable {a b best first x : Value} {rest : List Value} {p q : WithBot (WithTop ℚ)}

theorem less?_number {n : Number} (number : b.number? = some n) : less? a b = a.number?.map (·.less n) := by
  cases b with
  | text | list | record | null => cases number
  | bool | int | float =>
    obtain rfl := Option.some.inj number
    cases a <;> rfl

theorem numbers_of_least? (least : least? first rest = some best) (number : first.number?.isSome) :
    ∀ x ∈ rest, x.number?.isSome := by
  induction rest generalizing first with
  | nil => exact forall_mem_nil _
  | cons next rest ih =>
    obtain ⟨n, found⟩ := isSome_iff_exists.mp number
    unfold least? at least
    rw [less?_number found] at least
    obtain ⟨less, compared, least⟩ := bind_eq_some_iff.mp least
    obtain ⟨m, found_next, -⟩ := map_eq_some_iff.mp compared
    have number_next : next.number?.isSome := by rw [found_next]; rfl
    have others : ∀ x ∈ rest, x.number?.isSome := by
      cases less with
      | true => exact ih least number_next
      | false => exact ih least number
    exact forall_mem_cons.2 ⟨number_next, others⟩

theorem extremes_number (numbers : ∀ x ∈ first :: rest, x.number?.isSome) :
    (∃ best, least? first rest = some best ∧ best.number?.isSome) ∧
      ∃ best, greatest? first rest = some best ∧ best.number?.isSome := by
  induction rest generalizing first with
  | nil =>
    have number := numbers first mem_cons_self
    exact ⟨⟨first, rfl, number⟩, first, rfl, number⟩
  | cons next rest ih =>
    obtain ⟨number, later⟩ := forall_mem_cons.mp numbers
    obtain ⟨number_next, others⟩ := forall_mem_cons.mp later
    obtain ⟨n, found⟩ := isSome_iff_exists.mp number
    obtain ⟨m, found_next⟩ := isSome_iff_exists.mp number_next
    obtain ⟨least, greatest⟩ := ih (forall_mem_cons.mpr ⟨number, others⟩)
    obtain ⟨least_next, greatest_next⟩ := ih later
    unfold least? greatest?
    rw [less?_number found, less?_number found_next, found, found_next]
    refine ⟨?_, ?_⟩
    · cases less : m.less n
      · simpa [less] using least
      · simpa [less] using least_next
    · cases less : n.less m
      · simpa [less] using greatest
      · simpa [less] using greatest_next

end Value
end Playhouse
