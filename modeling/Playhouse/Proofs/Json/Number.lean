import Playhouse.Proofs.Decimal.Bits
import Playhouse.Proofs.Decimal.Shortest
import Playhouse.Proofs.Json.Text

/-!
Numbers in JSON: the written form of a number is read back as that number, a whole number as a whole
one and a float as the same float, whatever its digits are and whichever form it is written in.
-/
namespace Playhouse.Json
open Decimal List Float IntegerProblem

variable {x : ℚ} {n : Nat} {d : Digits}

/-! ### Digits as characters -/

/-- The text does not go on with a digit. -/
def Stops (rest : List Char) : Prop := ∀ c ∈ rest.head?, c.isDigit = false

theorem digitChar_isDigit (small : n < 10) : (digitChar n).isDigit = true := by
  have all : ∀ n < 10, (digitChar n).isDigit = true := by decide
  exact all n small

theorem digitChar_toNat (small : n < 10) : (digitChar n).toNat - 48 = n := by
  have all : ∀ n < 10, (digitChar n).toNat - 48 = n := by decide
  exact all n small

theorem digitChar_eq_zero (small : n < 10) (zero : digitChar n = '0') : n = 0 := by
  have all : ∀ n < 10, digitChar n = '0' → n = 0 := by decide
  exact all n small zero

variable {digits : List Nat} {rest text : List Char} {value : Binary}

/-- Decimal digits. -/
def Small (digits : List Nat) : Prop := ∀ n ∈ digits, n < 10

theorem takeWhile_digits (small : Small digits) (stops : Stops rest) :
    (digits.map digitChar ++ rest).takeWhile Char.isDigit = digits.map digitChar := by
  induction digits with
  | nil =>
    cases rest with
    | nil => rfl
    | cons c rest => simp [stops c rfl]
  | cons n digits ih =>
    have first := digitChar_isDigit (small n mem_cons_self)
    have others := ih (forall_mem_cons.1 small).2
    simp [first, others]

theorem readNat_digits (small : Small digits) : readNat (digits.map digitChar) = wholeOf digits := by
  have read (start : Nat) : (digits.map digitChar).foldl (fun n c => n * 10 + (c.toNat - 48)) start =
      digits.foldl (fun n digit => n * 10 + digit) start := by
    induction digits generalizing start with
    | nil => rfl
    | cons n digits ih =>
      have first := digitChar_toNat (small n mem_cons_self)
      simp only [map_cons, foldl_cons, first]
      exact ih (forall_mem_cons.1 small).2 _
  exact read 0

/-- The digits before the point as they are written: a zero alone, or none at the front. -/
structure Leads (whole : List Nat) : Prop where
  small : Small whole
  front : whole = [0] ∨ ∃ first more, whole = first :: more ∧ 0 < first

theorem Leads.cases {whole : List Nat} (leads : Leads whole) : ∃ first more, whole = first :: more ∧ first < 10 := by
  obtain ⟨small, rfl | ⟨first, more, rfl, -⟩⟩ := leads
  · exact ⟨0, [], rfl, by decide⟩
  · exact ⟨first, more, rfl, small first mem_cons_self⟩

theorem wholeDigits_digits {whole : List Nat} (leads : Leads whole) (stops : Stops rest) :
    wholeDigits (whole.map digitChar ++ rest) = whole.map digitChar := by
  obtain ⟨small, rfl | ⟨first, more, rfl, some_⟩⟩ := leads
  · rfl
  · have taken := takeWhile_digits small stops
    rw [map_cons, cons_append] at taken ⊢
    rw [wholeDigits]
    · exact taken
    · intro others same
      injection same with zero
      have := digitChar_eq_zero (small first mem_cons_self) zero
      omega

/-! ### The parts of a number -/

/-- The sign in front of a number. -/
def signChars (negative : Bool) : List Char := if negative then ['-'] else []

/-- The point and the digits after it, if there are any. -/
def placeChars (places : List Nat) : List Char := if places = [] then [] else '.' :: places.map digitChar

section
variable {negative : Bool} {whole places : List Nat} {tail rest : List Char}

theorem head_sign (leads : Leads whole) (more : List Char) :
    ((signChars negative ++ (whole.map digitChar ++ more)).head? == some '-') = negative := by
  cases negative with
  | true => rfl
  | false =>
    obtain ⟨first, others, rfl, small⟩ := leads.cases
    have digit := digitChar_isDigit small
    have other : digitChar first ≠ '-' := by
      intro same
      rw [same] at digit
      cases digit
    simpa [signChars] using other

theorem fraction_places (small : Small places) (stops : Stops tail)
    (pointless : places = [] → tail.head? ≠ some '.') :
    fraction (placeChars places ++ tail) = places.map digitChar := by
  unfold placeChars
  split
  · rename_i none_
    rw [none_]
    cases tail with
    | nil => rfl
    | cons c tail =>
      rw [nil_append, fraction]
      · rfl
      · intro others same
        injection same with point
        exact pointless none_ (by rw [point]; rfl)
  · rw [cons_append, fraction]
    exact takeWhile_digits small stops

/-- How a number is read whose parts are known: the exponent follows. -/
theorem readNumber_parts (offset : Nat) (leads : Leads whole) (small : Small places) (stops : Stops rest)
    (pointless : places = [] → rest.head? ≠ some '.') :
    readNumber ⟨offset, signChars negative ++ (whole.map digitChar ++ (placeChars places ++ rest))⟩ =
      match places, exponent rest with
      | [], none =>
        if digitLimit < whole.length then .error (.longInteger whole.length, offset)
        else .ok (.int (if negative = true then -(wholeOf whole : Int) else wholeOf whole),
          Cursor.skip ⟨offset, signChars negative ++ (whole.map digitChar ++ (placeChars places ++ rest))⟩
            (signChars negative ++ whole.map digitChar).length)
      | places, power =>
        .ok (.float (decimal negative (wholeOf (whole ++ places)) ((power.getD (0, 0)).1 - places.length)),
          Cursor.skip ⟨offset, signChars negative ++ (whole.map digitChar ++ (placeChars places ++ rest))⟩
            ((signChars negative ++ (whole.map digitChar ++ placeChars places)).length + (power.getD (0, 0)).2)) := by
  have stops_places : Stops (placeChars places ++ rest) := by
    unfold placeChars
    split
    · exact stops
    · intro c member
      cases member
      rfl
  have body : (if negative = true then
      (signChars negative ++ (whole.map digitChar ++ (placeChars places ++ rest))).drop 1
      else signChars negative ++ (whole.map digitChar ++ (placeChars places ++ rest))) =
      whole.map digitChar ++ (placeChars places ++ rest) := by
    cases negative <;> rfl
  have some_ : (whole.map digitChar).isEmpty = false := by
    obtain ⟨first, others, rfl, -⟩ := leads.cases
    rfl
  have after : (if (places.map digitChar).isEmpty = true then placeChars places ++ rest
      else (placeChars places ++ rest).drop ((places.map digitChar).length + 1)) = rest := by
    unfold placeChars
    cases places <;> simp
  have sign_length : (signChars negative).length = if negative = true then 1 else 0 := by
    cases negative <;> rfl
  have whole_value := readNat_digits leads.small
  have all_value := readNat_digits (forall_mem_append.2 ⟨leads.small, small⟩)
  rw [map_append] at all_value
  unfold readNumber
  simp only [head_sign leads, body, wholeDigits_digits leads stops_places, some_, Bool.false_eq_true, if_false,
    drop_left, fraction_places small stops pointless, after, whole_value]
  simp only [length_append, length_map, sign_length]
  cases places with
  | nil =>
    rw [map_nil, append_nil] at all_value
    cases exponent rest with
    | none => rfl
    | some power => simp [all_value, placeChars]
  | cons place places =>
    simp only [map_cons] at all_value ⊢
    simp [placeChars, all_value, Nat.add_assoc]

/-- A number with a point or an exponent is the float of all its digits and its power. -/
theorem readNumber_float (offset : Nat) (leads : Leads whole) (small : Small places) {power : Int}
    (powered : (exponent (tail ++ rest)).getD (0, 0) = (power, tail.length))
    (float : places ≠ [] ∨ exponent (tail ++ rest) ≠ none) (stops : Stops (tail ++ rest))
    (pointless : places = [] → (tail ++ rest).head? ≠ some '.') :
    ∃ next, readNumber ⟨offset, signChars negative ++ (whole.map digitChar ++ (placeChars places ++ (tail ++ rest)))⟩ =
      .ok (.float (decimal negative (wholeOf (whole ++ places)) (power - places.length)), ⟨next, rest⟩) := by
  rw [readNumber_parts offset leads small stops pointless]
  have skipped := skip_append offset (signChars negative ++ (whole.map digitChar ++ (placeChars places ++ tail))) rest
  have passed : (signChars negative ++ (whole.map digitChar ++ (placeChars places ++ tail))).length =
      (signChars negative ++ (whole.map digitChar ++ placeChars places)).length + tail.length := by
    simp only [length_append, Nat.add_assoc]
  simp only [passed, append_assoc] at skipped
  split
  · rename_i no_power
    rcases float with places_some | power_some
    · exact absurd rfl places_some
    · exact absurd no_power power_some
  · rw [powered, skipped]
    exact ⟨_, rfl⟩

/-- A number without a point and an exponent is a whole number. -/
theorem readNumber_int (offset : Nat) (leads : Leads whole) (stops : Stops rest)
    (pointless : rest.head? ≠ some '.') (powerless : exponent rest = none) (short : whole.length ≤ digitLimit) :
    ∃ next, readNumber ⟨offset, signChars negative ++ (whole.map digitChar ++ rest)⟩ =
      .ok (.int (if negative = true then -(wholeOf whole : Int) else wholeOf whole), ⟨next, rest⟩) := by
  have read := @readNumber_parts negative whole [] rest offset leads (forall_mem_nil _) stops fun _ => pointless
  have skipped := skip_append offset (signChars negative ++ whole.map digitChar) rest
  simp only [append_assoc] at skipped
  simp only [placeChars, if_true, nil_append, powerless, if_neg (Nat.not_lt.2 short), skipped] at read
  exact ⟨_, read⟩

end

/-! ### Whole numbers -/

/-- What may follow a value: the end of the text, a comma, a closing mark, a new line or a blank. -/
def Ends (rest : List Char) : Prop := ∀ c ∈ rest.head?, c = ',' ∨ c = ']' ∨ c = '\x7d' ∨ c = '\n' ∨ c = ' '

section
variable {rest : List Char} (ends : Ends rest)
include ends

theorem Ends.stops : Stops rest := by
  intro c member
  rcases ends c member with rfl | rfl | rfl | rfl | rfl <;> rfl

theorem Ends.pointless : rest.head? ≠ some '.' := by
  intro point
  rcases ends '.' point with same | same | same | same | same <;> cases same

theorem Ends.powerless : exponent rest = none := by
  cases rest with
  | nil => rfl
  | cons c rest => rcases ends c rfl with rfl | rfl | rfl | rfl | rfl <;> rfl

end

theorem map_natDigits (n : Nat) : (natDigits n).map digitChar = Nat.toDigits 10 n := by
  have same : ∀ c ∈ Nat.toDigits 10 n, (digitChar ∘ fun c => c.toNat - 48) c = id c := by
    intro c member
    have digit := Nat.isDigit_of_mem_toDigits (by norm_num) (by norm_num) member
    simp only [Char.isDigit, Bool.and_eq_true, decide_eq_true_eq, ge_iff_le, UInt32.le_iff_toNat_le] at digit
    have code : c.val.toNat = c.toNat := rfl
    have zero : '0'.val.toNat = 48 := rfl
    have above : 48 + (c.toNat - 48) = c.toNat := by omega
    rw [Function.comp_apply, digitChar, above, Char.ofNat_toNat, id]
  unfold natDigits
  rw [map_map, map_congr_left same, map_id]

theorem leads_natDigits (n : Nat) : Leads (natDigits n) := by
  refine ⟨fun _ => natDigits_lt, ?_⟩
  rcases Nat.eq_zero_or_pos n with rfl | positive
  · exact .inl rfl
  · exact .inr (natDigits_leading positive)

theorem toString_int (n : Int) :
    (toString n).toList = signChars (decide (n < 0)) ++ (natDigits n.natAbs).map digitChar := by
  rw [map_natDigits]
  cases n with
  | ofNat n =>
    have sign : decide (Int.ofNat n < 0) = false := by simp
    rw [sign]
    exact Nat.toList_repr
  | negSucc n =>
    have sign : decide (Int.negSucc n < 0) = true := decide_eq_true (Int.negSucc_lt_zero n)
    rw [sign]
    change ("-" ++ (n + 1).repr).toList = _
    rw [String.toList_append, Nat.toList_repr]
    rfl

theorem readNumber_toString (ends : Ends rest) (offset : Nat) {n : Int}
    (short : (natDigits n.natAbs).length ≤ digitLimit) :
    ∃ next, readNumber ⟨offset, (toString n).toList ++ rest⟩ = .ok (.int n, ⟨next, rest⟩) := by
  obtain ⟨next, read⟩ := @readNumber_int (decide (n < 0)) _ _ offset (leads_natDigits n.natAbs) ends.stops
    ends.pointless ends.powerless short
  refine ⟨next, ?_⟩
  rw [toString_int, append_assoc, read, wholeOf_natDigits]
  have same : (if decide (n < 0) = true then -(n.natAbs : Int) else n.natAbs) = n := by
    simp only [decide_eq_true_eq]
    split <;> omega
  rw [same]

/-! ### Floats -/

/-- A text that writes a number with a point or an exponent. -/
inductive FloatText : List Char → ℚ → Prop where
  | placed (whole places : List Nat) (leads : Leads whole) (small : Small places) (some_ : places ≠ []) :
      FloatText (whole.map digitChar ++ placeChars places) (wholeOf (whole ++ places) * 10 ^ (-places.length : Int))
  | powered (whole places : List Nat) (power : Int) (leads : Leads whole) (small : Small places) :
      FloatText (whole.map digitChar ++ (placeChars places ++ (exponentText "e" power).toList))
        (wholeOf (whole ++ places) * 10 ^ (power - places.length))

/-- The digits of an exponent: at least two. -/
def powerDigits (n : Nat) : List Nat := if (natDigits n).length < 2 then 0 :: natDigits n else natDigits n

theorem small_powerDigits (n : Nat) : Small (powerDigits n) := by
  have small := (leads_natDigits n).small
  unfold powerDigits
  split
  · exact forall_mem_cons.2 ⟨by decide, small⟩
  · exact small

theorem exponentText_toList (power : Int) :
    (exponentText "e" power).toList =
      'e' :: (if power < 0 then '-' else '+') :: (powerDigits power.natAbs).map digitChar := by
  have size : (toString power.natAbs).length = (natDigits power.natAbs).length := by
    rw [length_natDigits, ← String.length_toList]
    exact congrArg length Nat.toList_repr
  have zero : digitChar 0 = '0' := rfl
  unfold exponentText powerDigits
  simp only [size, String.toList_append]
  split <;> split <;> simp [map_natDigits, zero]

theorem exponent_exponentText (stops : Stops rest) (power : Int) :
    exponent ((exponentText "e" power).toList ++ rest) = some (power, (exponentText "e" power).toList.length) := by
  have small := small_powerDigits power.natAbs
  have value : wholeOf (powerDigits power.natAbs) = power.natAbs := by
    unfold powerDigits
    split <;> exact wholeOf_natDigits power.natAbs
  have some_ : ((powerDigits power.natAbs).map digitChar).isEmpty = false := by
    unfold powerDigits
    split
    · rfl
    · rename_i long
      cases digits : natDigits power.natAbs with
      | nil => simp [digits] at long
      | cons n digits => rfl
  have taken := takeWhile_digits small stops
  have read := readNat_digits small
  have size (n : Nat) : 1 + 1 + n = n + 1 + 1 := by omega
  rw [exponentText_toList]
  split
  all_goals
    rw [cons_append, cons_append, exponent]
    simp only [beq_self_eq_true, Bool.true_or, if_true, taken, some_, Bool.false_eq_true, if_false, read, value,
      length_cons, size, Option.some.injEq, Prod.mk.injEq, and_true]
    omega

/-- A float is read as the nearest number to what its text writes. -/
theorem readNumber_floatText (written : FloatText text x) (ends : Ends rest) (negative : Bool) (offset : Nat) :
    ∃ (digits : Nat) (power : Int) (next : Nat), (digits : ℚ) * 10 ^ power = x ∧
      readNumber ⟨offset, signChars negative ++ (text ++ rest)⟩ =
        .ok (.float (decimal negative digits power), ⟨next, rest⟩) := by
  cases written with
  | placed whole places leads small some_ =>
    obtain ⟨next, read⟩ := @readNumber_float negative whole places [] rest offset leads small 0
      (by rw [nil_append, ends.powerless]; rfl) (.inl some_) ends.stops (fun _ => ends.pointless)
    refine ⟨wholeOf (whole ++ places), 0 - places.length, next, by rw [zero_sub], ?_⟩
    rw [append_assoc]
    exact read
  | powered whole places power leads small =>
    have powered := exponent_exponentText ends.stops power
    have front : ((exponentText "e" power).toList ++ rest).head? = some 'e' := by rw [exponentText_toList]; rfl
    obtain ⟨next, read⟩ := @readNumber_float negative whole places (exponentText "e" power).toList rest offset leads
      small power (by rw [powered]; rfl) (.inr (by rw [powered]; exact Option.some_ne_none _))
      (fun c member => by rw [front] at member; cases member; rfl)
      (fun _ => by rw [front]; decide)
    refine ⟨wholeOf (whole ++ places), power - places.length, next, rfl, ?_⟩
    simp only [append_assoc]
    exact read

theorem digitText_toList (digits : List Nat) : (digitText digits).toList = digits.map digitChar :=
  String.toList_ofList

theorem zeros_toList (n : Nat) : (zeros n).toList = (replicate n 0).map digitChar := by
  rw [map_replicate]
  exact String.toList_ofList

/-- The positional form of digits, with a zero after the point if nothing else stands there. -/
theorem floatText_positional (writes : d.Writes x) :
    FloatText (if (d.digits.length : Int) ≤ d.point then positional d ++ ".0" else positional d).toList x := by
  obtain ⟨small, ⟨first, more, digits, some_⟩, rfl⟩ := writes
  have zeros_small (n : Nat) : Small (replicate n 0) := by
    intro m member
    rw [(mem_replicate.1 member).2]
    norm_num
  have one : 0 < d.digits.length := by rw [digits]; exact Nat.succ_pos _
  unfold positional
  by_cases below : d.point ≤ 0
  · rw [if_neg (by omega)]
    simp only [if_pos below]
    convert FloatText.placed [0] (replicate (-d.point).toNat 0 ++ d.digits) ⟨zeros_small 1, .inl rfl⟩
      (forall_mem_append.2 ⟨zeros_small _, small⟩) (by simp [digits]) using 1
    · simp [placeChars, digits, digitText_toList, zeros_toList, digitChar]
    · rw [wholeOf_append, wholeOf_append, wholeOf_replicate]
      have size : (-((replicate (-d.point).toNat 0 ++ d.digits).length : Int)) = d.point - d.digits.length := by
        rw [length_append, length_replicate]
        push_cast
        omega
      rw [size]
      simp [wholeOf]
  · by_cases whole : (d.digits.length : Int) ≤ d.point
    · rw [if_pos whole]
      simp only [if_neg below, if_pos whole]
      convert FloatText.placed (d.digits ++ replicate (d.point - d.digits.length).toNat 0) [0]
        ⟨forall_mem_append.2 ⟨small, zeros_small _⟩,
          .inr ⟨first, more ++ replicate (d.point - d.digits.length).toNat 0, by rw [digits]; rfl, some_⟩⟩
        (zeros_small 1) (by simp) using 1
      · simp [placeChars, digitText_toList, zeros_toList, digitChar]
      · rw [wholeOf_append, wholeOf_append, wholeOf_replicate, length_replicate]
        have power : d.point - d.digits.length = ((d.point - d.digits.length).toNat : Int) := by omega
        rw [power, zpow_natCast, Int.toNat_natCast]
        simp [wholeOf]
    · rw [if_neg whole]
      simp only [if_neg below, if_neg whole]
      have places_some : d.digits.drop d.point.toNat ≠ [] := by
        rw [Ne, drop_eq_nil_iff]
        omega
      obtain ⟨n, point⟩ : ∃ n : Nat, d.point.toNat = n + 1 := ⟨d.point.toNat - 1, by omega⟩
      convert FloatText.placed (d.digits.take d.point.toNat) (d.digits.drop d.point.toNat)
        ⟨fun n member => small n (mem_of_mem_take member),
          .inr ⟨first, more.take n, by rw [digits, point]; rfl, some_⟩⟩
        (fun n member => small n (mem_of_mem_drop member)) places_some using 1
      · simp [placeChars, digitText_toList, places_some]
      · rw [take_append_drop, length_drop]
        congr 2
        omega

theorem floatText_scientific (writes : d.Writes x) : FloatText (scientific "e" d).toList x := by
  obtain ⟨small, ⟨first, more, digits, some_⟩, rfl⟩ := writes
  rw [digits, forall_mem_cons] at small
  unfold scientific
  convert FloatText.powered [first] more (d.point - 1)
    ⟨forall_mem_singleton.2 small.1, .inr ⟨first, [], rfl, some_⟩⟩ small.2 using 1
  · cases more <;> simp [digits, placeChars, digitText_toList]
  · rw [digits, singleton_append, length_cons]
    congr 2
    push_cast
    ring

/-- The magnitude of a number is written as its shortest decimal. -/
theorem floatText_magnitude (writes : (shortest value).Writes x) : FloatText (magnitude value).toList x := by
  unfold magnitude
  simp only
  split
  · exact floatText_positional writes
  · exact floatText_scientific writes

/-- A decimal that rounds to a number is that number, with its sign. -/
theorem decimal_rounds (canonical : value.Canonical) {digits : Nat} {power : Int}
    (rounds : value.Rounds (digits * 10 ^ power)) (negative : Bool) :
    decimal negative digits power = ofModel (.pack (canonical.signed (signOf negative))) := by
  have read : Model.ofScientific digits power = .pack (canonical.signed .positive) := by
    rw [Model.ofScientific, rounds.ofScientific canonical]
  unfold decimal
  rw [read]
  cases negative with
  | false => rfl
  | true =>
    rw [if_pos rfl]
    change ofModel (.pack (Model.unpack _).neg) = _
    rw [unpack_pack canonical]
    rfl

theorem decimal_zero (negative : Bool) (power : Int) :
    decimal negative 0 power = ofModel (.pack (.zero (signOf negative))) := by
  have read : Model.ofScientific 0 power = .pack (.zero .positive) := by
    rw [Model.ofScientific, Model.UnpackedFloat.ofScientific, dif_pos rfl]
  unfold decimal
  rw [read]
  cases negative with
  | false => rfl
  | true =>
    rw [if_pos rfl]
    decide +kernel

/-- A finite number is written as its sign and a decimal that is read as the number. -/
theorem written_finite {x : Float} {negative : Bool} (class_ : classify x.toBits = (negative, .finite value)) :
    (written x).toList = signChars negative ++ (magnitude value).toList ∧
      ∃ decimal_ : ℚ, FloatText (magnitude value).toList decimal_ ∧
        ∀ (digits : Nat) (power : Int), (digits : ℚ) * 10 ^ power = decimal_ → decimal negative digits power = x := by
  constructor
  · unfold written
    rw [class_]
    cases negative <;> simp [signChars]
  · obtain ⟨zero, rfl⟩ | ⟨canonical, rfl⟩ := classify_finite class_
    · have shortest_zero : shortest value = ⟨[0], 1⟩ := by
        unfold shortest
        simp only [zero, beq_self_eq_true, if_true]
      have zeros : (magnitude value).toList = [0].map digitChar ++ placeChars [0] := by
        unfold magnitude
        rw [shortest_zero]
        rfl
      rw [zeros]
      refine ⟨_, .placed [0] [0] ⟨by simp [Small], .inl rfl⟩ (by simp [Small]) (by simp), fun digits power same => ?_⟩
      have none_ : digits = 0 := by
        have : (digits : ℚ) * 10 ^ power = 0 := by rw [same]; simp [wholeOf]
        rcases mul_eq_zero.1 this with zero | zero
        · exact_mod_cast zero
        · exact absurd zero (by positivity)
      rw [none_, decimal_zero]
    · obtain ⟨decimal_, writes, rounds⟩ := shortest_writes canonical
      refine ⟨decimal_, floatText_magnitude writes, fun digits power same => ?_⟩
      exact decimal_rounds canonical (same ▸ rounds) negative

/-- A finite number is read back from its written form. -/
theorem readNumber_written {x : Float} {negative : Bool} (class_ : classify x.toBits = (negative, .finite value))
    (ends : Ends rest) (offset : Nat) :
    ∃ next, readNumber ⟨offset, (written x).toList ++ rest⟩ = .ok (.float x, ⟨next, rest⟩) := by
  obtain ⟨text, decimal_, float, same⟩ := written_finite class_
  obtain ⟨digits, power, next, value_, read⟩ := readNumber_floatText float ends negative offset
  rw [same digits power value_] at read
  rw [text, append_assoc]
  exact ⟨next, read⟩

/-! ### Numbers without digits -/

/-- A float is one of three words or finite, and is written accordingly. -/
theorem number_cases (x : Float) : (number x = "NaN" ∧ x = 0.0 / 0.0) ∨ (number x = "Infinity" ∧ x = 1.0 / 0.0) ∨
      (number x = "-Infinity" ∧ x = -1.0 / 0.0) ∨
      (number x = written x ∧ ∃ negative value, classify x.toBits = (negative, .finite value)) := by
  cases class_ : classify x.toBits with
  | mk negative kind =>
    cases kind with
    | nan =>
      have same : x = 0.0 / 0.0 := (classify_nan class_).trans (by decide +kernel)
      have word : number (0.0 / 0.0) = "NaN" := by decide +kernel
      exact .inl ⟨same ▸ word, same⟩
    | infinite =>
      cases negative with
      | true =>
        have same : x = -1.0 / 0.0 := (classify_infinite class_).trans (by decide +kernel)
        have word : number (-1.0 / 0.0) = "-Infinity" := by decide +kernel
        exact .inr (.inr (.inl ⟨same ▸ word, same⟩))
      | false =>
        have same : x = 1.0 / 0.0 := (classify_infinite class_).trans (by decide +kernel)
        have word : number (1.0 / 0.0) = "Infinity" := by decide +kernel
        exact .inr (.inl ⟨same ▸ word, same⟩)
    | finite value =>
      have finite : x.isNaN = false ∧ x.isInf = false := by
        obtain ⟨-, same⟩ | ⟨canonical, same⟩ := classify_finite class_
        · rw [same]
          cases negative <;> decide +kernel
        · have unpacked := unpack_pack canonical (signOf negative)
          rw [same]
          change (Model.unpack _).isNaN = false ∧ (Model.unpack _).isInf = false
          rw [unpacked]
          exact ⟨rfl, rfl⟩
      refine .inr (.inr (.inr ⟨?_, negative, value, rfl⟩))
      rw [number, finite.1, finite.2]
      rfl

/-! ### The characters of a number -/

/-- The characters that numbers are written with. -/
def IsNumeric (c : Char) : Prop := c.isDigit = true ∨ c = '-' ∨ c = '+' ∨ c = '.' ∨ c = 'e'

/-- A text of such characters that begins with a digit, or with a sign and a digit. -/
structure NumberText (text : List Char) : Prop where
  numeric : ∀ c ∈ text, IsNumeric c
  front : ∃ negative first more, text = signChars negative ++ first :: more ∧ first.isDigit = true

theorem numeric_digits (small : Small digits) : ∀ c ∈ digits.map digitChar, IsNumeric c := by
  intro c member
  obtain ⟨n, within, rfl⟩ := mem_map.1 member
  exact .inl (digitChar_isDigit (small n within))

theorem numeric_sign (negative : Bool) : ∀ c ∈ signChars negative, IsNumeric c := by
  cases negative with
  | true => exact fun c member => .inr (.inl (mem_singleton.1 member))
  | false => exact forall_mem_nil _

theorem numeric_places {places : List Nat} (small : Small places) : ∀ c ∈ placeChars places, IsNumeric c := by
  unfold placeChars
  split
  · exact forall_mem_nil _
  · exact forall_mem_cons.2 ⟨.inr (.inr (.inr (.inl rfl))), numeric_digits small⟩

theorem numberText_digits (negative : Bool) {whole : List Nat} {more : List Char} (leads : Leads whole)
    (numeric : ∀ c ∈ more, IsNumeric c) :
    NumberText (signChars negative ++ (whole.map digitChar ++ more)) := by
  refine ⟨?_, ?_⟩
  · exact forall_mem_append.2
      ⟨numeric_sign negative, forall_mem_append.2 ⟨numeric_digits leads.small, numeric⟩⟩
  · obtain ⟨first, others, rfl, small⟩ := leads.cases
    exact ⟨negative, digitChar first, others.map digitChar ++ more, rfl, digitChar_isDigit small⟩

theorem numberText_toString (n : Int) : NumberText (toString n).toList := by
  have text := numberText_digits (decide (n < 0)) (leads_natDigits n.natAbs) (forall_mem_nil _)
  rwa [append_nil, ← toString_int] at text

theorem numberText_floatText (negative : Bool) (written : FloatText text x) :
    NumberText (signChars negative ++ text) := by
  cases written with
  | placed whole places leads small some_ => exact numberText_digits negative leads (numeric_places small)
  | powered whole places power leads small =>
    have digits := numeric_digits (small_powerDigits power.natAbs)
    refine numberText_digits negative leads (forall_mem_append.2 ⟨numeric_places small, ?_⟩)
    rw [exponentText_toList, forall_mem_cons, forall_mem_cons]
    refine ⟨.inr (.inr (.inr (.inr rfl))), ?_, digits⟩
    split
    · exact .inr (.inl rfl)
    · exact .inr (.inr (.inl rfl))

theorem numberText_written {x : Float} {negative : Bool} (class_ : classify x.toBits = (negative, .finite value)) :
    NumberText (written x).toList := by
  obtain ⟨text, decimal_, float, -⟩ := written_finite class_
  rw [text]
  exact numberText_floatText negative float

/-- At the front of a number stands no word. -/
theorem readWord_number (number_ : NumberText text) (offset : Nat) (rest : List Char) :
    readWord ⟨offset, text ++ rest⟩ = none := by
  obtain ⟨-, negative, first, more, rfl, digit⟩ := number_
  have other (c : Char) (letter : c.isDigit = false) : (c == first) = false := by
    rw [beq_eq_false_iff_ne]
    rintro rfl
    rw [letter] at digit
    cases digit
  unfold readWord word?
  cases negative with
  | true => simp [signChars, isPrefixOf, other 'I' rfl]
  | false =>
    simp [signChars, isPrefixOf, other 'n' rfl, other 't' rfl, other 'f' rfl, other 'N' rfl, other 'I' rfl,
      other '-' rfl]

end Playhouse.Json
