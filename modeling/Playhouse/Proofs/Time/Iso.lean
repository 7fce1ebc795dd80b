import Mathlib.Algebra.Group.Nat.Defs
import Mathlib.Data.List.Basic
import Mathlib.Data.List.TakeWhile
import Playhouse.Time.Reading

/-!
The standard form of a moment is read as the moment. A day has one year, month and day of the month, and a moment is
given back by the civil time that it falls on. Each part of the text is a number written to a width, as wide as asked
for if it fits, and is read as that number.
-/
namespace Playhouse
open Moment

/-! ### The calendar -/

namespace Civil

theorem daysBeforeYear_succ (year : Int) :
    daysBeforeYear (year + 1) = daysBeforeYear year + if isLeap year then 366 else 365 := by
  have leap : isLeap year = decide (year % 4 = 0 ∧ (year % 100 ≠ 0 ∨ year % 400 = 0)) := by
    unfold isLeap
    grind
  rw [leap]
  simp only [daysBeforeYear]
  by_cases divides : year % 4 = 0 ∧ (year % 100 ≠ 0 ∨ year % 400 = 0)
  · rw [decide_eq_true divides, if_pos rfl]
    omega
  · rw [decide_eq_false divides, if_neg Bool.false_ne_true]
    omega

theorem daysBeforeMonth_succ (year : Int) (month : Nat) :
    daysBeforeMonth year (month + 2) = daysBeforeMonth year (month + 1) + monthLength year (month + 1) := by
  simp [daysBeforeMonth, List.range_succ]

theorem daysBeforeMonth_year (year : Int) : daysBeforeMonth year 13 = if isLeap year then 366 else 365 := by
  cases leap : isLeap year <;> simp [daysBeforeMonth, List.range_succ, monthLength, leap]

end Civil

namespace Moment
open Civil

/-- The year of a day is the one that begins at it or before it and ends after it. -/
theorem yearDay_spec (number : Int) :
    daysBeforeYear (yearDay number).1 ≤ number ∧ number < daysBeforeYear ((yearDay number).1 + 1) ∧
      ((yearDay number).2 : Int) = number - daysBeforeYear (yearDay number).1 := by
  have bounds : daysBeforeYear (number * 400 / 146097) ≤ number ∧
      number < daysBeforeYear (number * 400 / 146097 + 3) := by
    simp only [daysBeforeYear]
    omega
  unfold yearDay
  simp only
  generalize number * 400 / 146097 = guess at bounds
  split
  · rename_i early
    rw [show guess + 1 - 1 = guess by omega]
    omega
  · split
    · rename_i early late
      rw [show guess + 1 + 1 + 1 = guess + 3 by omega]
      rw [show guess + 1 + 1 = guess + 2 by omega] at late ⊢
      omega
    · rename_i early late
      omega

/-- The month that holds a day of a year, searched from a month on. -/
theorem monthDay_spec (year : Int) (fuel month rest : Nat)
    (within : daysBeforeMonth year (month + 1) + rest < daysBeforeMonth year (month + fuel + 2)) :
    ∃ found day, monthDay year fuel (month + 1) rest = (found + 1, day + 1) ∧ month ≤ found ∧ found ≤ month + fuel ∧
      day < monthLength year (found + 1) ∧
      daysBeforeMonth year (found + 1) + day = daysBeforeMonth year (month + 1) + rest := by
  induction fuel generalizing month rest with
  | zero =>
    rw [Nat.add_zero, daysBeforeMonth_succ] at within
    exact ⟨month, rest, rfl, Nat.le_refl _, Nat.le_refl _, by omega, rfl⟩
  | succ fuel ih =>
    have next := daysBeforeMonth_succ year month
    unfold monthDay
    simp only
    split
    · rename_i here
      exact ⟨month, rest, rfl, Nat.le_refl _, by omega, here, rfl⟩
    · rename_i beyond
      have later : daysBeforeMonth year (month + 2) + (rest - monthLength year (month + 1)) <
          daysBeforeMonth year (month + 1 + fuel + 2) := by
        rw [show month + 1 + fuel + 2 = month + (fuel + 1) + 2 by omega]
        omega
      obtain ⟨found, day, same, least, most, short, total⟩ := ih (month + 1) _ later
      refine ⟨found, day, same, by omega, by omega, short, ?_⟩
      rw [total, show month + 1 + 1 = month + 2 from rfl]
      omega

/-- The end of the calendar, after the year 9999. -/
def calendarEnd : Int := 3652059 * day

/-- The moments that have a year of the calendar. -/
def InCalendar (m : Moment) : Prop := 0 ≤ m.micros ∧ m.micros < calendarEnd

instance (m : Moment) : Decidable m.InCalendar := inferInstanceAs (Decidable (_ ∧ _))

/-- A civil time with every part in its range. -/
structure Proper (c : Civil) : Prop where
  year : 1 ≤ c.year ∧ c.year ≤ 9999
  month : 1 ≤ c.month ∧ c.month ≤ 12
  day : 1 ≤ c.day ∧ c.day ≤ monthLength c.year c.month
  hour : c.hour ≤ 23
  minute : c.minute ≤ 59
  second : c.second ≤ 59
  micro : c.micro < 1000000

/-- The years of the calendar hold its days. -/
theorem yearDay_bounds {number : Int} (start : 0 ≤ number) (finish : number < 3652059) :
    1 ≤ (yearDay number).1 ∧ (yearDay number).1 ≤ 9999 := by
  obtain ⟨first, last, -⟩ := yearDay_spec number
  generalize (yearDay number).1 = year at first last
  simp only [daysBeforeYear] at first last
  omega

/-- A day of a year has its month and its day there. -/
theorem monthDay_year {year : Int} {inYear : Nat} (within : inYear < daysBeforeMonth year 13) :
    ∃ month day, monthDay year 11 1 inYear = (month, day) ∧ 1 ≤ month ∧ month ≤ 12 ∧ 1 ≤ day ∧
      day ≤ monthLength year month ∧ daysBeforeMonth year month + day = inYear + 1 := by
  have zero : daysBeforeMonth year 1 = 0 := rfl
  obtain ⟨month, day, found, -, most, short, total⟩ := monthDay_spec year 11 0 inYear (by rwa [zero, Nat.zero_add])
  rw [zero] at total
  exact ⟨month + 1, day + 1, found, by omega, by omega, by omega, short, by omega⟩

/-- A moment of the calendar falls on a proper civil time, and on no other moment's. -/
theorem civil_spec {m : Moment} (dated : InCalendar m) : Proper m.civil ∧ ofCivil m.civil = m := by
  obtain ⟨start, finish⟩ := dated
  have long : day = 86400000000 := rfl
  simp only [calendarEnd, long] at finish
  have whole := Int.mul_ediv_add_emod m.micros day
  have rest_start := Int.emod_nonneg m.micros (b := day) (by decide)
  have rest_finish := Int.emod_lt_of_pos m.micros (b := day) (by decide)
  generalize number_eq : m.micros / day = number at whole
  generalize rest_eq : (m.micros % day).toNat = rest
  have rest_int : (rest : Int) = m.micros % day := by omega
  rw [← rest_int, long] at whole rest_finish
  obtain ⟨first, last⟩ := @yearDay_bounds number (by omega) (by omega)
  obtain ⟨after_, before_, inYear⟩ := yearDay_spec number
  obtain ⟨month, dayOfMonth, found, month_least, month_most, day_least, day_most, total⟩ :=
    @monthDay_year (yearDay number).1 (yearDay number).2 (by
      have succ := daysBeforeYear_succ (yearDay number).1
      rw [daysBeforeMonth_year]
      split at succ <;> simp_all <;> omega)
  have falls : m.civil = ⟨(yearDay number).1, month, dayOfMonth, rest / 1000000 / 3600, rest / 1000000 / 60 % 60,
      rest / 1000000 % 60, rest % 1000000⟩ := by
    simp only [civil, number_eq, rest_eq, found]
  rw [falls]
  refine ⟨⟨⟨first, last⟩, ⟨month_least, month_most⟩, ⟨day_least, day_most⟩, ?_, ?_, ?_, ?_⟩, ?_⟩
  · simp only
    omega
  · simp only
    omega
  · simp only
    omega
  · simp only
    omega
  · refine congrArg mk (Eq.trans ?_ whole)
    have clock : (rest / 1000000 / 3600 * 60 + rest / 1000000 / 60 % 60) * 60 + rest / 1000000 % 60 =
        rest / 1000000 := by omega
    have days : (daysBeforeYear (yearDay number).1 + daysBeforeMonth (yearDay number).1 month + dayOfMonth - 1 : Int) =
        number := by omega
    simp only [dayNumber, days, clock, long, second]
    omega

end Moment
end Playhouse

namespace Playhouse.Moment
open List Nat

/-! ### Numbers written to a width -/

theorem padded_toList (width n : Nat) :
    (padded width n).toList = replicate (width - (toDigits 10 n).length) '0' ++ toDigits 10 n := by
  have digits : (toString n).toList = toDigits 10 n := toList_repr
  have size : (toString n).length = (toDigits 10 n).length := by
    rw [← String.length_toList, digits]
  simp only [padded, String.toList_append, String.toList_ofList, digits, size]

theorem isDigit_padded {width n : Nat} {c : Char} (member : c ∈ (padded width n).toList) : c.isDigit = true := by
  rw [padded_toList] at member
  rcases mem_append.1 member with zero | digit
  · rw [(mem_replicate.1 zero).2]
    rfl
  · exact isDigit_of_mem_toDigits (by decide) (by decide) digit

theorem length_padded {width n : Nat} (positive : 0 < width) (fits : n < 10 ^ width) :
    (padded width n).toList.length = width := by
  have short := (length_toDigits_le_iff (by decide : 1 < 10) positive).2 fits
  rw [padded_toList, length_append, length_replicate]
  omega

/-- The number that some decimal digits write. -/
def valueOf (digits : List Char) : Nat := digits.foldl (fun n c => 10 * n + (c.toNat - 48)) 0

theorem valueOf_padded (width n : Nat) : valueOf (padded width n).toList = n := by
  have zeros : ∀ count, (replicate count '0').foldl (fun n c => 10 * n + (c.toNat - 48)) 0 = 0 := by
    intro count
    induction count with
    | zero => rfl
    | succ count ih => exact ih
  rw [valueOf, padded_toList, foldl_append, zeros]
  exact ofDigitChars_toDigits (by decide) (by decide)

theorem padded_inj {width n m : Nat} (same : padded width n = padded width m) : n = m := by
  rw [← valueOf_padded width n, same, valueOf_padded]

theorem digits?_padded {width n : Nat} (positive : 0 < width) (fits : n < 10 ^ width) (rest : List Char) :
    digits? width ((padded width n).toList ++ rest) = some (n, rest) := by
  have length := length_padded positive fits
  have digits : (padded width n).toList.all Char.isDigit = true :=
    all_eq_true.2 fun c member => isDigit_padded member
  have value := valueOf_padded width n
  unfold valueOf at value
  simp [digits?, take_left' length, drop_left' length, length, digits, value]

/-- The time of day in the standard form. -/
def clockChars (c : Civil) : List Char :=
  (padded 2 c.hour).toList ++ ':' :: ((padded 2 c.minute).toList ++ ':' :: ((padded 2 c.second).toList ++
    if c.micro = 0 then [] else '.' :: (padded 6 c.micro).toList))

/-- The date in the standard form. -/
def dateChars (c : Civil) : List Char :=
  (padded 4 c.year.toNat).toList ++ '-' :: ((padded 2 c.month).toList ++ '-' :: (padded 2 c.day).toList)

theorem iso_toList (m : Moment) : m.iso.toList = dateChars m.civil ++ 'T' :: clockChars m.civil := by
  unfold iso dateChars clockChars
  by_cases whole : m.civil.micro = 0 <;> simp [whole]

section
variable {c : Civil}

/-! ### The date -/

theorem day_lt (proper : Proper c) : c.day < 100 := by
  have most : Civil.monthLength c.year c.month ≤ 31 := by
    unfold Civil.monthLength
    split
    · split <;> decide
    all_goals decide
  have := proper.day
  omega

theorem year_lt (proper : Proper c) : c.year.toNat < 10 ^ 4 := by
  have := proper.year
  omega

theorem month_lt (proper : Proper c) : c.month < 10 ^ 2 := by
  have := proper.month
  omega

theorem length_dateChars (proper : Proper c) : (dateChars c).length = 10 := by
  have year := length_padded (by decide) (year_lt proper)
  have month := length_padded (by decide) (month_lt proper)
  have day := @length_padded 2 c.day (by decide) (day_lt proper)
  rw [dateChars, length_append, length_cons, length_append, length_cons, year, month, day]

theorem exists_padded_two {n : Nat} (fits : n < 10 ^ 2) :
    ∃ d e, (padded 2 n).toList = [d, e] ∧ d.isDigit = true ∧ e.isDigit = true := by
  obtain ⟨d, e, text⟩ := length_eq_two.1 (length_padded (by decide) fits)
  exact ⟨d, e, text, isDigit_padded (text ▸ mem_cons_self), isDigit_padded (text ▸ mem_cons_of_mem _ mem_cons_self)⟩

theorem ne_of_isDigit {d c : Char} (digit : d.isDigit = true) (other : c.isDigit = false) : d ≠ c := by
  rintro rfl
  rw [digit] at other
  cases other

theorem dateLength_dateChars (proper : Proper c) (rest : List Char) : dateLength (dateChars c ++ rest) = 10 := by
  have year := length_padded (by decide) (year_lt proper)
  have total := length_dateChars proper
  obtain ⟨d, e, month, digit, -⟩ := exists_padded_two (month_lt proper)
  have size : (dateChars c).length + rest.length ≠ 7 := by omega
  have text : dateChars c ++ rest =
      (padded 4 c.year.toNat).toList ++ ('-' :: d :: e :: '-' :: ((padded 2 c.day).toList ++ rest)) := by
    simp [dateChars, month]
  have fourth : (dateChars c ++ rest)[4]? = some '-' := by
    rw [text, getElem?_append_right (Nat.le_of_eq year), year]
    rfl
  have fifth : (dateChars c ++ rest)[5]? = some d := by
    rw [text, getElem?_append_right (by omega), year]
    rfl
  have weekless : d ≠ 'W' := ne_of_isDigit digit rfl
  simp [dateLength, size, fourth, fifth, weekless]

theorem date?_dateChars (proper : Proper c) : date? (dateChars c) = some (c.year, c.month, c.day) := by
  have year := digits?_padded (by decide) (year_lt proper)
  have month := digits?_padded (by decide) (month_lt proper)
  have day := @digits?_padded 2 c.day (by decide) (day_lt proper) []
  rw [append_nil] at day
  obtain ⟨d, e, text, digit, -⟩ := exists_padded_two (month_lt proper)
  have weekless : d ≠ 'W' := ne_of_isDigit digit rfl
  have positive : (c.year.toNat : Int) = c.year := by
    have := proper.year
    omega
  have days :
      digits? 2 (d :: e :: '-' :: (padded 2 c.day).toList) = some (c.month, '-' :: (padded 2 c.day).toList) := by
    simpa [text] using month ('-' :: (padded 2 c.day).toList)
  simp only [date?, dateChars, year, Option.bind_eq_bind, Option.bind_some, text, head?_cons, beq_self_eq_true,
    if_true, drop_succ_cons, drop_zero, cons_append, nil_append]
  split
  · rename_i week
    cases week
    exact absurd rfl weekless
  · simp [days, day, positive]

/-! ### The time of day -/

theorem clockFrom?_colon {n : Nat} (fits : n < 10 ^ 2) (parts : ClockParts) (place : Nat) (places : List Nat)
    {more : List Char} (some_ : more ≠ []) :
    clockFrom? parts true (place :: places) ((padded 2 n).toList ++ ':' :: more) =
      clockFrom? (parts.set place n) true places more := by
  obtain ⟨next, rest, rfl⟩ := exists_cons_of_ne_nil some_
  simp [clockFrom?, digits?_padded (by decide) fits]

theorem fraction?_padded {micro : Nat} (fits : micro < 10 ^ 6) (parts : ClockParts) :
    fraction? parts (padded 6 micro).toList = some { parts with micro, leftover := false } := by
  have length := length_padded (by decide) fits
  have read := digits?_padded (by decide) fits []
  rw [append_nil] at read
  simp [fraction?, length, read, tenTo]

theorem clockFrom?_end {n micro : Nat} (fits : n < 10 ^ 2) (fits_micro : micro < 10 ^ 6) (hour minute : Nat) :
    clockFrom? { hour, minute } true [2]
        ((padded 2 n).toList ++ if micro = 0 then [] else '.' :: (padded 6 micro).toList) =
      some { hour, minute, second := n, micro } := by
  rw [clockFrom?, digits?_padded (by decide) fits]
  by_cases whole : micro = 0
  · rw [if_pos whole, whole]
    rfl
  · rw [if_neg whole]
    have length := length_padded (by decide) fits_micro
    have fraction := fraction?_padded fits_micro { hour, minute, second := n }
    obtain ⟨next, rest, text⟩ := exists_cons_of_ne_nil (ne_nil_of_length_pos (by omega) : (padded 6 micro).toList ≠ [])
    rw [text] at fraction ⊢
    simpa [ClockParts.set] using fraction

theorem clock?_clockChars (proper : Proper c) :
    clock? (clockChars c) = some ⟨c.hour, c.minute, c.second, c.micro, false⟩ := by
  have hour : c.hour < 10 ^ 2 := Nat.lt_of_le_of_lt proper.hour (by decide)
  have minute : c.minute < 10 ^ 2 := Nat.lt_of_le_of_lt proper.minute (by decide)
  have second : c.second < 10 ^ 2 := Nat.lt_of_le_of_lt proper.second (by decide)
  have micro : c.micro < 10 ^ 6 := proper.micro
  obtain ⟨d, e, text, -, -⟩ := exists_padded_two minute
  obtain ⟨f, g, text_second, -, -⟩ := exists_padded_two second
  rw [clock?, clockChars, clockFrom?_colon hour _ _ _ (by simp [text]),
    clockFrom?_colon minute _ _ _ (by simp [text_second])]
  exact clockFrom?_end second micro c.hour c.minute

theorem mem_clockChars {d : Char} (member : d ∈ clockChars c) : d.isDigit = true ∨ d = ':' ∨ d = '.' := by
  have digit {width n : Nat} (held : d ∈ (padded width n).toList) : d.isDigit = true ∨ d = ':' ∨ d = '.' :=
    .inl (isDigit_padded held)
  simp only [clockChars, mem_append, mem_cons] at member
  rcases member with hour | colon | minute | colon | second | member
  · exact digit hour
  · exact .inr (.inl colon)
  · exact digit minute
  · exact .inr (.inl colon)
  · exact digit second
  split at member
  · cases member
  · rcases mem_cons.1 member with point | micro
    · exact .inr (.inr point)
    · exact digit micro

theorem not_isZoneMark_clockChars {d : Char} (member : d ∈ clockChars c) : isZoneMark d = false := by
  rcases mem_clockChars member with digit | rfl | rfl
  · have plus := ne_of_isDigit digit (rfl : '+'.isDigit = false)
    have minus := ne_of_isDigit digit (rfl : '-'.isDigit = false)
    have zulu := ne_of_isDigit digit (rfl : 'Z'.isDigit = false)
    simp [isZoneMark, plus, minus, zulu]
  · rfl
  · rfl

theorem timeOfDay?_clockChars (proper : Proper c) :
    timeOfDay? (clockChars c) = some (⟨c.hour, c.minute, c.second, c.micro, false⟩, none) := by
  have plain : ∀ d ∈ clockChars c, (!isZoneMark d) = true := fun d member => by
    rw [not_isZoneMark_clockChars member]
    rfl
  have all : (clockChars c).takeWhile (!isZoneMark ·) = clockChars c := takeWhile_eq_self_iff.2 plain
  have none_ : (clockChars c).dropWhile (!isZoneMark ·) = [] := dropWhile_eq_nil_iff.2 plain
  simp [timeOfDay?, all, none_, clock?_clockChars proper]

end

/-! ### The whole -/

theorem ofParts_proper {c : Civil} (proper : Proper c) :
    ofParts c.year c.month c.day ⟨c.hour, c.minute, c.second, c.micro, false⟩ none = .ok (ofCivil c, false) := by
  obtain ⟨year, month, day, hour, minute, second, -⟩ := proper
  have year_in : ¬ (c.year < 1 ∨ 9999 < c.year) := by omega
  have month_in : ¬ (c.month < 1 ∨ 12 < c.month) := by omega
  have day_in : ¬ (c.day < 1 ∨ Civil.monthLength c.year c.month < c.day) := by omega
  have hour_in : ¬ 23 < c.hour := by omega
  have minute_in : ¬ 59 < c.minute := by omega
  have second_in : ¬ 59 < c.second := by omega
  simp only [ofParts, Option.any_none, Bool.false_eq_true, if_false, Bool.or_eq_true, decide_eq_true_eq, year_in,
    month_in, day_in, hour_in, minute_in, second_in]
  rfl

/-- A moment of the calendar is read back from its standard form. -/
theorem read_iso {m : Moment} (dated : InCalendar m) : read m.iso = .ok (m, false) := by
  obtain ⟨proper, same⟩ := civil_spec dated
  have length := length_dateChars proper
  have parts := ofParts_proper proper
  rw [same] at parts
  have front : m.iso.toList.take 10 = dateChars m.civil := by
    rw [iso_toList]
    exact take_left' length
  have back : m.iso.toList.drop 11 = clockChars m.civil := by
    rw [iso_toList, append_cons]
    exact drop_left' (by simp [length])
  have begins : dateLength m.iso.toList = 10 := by
    rw [iso_toList]
    exact dateLength_dateChars proper _
  have long : 10 < m.iso.toList.length := by
    rw [iso_toList]
    simp [length]
  have enough : ¬ m.iso.toList.length < 7 := by omega
  simp only [read, begins, enough, if_false, long, if_true, front, back, date?_dateChars proper,
    timeOfDay?_clockChars proper, Option.bind_eq_bind, Option.bind_some, Option.pure_def]
  exact parts

theorem ascii_of_isDigit {c : Char} (digit : c.isDigit = true) : c.toNat < 128 := by
  simp only [Char.isDigit, Bool.and_eq_true, decide_eq_true_eq, UInt32.le_iff_toNat_le] at digit
  have code : c.val.toNat = c.toNat := rfl
  have nine : '9'.val.toNat = 57 := rfl
  omega

theorem ascii_iso (m : Moment) : ∀ c ∈ m.iso.toList, c.toNat < 128 := by
  intro c member
  have digit {width n : Nat} (held : c ∈ (padded width n).toList) : c.toNat < 128 :=
    ascii_of_isDigit (isDigit_padded held)
  simp only [iso_toList, dateChars, mem_append, mem_cons] at member
  rcases member with (year | rfl | month | rfl | day) | rfl | clock
  · exact digit year
  · decide
  · exact digit month
  · decide
  · exact digit day
  · decide
  rcases mem_clockChars clock with digit | rfl | rfl
  · exact ascii_of_isDigit digit
  · decide
  · decide

end Playhouse.Moment
