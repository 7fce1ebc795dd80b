/-!
Moments of the civil calendar, counted in microseconds from the start of the year 1.
-/
namespace Playhouse

structure Moment where
  micros : Int
  deriving DecidableEq

/-- A day of the calendar and the time on it. -/
structure Civil where
  year : Int
  month : Nat
  day : Nat
  hour : Nat := 0
  minute : Nat := 0
  second : Nat := 0
  micro : Nat := 0
  deriving DecidableEq

namespace Civil

def isLeap (year : Int) : Bool := year % 4 == 0 && (year % 100 != 0 || year % 400 == 0)

def monthLength (year : Int) (month : Nat) : Nat :=
  match month with
  | 2 => if isLeap year then 29 else 28
  | 4 | 6 | 9 | 11 => 30
  | _ => 31

def daysBeforeYear (year : Int) : Int :=
  let y := year - 1
  y * 365 + y / 4 - y / 100 + y / 400

def daysBeforeMonth (year : Int) (month : Nat) : Nat :=
  ((List.range (month - 1)).map fun k => monthLength year (k + 1)).foldl (· + ·) 0

/-- Days from 1 January of the year 1. -/
def dayNumber (civil : Civil) : Int :=
  daysBeforeYear civil.year + daysBeforeMonth civil.year civil.month + civil.day - 1

end Civil

namespace Moment

def second : Int := 1000000

def day : Int := 86400 * second

def ofCivil (civil : Civil) : Moment :=
  ⟨civil.dayNumber * day
    + (((civil.hour * 60 + civil.minute) * 60 + civil.second : Nat) : Int) * second + civil.micro⟩

/-- Whether a moment is in the years that have dates, 1 to 9999. -/
def isDate (moment : Moment) : Bool := 0 ≤ moment.micros && moment.micros < Civil.daysBeforeYear 10000 * day

/-- The month and day of a day of a year, the days counted from 0. -/
def monthDay (year : Int) : Nat → Nat → Nat → Nat × Nat
  | 0, month, rest => (month, rest + 1)
  | fuel + 1, month, rest =>
    let length := Civil.monthLength year month
    if rest < length then (month, rest + 1) else monthDay year fuel (month + 1) (rest - length)

/-- The year that holds a day, and the day within it. The quotient by the mean length of a year is
off by at most one. -/
def yearDay (number : Int) : Int × Nat :=
  let guess := number * 400 / 146097 + 1
  let year := if number < Civil.daysBeforeYear guess then guess - 1
    else if Civil.daysBeforeYear (guess + 1) ≤ number then guess + 1 else guess
  (year, (number - Civil.daysBeforeYear year).toNat)

def civil (moment : Moment) : Civil :=
  let number := moment.micros / day
  let rest := (moment.micros % day).toNat
  let (year, inYear) := yearDay number
  let (month, dayOfMonth) := monthDay year 11 1 inYear
  let seconds := rest / 1000000
  { year, month, day := dayOfMonth, hour := seconds / 3600, minute := seconds / 60 % 60,
    second := seconds % 60, micro := rest % 1000000 }

def padded (width n : Nat) : String :=
  let digits := toString n
  String.ofList (List.replicate (width - digits.length) '0') ++ digits

/-- The form of a moment inside file names: date and time without marks. -/
def stamp (moment : Moment) : String :=
  let c := moment.civil
  padded 4 c.year.toNat ++ padded 2 c.month ++ padded 2 c.day ++ "_"
    ++ padded 2 c.hour ++ padded 2 c.minute ++ padded 2 c.second

/-- The standard form: date, `T`, time, and the microseconds if there are any. -/
def iso (moment : Moment) : String :=
  let c := moment.civil
  padded 4 c.year.toNat ++ "-" ++ padded 2 c.month ++ "-" ++ padded 2 c.day ++ "T"
    ++ padded 2 c.hour ++ ":" ++ padded 2 c.minute ++ ":" ++ padded 2 c.second
    ++ (if c.micro == 0 then "" else "." ++ padded 6 c.micro)

def plusMicros (moment : Moment) (micros : Int) : Moment := ⟨moment.micros + micros⟩

end Moment
end Playhouse
