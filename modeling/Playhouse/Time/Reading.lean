import Playhouse.Data.Show
import Playhouse.Time.Moment

/-!
Reading dates and times in the standard forms: `2024-01-31`, `20240131`, `2024-W05-3`, alone or
followed by any one character and a time such as `10:20`, `102030`, `10:20:30.5`, with `Z` or an
offset such as `+01:00` at the end.
-/
namespace Playhouse

inductive DateProblem where
  | invalid (text : String)
  | year (n : Int)
  | month
  | day
  | hour
  | minute
  | second
  | offset (micros : Int)
  deriving DecidableEq

/-- A span of time as messages show it: days, seconds within the day, microseconds. -/
def spanText (micros : Int) : String :=
  let days := micros / Moment.day
  let rest := micros % Moment.day
  let parts := ([("days", days), ("seconds", rest / Moment.second), ("microseconds", rest % Moment.second)].filter
    fun part => part.2 != 0).map fun part => part.1 ++ "=" ++ toString part.2
  "datetime.timedelta(" ++ (if parts.isEmpty then "0" else joinTexts ", " parts) ++ ")"

def DateProblem.message : DateProblem → String
  | invalid text => "Invalid isoformat string: " ++ quotedText text
  | year n => "year " ++ toString n ++ " is out of range"
  | month => "month must be in 1..12"
  | day => "day is out of range for month"
  | hour => "hour must be in 0..23"
  | minute => "minute must be in 0..59"
  | second => "second must be in 0..59"
  | offset micros =>
    "offset must be a timedelta strictly between -timedelta(hours=24) and timedelta(hours=24), not "
      ++ spanText micros ++ "."

namespace Moment

def digits? (count : Nat) (text : List Char) : Option (Nat × List Char) :=
  let front := text.take count
  if front.length == count && front.all Char.isDigit then
    some (front.foldl (fun n c => 10 * n + (c.toNat - 48)) 0, text.drop count)
  else none

/-- A time of day as read, before its parts are checked. -/
structure ClockParts where
  hour : Nat := 0
  minute : Nat := 0
  second : Nat := 0
  micro : Nat := 0
  /-- Whether something follows that was not read. -/
  leftover : Bool := false
  deriving DecidableEq

def ClockParts.set (parts : ClockParts) (place value : Nat) : ClockParts :=
  match place with
  | 0 => { parts with hour := value }
  | 1 => { parts with minute := value }
  | _ => { parts with second := value }

/-- Reads a fraction of a second: six digits count, further ones are skipped. -/
def fraction? (parts : ClockParts) (text : List Char) : Option ClockParts := do
  let count := min 6 text.length
  let (value, rest) ← digits? count text
  return { parts with
    micro := value * tenTo (6 - count), leftover := !(rest.dropWhile Char.isDigit).isEmpty }

/-- Reads hours, minutes and seconds from `place` on. Whether colons divide them is decided after
the hours. -/
def clockFrom? (parts : ClockParts) (separated : Bool) : List Nat → List Char → Option ClockParts
  | [], text => fraction? parts text
  | place :: places, text => do
    let (value, rest) ← digits? 2 text
    let parts := parts.set place value
    match rest with
    | [] => return parts
    | [mark] => if mark.toNat < 128 then return { parts with leftover := true } else none
    | mark :: more =>
      let separated := if place == 0 then mark == ':' else separated
      if separated && mark == ':' then clockFrom? parts separated places more
      else if mark == '.' || mark == ',' then fraction? parts more
      else if !separated then clockFrom? parts separated places rest
      else none

def clock? (text : List Char) : Option ClockParts := clockFrom? {} true [0, 1, 2] text

def isZoneMark (c : Char) : Bool := c == '+' || c == '-' || c == 'Z'

/-- Reads a time of day and its offset in microseconds, if it has one. -/
def timeOfDay? (text : List Char) : Option (ClockParts × Option Int) := do
  let parts ← clock? (text.takeWhile (!isZoneMark ·))
  match text.dropWhile (!isZoneMark ·) with
  | [] => if parts.leftover then none else return (parts, none)
  | 'Z' :: rest => if rest.isEmpty then return (parts, some 0) else none
  | mark :: rest =>
    let zone ← clock? rest
    if zone.leftover then none
    else
      let size : Int := ((zone.hour * 3600 + zone.minute * 60 + zone.second) * 1000000 + zone.micro : Nat)
      return (parts, some (if mark == '-' then -size else size))

/-- The day of the week of a day, Monday first. -/
def weekday (number : Int) : Nat := (number % 7).toNat

/-- The first day of the first week of a year: the week with its first Thursday. -/
def firstMonday (year : Int) : Int :=
  let newYear := Civil.daysBeforeYear year
  let first : Int := weekday newYear
  if 3 < first then newYear - first + 7 else newYear - first

/-- The calendar day of a day of a week of a year. The calendar starts with year one; a day of an
earlier week has no month. -/
def ofWeek? (year : Int) (week day : Nat) : Option (Int × Nat × Nat) :=
  let first := weekday (Civil.daysBeforeYear year)
  let long := first == 3 || (first == 2 && Civil.isLeap year)
  if week == 0 || 53 < week || (week == 53 && !long) then none
  else if day == 0 || 7 < day then none
  else if year < 1 then some (1, 0, 0)
  else
    let number := firstMonday year + ((week - 1) * 7 + (day - 1) : Nat)
    let (y, inYear) := yearDay number
    let (month, dayOfMonth) := monthDay y 11 1 inYear
    some (y, month, dayOfMonth)

/-- Reads a date that fills the whole text. -/
def date? (text : List Char) : Option (Int × Nat × Nat) := do
  let (year, rest) ← digits? 4 text
  let dashed := rest.head? == some '-'
  let rest := if dashed then rest.drop 1 else rest
  match rest with
  | 'W' :: rest =>
    let (week, rest) ← digits? 2 rest
    if rest.isEmpty then ofWeek? year week 1
    else
      let rest ← if dashed then (if rest.head? == some '-' then some (rest.drop 1) else none) else some rest
      let (day, _) ← digits? 1 rest
      ofWeek? year week day
  | rest =>
    let (month, rest) ← digits? 2 rest
    let rest ← if dashed then (if rest.head? == some '-' then some (rest.drop 1) else none) else some rest
    let (day, _) ← digits? 2 rest
    return (year, month, day)

/-- Where the date ends and the time begins. -/
def dateLength (text : List Char) : Nat :=
  let at? (n : Nat) := text[n]?
  if text.length == 7 then 7
  else if at? 4 == some '-' then
    if at? 5 == some 'W' then
      if at? 8 == some '-' && 9 < text.length then
        (if (at? 10).any Char.isDigit then 8 else 10)
      else 8
    else 10
  else if at? 4 == some 'W' then
    let stop := 7 + ((text.drop 7).takeWhile Char.isDigit).length
    if stop < 9 then stop else if stop % 2 == 0 then 7 else 8
  else 8

def ofParts (year : Int) (month day : Nat) (clock : ClockParts) (zone : Option Int) :
    Except DateProblem (Moment × Bool) :=
  if zone.any fun micros => micros ≤ -Moment.day || Moment.day ≤ micros then .error (.offset (zone.getD 0))
  else if year < 1 || 9999 < year then .error (.year year)
  else if month < 1 || 12 < month then .error .month
  else if day < 1 || Civil.monthLength year month < day then .error .day
  else if 23 < clock.hour then .error .hour
  else if 59 < clock.minute then .error .minute
  else if 59 < clock.second then .error .second
  else
    let civil : Civil := ⟨year, month, day, clock.hour, clock.minute, clock.second, clock.micro⟩
    .ok (.ofCivil civil, zone.isSome)

/-- Reads a moment, and whether the text names an offset. -/
def read (text : String) : Except DateProblem (Moment × Bool) :=
  let chars := text.toList
  let length := dateLength chars
  let parts := do
    if chars.length < 7 then none
    let date ← date? (chars.take length)
    if length < chars.length then
      let (clock, zone) ← timeOfDay? (chars.drop (length + 1))
      return (date, clock, zone)
    else return (date, ({} : ClockParts), (none : Option Int))
  match parts with
  | none => .error (.invalid text)
  | some ((year, month, day), clock, zone) => ofParts year month day clock zone

/-- A number of seconds in microseconds. The fraction of a second is scaled first and then rounded,
a half to the even neighbour. -/
def microsOf : Number → Int
  | .int n => n * second
  | .float x =>
    let whole := ((Number.float x).truncate?).getD 0
    match Decimal.classify ((x - Float.ofInt whole) * 1000000).toBits with
    | (negative, .finite value) =>
      let part : Int := Decimal.scaled value 0
      whole * second + (if negative then -part else part)
    | _ => whole * second

end Moment
end Playhouse
