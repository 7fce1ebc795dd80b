import Playhouse.Data.Show
import Playhouse.Text.Digit

/-!
Whole numbers in texts: padding around, an optional sign, and decimal digits of any script with
single underscores between them. A number may have at most `digitLimit` digits.
-/
namespace Playhouse

inductive IntegerProblem where
  | noInteger (text : String)
  | tooLong (digits : Nat)
  deriving DecidableEq

namespace IntegerProblem

/-- How much of a quoted text a message shows. -/
def quotedLength : Nat := 200

def digitLimit : Nat := 4300

def message : IntegerProblem → String
  | noInteger text => "invalid literal for int() with base 10: "
      ++ String.ofList ((Text.quoted text.toList).take quotedLength)
  | tooLong digits => "Exceeds the limit (" ++ toString digitLimit
      ++ " digits) for integer string conversion: value has " ++ toString digits
      ++ " digits; use sys.set_int_max_str_digits() to increase the limit"

end IntegerProblem

namespace Text

/-- Padding is blank, but the four information separators do not count as it. -/
def isPadding (c : Char) : Bool := isBlank c && !(28 ≤ c.toNat && c.toNat ≤ 31)

/-- The digits at the front of a text, without the single underscores between them, and what follows
them. There is at least one digit and none of the underscores comes last; `afterDigit` says whether
one may come next. -/
def digitRun? : Bool → List Char → Option (List Nat × List Char)
  | afterDigit, [] => if afterDigit then some ([], []) else none
  | afterDigit, c :: rest =>
    if c == '_' then (if afterDigit then digitRun? false rest else none)
    else match decimalDigit? c with
      | some digit => (digitRun? true rest).map fun (digits, tail) => (digit :: digits, tail)
      | none => if afterDigit then some ([], c :: rest) else none

/-- The sign at the front of a text, as whether it is a minus, and what follows it. -/
def takeMinus : List Char → Bool × List Char
  | '-' :: rest => (true, rest)
  | '+' :: rest => (false, rest)
  | rest => (false, rest)

end Text

/-- The whole number that a text writes. That it is too long is found before what follows it is
looked at. -/
def readInteger (s : String) : Except IntegerProblem Int :=
  let (negative, body) := Text.takeMinus (s.toList.dropWhile Text.isPadding)
  match Text.digitRun? false body with
  | none => .error (.noInteger s)
  | some (digits, tail) =>
    if IntegerProblem.digitLimit < digits.length then .error (.tooLong digits.length)
    else if !tail.all Text.isPadding then .error (.noInteger s)
    else
      let n : Nat := digits.foldl (fun n digit => 10 * n + digit) 0
      .ok (if negative then -(n : Int) else n)

def readInteger? (s : String) : Option Int := (readInteger s).toOption

end Playhouse
