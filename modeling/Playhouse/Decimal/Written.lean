/-!
How numbers are written. A finite positive number is `mantissa * 2 ^ exponent`; its shortest decimal is the one with
the fewest digits inside the interval of reals that round to it, and of those the nearest. All comparisons are exact, on
natural numbers. The digits are written positional from `0.0001` up to below `10 ^ 16` and with an exponent of at least
two digits elsewhere, always with a point or an exponent.
-/
namespace Playhouse

def twoTo (n : Nat) : Nat := Nat.pow 2 n

def tenTo (n : Nat) : Nat := Nat.pow 10 n

namespace Decimal

/-- A positive binary number `mantissa * 2 ^ exponent`. -/
structure Binary where
  mantissa : Nat
  exponent : Int
  deriving DecidableEq

/-- Decimal digits `digits` with the point `point` places from their front. -/
structure Digits where
  digits : List Nat
  point : Int
  deriving DecidableEq

inductive Class where
  | nan | infinite | finite (value : Binary)
  deriving DecidableEq

def fractionBits : Nat := 52

/-- Reads the sign and the class off the bits of a number. -/
def classify (bits : UInt64) : Bool × Class :=
  let n : Nat := bits.toNat
  let negative := n / twoTo 63 == 1
  let biased : Nat := n / twoTo fractionBits % twoTo 11
  let fraction : Nat := n % twoTo fractionBits
  if biased == 2047 then (negative, if fraction == 0 then .infinite else .nan)
  else if biased == 0 then (negative, .finite ⟨fraction, -1074⟩)
  else (negative, .finite ⟨twoTo fractionBits + fraction, (biased : Int) - 1075⟩)

def natDigits (n : Nat) : List Nat := (Nat.toDigits 10 n).map fun c => c.toNat - 48

/-- The place of the first digit of `numerator / denominator`: the least `p` with the quotient below
`10 ^ p`. Both are positive. -/
def leadingPlace (numerator denominator : Nat) : Int :=
  let shift : Int := (natDigits denominator).length - (natDigits numerator).length
  let reaches := if shift < 0 then numerator ≥ denominator * tenTo (-shift).toNat
    else numerator * tenTo shift.toNat ≥ denominator
  if reaches then 1 - shift else -shift

/-- The interval of reals that round to a number, as quarters of its last place: low end, number,
high end. Below a power of two the gap is half as wide. -/
def quarters (value : Binary) : Nat × Nat × Nat :=
  let narrow := value.mantissa == twoTo fractionBits && value.exponent > -1074
  (4 * value.mantissa - (if narrow then 1 else 2), 4 * value.mantissa, 4 * value.mantissa + 2)

/-- The candidates with a given number of digits: the neighbours of the value on that grid that
round back to it, nearest first. -/
def candidate? (value : Binary) (place : Int) (count : Nat) : Option Nat :=
  let (low, middle, high) := quarters value
  let exponent := value.exponent - 2
  let grid := place - count
  -- quarters are scaled by `up`, grid points by `down`, to compare them as naturals
  let up := (if exponent < 0 then 1 else twoTo exponent.toNat) *
    (if grid < 0 then tenTo (-grid).toNat else 1)
  let down := (if exponent < 0 then twoTo (-exponent).toNat else 1) *
    (if grid < 0 then 1 else tenTo grid.toNat)
  let closed := value.mantissa % 2 == 0
  let inside (n : Nat) : Bool :=
    let point := n * down
    if closed then low * up ≤ point && point ≤ high * up else low * up < point && point < high * up
  let lower := middle * up / down
  let upper := lower + 1
  let below := middle * up - lower * down
  let above := upper * down - middle * up
  match inside lower, inside upper with
  | true, true =>
    if below < above then some lower else if above < below then some upper
    else some (if lower % 2 == 0 then lower else upper)
  | true, false => some lower
  | false, true => some upper
  | false, false => none

def dropZeros (digits : List Nat) : List Nat := (digits.reverse.dropWhile (· == 0)).reverse

/-- The fewest digits that read back as the number. A candidate of `count` digits can round up to
the next power of ten, which has one digit more. -/
def shortest (value : Binary) : Digits :=
  if value.mantissa == 0 then ⟨[0], 1⟩ else
  let numerator := if value.exponent < 0 then value.mantissa else value.mantissa * twoTo value.exponent.toNat
  let denominator := if value.exponent < 0 then twoTo (-value.exponent).toNat else 1
  let place := leadingPlace numerator denominator
  match (List.range 17).findSome? fun k => (candidate? value place (k + 1)).map (k + 1, ·) with
  | none => ⟨[0], 1⟩
  | some (count, n) =>
    let digits := natDigits n
    ⟨dropZeros digits, place + (digits.length - count : Int)⟩

/-- A non-negative quotient rounded to the nearest natural number, a half to the even one. -/
def roundDiv (numerator denominator : Nat) : Nat :=
  let quotient := numerator / denominator
  let rest := numerator % denominator
  if 2 * rest < denominator then quotient
  else if denominator < 2 * rest then quotient + 1
  else if quotient % 2 == 0 then quotient else quotient + 1

/-- The number in units of `10 ^ (-places)`, rounded. -/
def scaled (value : Binary) (places : Nat) : Nat :=
  let numerator := value.mantissa * tenTo places
  if value.exponent < 0 then roundDiv numerator (twoTo (-value.exponent).toNat)
  else numerator * twoTo value.exponent.toNat

/-- The number rounded to `count` significant digits, with its zeros kept. -/
def significant (value : Binary) (count : Nat) : Digits :=
  if value.mantissa == 0 then ⟨List.replicate count 0, 1⟩ else
  let numerator := if value.exponent < 0 then value.mantissa else value.mantissa * twoTo value.exponent.toNat
  let denominator := if value.exponent < 0 then twoTo (-value.exponent).toNat else 1
  let place := leadingPlace numerator denominator
  let shift : Int := count - place
  let rounded := if shift < 0 then roundDiv numerator (denominator * tenTo (-shift).toNat)
    else roundDiv (numerator * tenTo shift.toNat) denominator
  let digits := natDigits rounded
  ⟨digits.take count, place + (digits.length - count : Int)⟩

def digitChar (n : Nat) : Char := Char.ofNat (48 + n)

def digitText (digits : List Nat) : String := String.ofList (digits.map digitChar)

def zeros (n : Nat) : String := String.ofList (List.replicate n '0')

/-- An exponent with its sign and at least two digits. -/
def exponentText (mark : String) (n : Int) : String :=
  let size := toString n.natAbs
  mark ++ (if n < 0 then "-" else "+") ++ (if size.length < 2 then "0" ++ size else size)

def positional (d : Digits) : String :=
  let count : Int := d.digits.length
  if d.point ≤ 0 then "0." ++ zeros (-d.point).toNat ++ digitText d.digits
  else if count ≤ d.point then digitText d.digits ++ zeros (d.point - count).toNat
  else digitText (d.digits.take d.point.toNat) ++ "." ++ digitText (d.digits.drop d.point.toNat)

def scientific (mark : String) (d : Digits) : String :=
  let tail := d.digits.drop 1
  digitText (d.digits.take 1) ++ (if tail.isEmpty then "" else "." ++ digitText tail)
    ++ exponentText mark (d.point - 1)

def magnitude (value : Binary) : String :=
  let d := shortest value
  if -4 < d.point ∧ d.point ≤ 16 then
    let text := positional d
    if (d.digits.length : Int) ≤ d.point then text ++ ".0" else text
  else scientific "e" d

def written (x : Float) : String :=
  match classify x.toBits with
  | (_, .nan) => "nan"
  | (negative, .infinite) => if negative then "-inf" else "inf"
  | (negative, .finite value) => (if negative then "-" else "") ++ magnitude value

def fixedMagnitude (value : Binary) (places : Nat) : String :=
  let digits := toString (scaled value places)
  if places == 0 then digits
  else
    let padded := zeros (places + 1 - digits.length) ++ digits
    let whole := padded.length - places
    String.ofList (padded.toList.take whole) ++ "." ++ String.ofList (padded.toList.drop whole)

end Decimal

end Playhouse
