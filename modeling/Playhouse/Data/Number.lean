import Playhouse.Decimal.Written

/-!
Numbers that are whole or floating. An integer and a float are compared by their exact values; two
floats by the comparison of floats.
-/
namespace Playhouse

inductive Number where
  | int (n : Int)
  | float (x : Float)
  deriving DecidableEq

namespace Number

/-- An integer compared with a float. Nothing compares with a float that is no number. -/
def compareWith? (n : Int) (x : Float) : Option Ordering :=
  match Decimal.classify x.toBits with
  | (_, .nan) => none
  | (negative, .infinite) => some (if negative then .gt else .lt)
  | (negative, .finite value) =>
    let signed : Int := if negative then -value.mantissa else value.mantissa
    some (if value.exponent < 0 then compare (n * twoTo (-value.exponent).toNat) signed
      else compare n (signed * twoTo value.exponent.toNat))

def equal : Number → Number → Bool
  | int m, int n => m == n
  | float x, float y => x == y
  | int m, float y => compareWith? m y == some .eq
  | float x, int n => compareWith? n x == some .eq

def less : Number → Number → Bool
  | int m, int n => m < n
  | float x, float y => x < y
  | int m, float y => compareWith? m y == some .lt
  | float x, int n => compareWith? n x == some .gt

def lessEq : Number → Number → Bool
  | int m, int n => m ≤ n
  | float x, float y => x ≤ y
  | int m, float y => compareWith? m y == some .lt || compareWith? m y == some .eq
  | float x, int n => compareWith? n x == some .gt || compareWith? n x == some .eq

def toFloat : Number → Float
  | int n => Float.ofInt n
  | float x => x

/-- The float next to a number; there is none for a whole number beyond all floats. -/
def toFloat? : Number → Option Float
  | int n => if (Float.ofInt n).isInf then none else some (Float.ofInt n)
  | float x => some x

def add? : Number → Number → Option Number
  | int m, int n => some (int (m + n))
  | a, b => do return float ((← a.toFloat?) + (← b.toFloat?))

def sub? : Number → Number → Option Number
  | int m, int n => some (int (m - n))
  | a, b => do return float ((← a.toFloat?) - (← b.toFloat?))

/-- The half of a number as a float, rounded once. -/
def half? : Number → Option Float
  | int n =>
    let size := Float.ofScientific (5 * n.natAbs) true 1
    if size.isInf then none else some (if n < 0 then -size else size)
  | float x => some (x / 2)

def mul : Number → Number → Number
  | int m, int n => int (m * n)
  | a, b => float (a.toFloat * b.toFloat)

/-- The integer part of a number, cut toward zero; nothing for what is not finite. -/
def truncate? : Number → Option Int
  | int n => some n
  | float x =>
    match Decimal.classify x.toBits with
    | (negative, .finite value) =>
      let size := if value.exponent < 0 then value.mantissa / twoTo (-value.exponent).toNat
        else value.mantissa * twoTo value.exponent.toNat
      some (if negative then -size else size)
    | _ => none

end Number
end Playhouse
