import Playhouse.Data.Value
import Playhouse.Template.Problem
import Playhouse.Text.Digit

/-!
Layouts: how a field of a template is written. A layout is read from
`[[fill]align][sign][z][#][0][width][separator][.precision][code]`, every part optional, and then
applied to a text, a whole number or a floating-point number.
-/
namespace Playhouse.Template
open Decimal

/-- Where padding goes: after, before, around, or between the sign and the digits. -/
inductive Align where
  | left | right | centre | inner
  deriving DecidableEq

structure Layout where
  fill : Char := ' '
  align : Align
  sign : Option Char := none
  plainZero : Bool := false
  alternate : Bool := false
  width : Option Nat := none
  separator : Option Char := none
  precision : Option Nat := none
  code : Option Char := none
  deriving DecidableEq

namespace Layout

def align? : Char → Option Align
  | '<' => some .left
  | '>' => some .right
  | '^' => some .centre
  | '=' => some .inner
  | _ => none

/-- Takes a character off the front if it is there. -/
def takeMark (mark : Char) : List Char → Bool × List Char
  | c :: rest => if c == mark then (true, rest) else (false, c :: rest)
  | [] => (false, [])

/-- Reads leading decimal digits as a number; there may be none. -/
def takeNumber : List Char → Option Nat → Except Problem (Option Nat × List Char)
  | [], read => .ok (read, [])
  | c :: rest, read =>
    match Text.decimalDigit? c with
    | none => .ok (read, c :: rest)
    | some digit =>
      if read.getD 0 > 9223372036854775807 / 10 then .error .manyDigits
      else takeNumber rest (some (read.getD 0 * 10 + digit))

/-- Fill and alignment: a character before an alignment mark is the fill. -/
def takeAlign : List Char → Option Char × Option Align × List Char
  | [] => (none, none, [])
  | [c] =>
    match align? c with
    | some align => (none, some align, [])
    | none => (none, none, [c])
  | c :: d :: rest =>
    match align? d, align? c with
    | some align, _ => (some c, some align, rest)
    | none, some align => (none, some align, d :: rest)
    | none, none => (none, none, c :: d :: rest)

def takeSign : List Char → Option Char × List Char
  | c :: rest => if c == ' ' || c == '+' || c == '-' then (some c, rest) else (none, c :: rest)
  | [] => (none, [])

/-- The separator of thousands: a comma or an underscore, not both. -/
def takeSeparator (text : List Char) : Except Problem (Option Char × List Char) :=
  match text with
  | ',' :: '_' :: _ => .error .bothSeparators
  | '_' :: ',' :: _ => .error .bothSeparators
  | ',' :: rest => .ok (some ',', rest)
  | '_' :: rest => .ok (some '_', rest)
  | rest => .ok (none, rest)

def takePrecision (text : List Char) : Except Problem (Option Nat × List Char) :=
  match text with
  | '.' :: rest => do
    let (precision, rest) ← takeNumber rest none
    if precision.isNone then .error .noPrecision else .ok (precision, rest)
  | rest => .ok (none, rest)

/-- Whether a separator may stand with a code; the character zero is like no code. -/
def separates (separator : Char) : Option Char → Bool
  | none => true
  | some code => code ∈ ['d', 'e', 'f', 'g', 'E', 'G', '%', 'F', '\x00']
      || (separator == '_' && code ∈ ['b', 'o', 'x', 'X'])

/-- Reads a layout for a value of the named kind, which brings its own alignment and code. -/
def read (kind : String) (align : Align) (code : Option Char) (text : List Char) :
    Except Problem Layout := do
  let (fill, given, rest) := takeAlign text
  let (sign, rest) := takeSign rest
  let (plainZero, rest) := takeMark 'z' rest
  let (alternate, rest) := takeMark '#' rest
  let (zeros, rest) := if fill.isNone then takeMark '0' rest else (false, rest)
  let (width, rest) ← takeNumber rest none
  let (separator, rest) ← takeSeparator rest
  let (precision, rest) ← takePrecision rest
  let layout : Layout :=
    { fill := fill.getD (if zeros then '0' else ' ')
      align := given.getD (if zeros && align == .right then .inner else align)
      sign, plainZero, alternate, width, separator, precision, code }
  let layout ← match rest with
    | [] => pure layout
    | [c] => pure { layout with code := some c }
    | _ => throw (.invalidLayout (String.ofList text) kind)
  match layout.separator with
  | some mark =>
    if separates mark layout.code then return layout
    else throw (.separatorWith mark (layout.code.getD 's'))
  | none => return layout

/-! ### Padding -/

def pad (layout : Layout) (text : List Char) : List Char :=
  let missing := layout.width.getD 0 - text.length
  let before := match layout.align with
    | .right => missing
    | .centre => missing / 2
    | .left | .inner => 0
  List.replicate before layout.fill ++ text ++ List.replicate (missing - before) layout.fill

/-- Digits, last first, in groups with a separator between them, filled up with zeros until they
take at least `least` places. The groups are built from the last one. -/
def groupsFrom (size : Nat) (separator : List Char) : Nat → List Char → Nat → List Char
  | 0, digits, _ => digits
  | fuel + 1, digits, least =>
    let length := min size (max (max digits.length least) 1)
    let group := digits.take length ++ List.replicate (length - digits.length) '0'
    let rest := digits.drop length
    let still := least - length
    if rest.isEmpty && still == 0 then group
    else group ++ separator ++ groupsFrom size separator fuel rest (still - separator.length)

/-- Digits with separators, filled up with zeros to at least `least` places. -/
def grouped (size : Nat) (separator : Option Char) (digits : List Char) (least : Nat) : List Char :=
  match separator with
  | none => List.replicate (least - digits.length) '0' ++ digits
  | some mark =>
    (groupsFrom size [mark] (digits.length + least + 1) digits.reverse least).reverse

/-- A number out of its sign, the mark of its base, its digits and what follows them. -/
def number (layout : Layout) (negative : Bool) (base digits tail : List Char) : List Char :=
  let sign := if negative then ['-'] else match layout.sign with
    | some '+' => ['+']
    | some ' ' => [' ']
    | _ => []
  let fixedPart := sign.length + base.length + tail.length
  let least := if layout.fill == '0' && layout.align == .inner then layout.width.getD 0 - fixedPart else 0
  let size := if layout.code ∈ [some 'b', some 'o', some 'x', some 'X'] then 4 else 3
  let body := if digits.isEmpty then [] else grouped size layout.separator digits least
  if layout.align == .inner then
    let missing := layout.width.getD 0 - (fixedPart + body.length)
    sign ++ base ++ List.replicate missing layout.fill ++ body ++ tail
  else layout.pad (sign ++ base ++ body ++ tail)

/-! ### Texts -/

def ofText (layout : Layout) (text : List Char) : Except Problem (List Char) :=
  if layout.sign == some ' ' then .error .spaceOnText
  else if layout.sign.isSome then .error .signOnText
  else if layout.plainZero then .error .zeroOnText
  else if layout.alternate then .error .alternateOnText
  else if layout.align == .inner then .error .innerPaddingOnText
  else .ok (layout.pad (match layout.precision with
    | some n => text.take n
    | none => text))

/-! ### Whole numbers -/

def ofInteger (layout : Layout) (n : Int) : Except Problem (List Char) :=
  if layout.precision.isSome then .error .precisionOnInteger
  else if layout.plainZero then .error .zeroOnInteger
  else if layout.code == some 'c' then
    if layout.sign.isSome then .error .signOnCharacter
    else if layout.alternate then .error .alternateOnCharacter
    else if n < -9223372036854775808 || 9223372036854775808 ≤ n then .error .hugeCharacter
    else if n < 0 || 0x110000 ≤ n then .error .notCharacter
    else .ok (layout.number false [] [] [Text.ofCode n.toNat])
  else
    let (size, base) : Nat × List Char := match layout.code with
      | some 'b' => (2, ['0', 'b'])
      | some 'o' => (8, ['0', 'o'])
      | some 'x' => (16, ['0', 'x'])
      | some 'X' => (16, ['0', 'X'])
      | _ => (10, [])
    let digits := Nat.toDigits size n.natAbs
    let digits := if layout.code == some 'X' then digits.map Char.toUpper else digits
    .ok (layout.number (n < 0) (if layout.alternate then base else []) digits [])

/-! ### Floating-point numbers -/

/-- Digits before the exponent of a number, with a point if there are several or one is asked for. -/
def withExponent (alternate : Bool) (d : Digits) : String :=
  if d.digits.length == 1 && alternate then
    digitText d.digits ++ "." ++ exponentText "e" (d.point - 1)
  else scientific "e" d

/-- Digits written positionally while their point is within `limit` places, with an exponent
otherwise. -/
def general (alternate : Bool) (limit : Int) (d : Digits) : String :=
  if -4 < d.point ∧ d.point ≤ limit then
    let text := positional d
    if (d.digits.length : Int) ≤ d.point ∧ alternate then text ++ "." else text
  else withExponent alternate d

/-- Adds a decimal place to a number that has neither a point nor an exponent. -/
def withPlace (text : String) : String :=
  if text.toList.any fun c => c == '.' || c == 'e' then text else text ++ ".0"

/-- At least one digit is left. -/
def significantDigits (alternate : Bool) (value : Binary) (count : Nat) : Digits :=
  let d := significant value count
  if alternate then d else { d with digits := d.digits.take 1 ++ dropZeros (d.digits.drop 1) }

def magnitude (layout : Layout) (value : Binary) : String :=
  match layout.code, layout.precision with
  | none, none =>
    let d := shortest value
    if -4 < d.point ∧ d.point ≤ 16 then Decimal.magnitude value else withExponent layout.alternate d
  | none, some n =>
    let count := max n 1
    withPlace (general layout.alternate (count - 1) (significantDigits layout.alternate value count))
  | some code, precision =>
    let places := precision.getD 6
    if code == 'e' || code == 'E' then
      withExponent layout.alternate (significant value (places + 1))
    else if code == 'g' || code == 'G' || code == 'n' then
      let count := max places 1
      general layout.alternate count (significantDigits layout.alternate value count)
    else
      let text := fixedMagnitude value places
      if layout.alternate && places == 0 then text ++ "." else text

def ofFloat (layout : Layout) (x : Float) : Except Problem (List Char) :=
  if layout.precision.any (· > 2147483647) then .error .hugePrecision else
  let percent := layout.code == some '%'
  let (negative, text) := match classify (if percent then x * 100 else x).toBits with
    | (_, .nan) => (false, "nan")
    | (negative, .infinite) => (negative, "inf")
    | (negative, .finite value) =>
      let text := layout.magnitude value
      let isZero := (text.toList.takeWhile (· != 'e')).all fun c => c == '0' || c == '.'
      (negative && !(layout.plainZero && isZero), text)
  let text := if layout.code ∈ [some 'E', some 'F', some 'G'] then text.toList.map Char.toUpper else text.toList
  let text := if percent then text ++ ['%'] else text
  .ok (layout.number negative [] (text.takeWhile Char.isDigit) (text.dropWhile Char.isDigit))

end Layout

def floatCodes : List Char := ['e', 'E', 'f', 'F', 'g', 'G', '%']

def integerCodes : List Char := ['b', 'c', 'd', 'o', 'x', 'X', 'n']

/-- A whole number in a layout; some codes write it as a floating-point number. -/
def layInteger (kind : String) (n : Int) (text : List Char) : Except Problem (List Char) := do
  let layout ← Layout.read kind .right (some 'd') text
  let code := layout.code.getD 'd'
  if code ∈ integerCodes then layout.ofInteger n
  else if code ∈ floatCodes then
    let x := Float.ofInt n
    if x.isInf then throw .hugeNumber else layout.ofFloat x
  else throw (.unknownCode code kind)

def layFloat (x : Float) (text : List Char) : Except Problem (List Char) := do
  let layout ← Layout.read "float" .right none text
  match layout.code with
  | none | some '\x00' => Layout.ofFloat { layout with code := none } x
  | some code =>
    if code ∈ floatCodes || code == 'n' then layout.ofFloat x else throw (.unknownCode code "float")

def layText (s : String) (text : List Char) : Except Problem (List Char) := do
  let layout ← Layout.read "str" .left (some 's') text
  if layout.code == some 's' then layout.ofText s.toList
  else throw (.unknownCode (layout.code.getD 's') "str")

end Playhouse.Template
