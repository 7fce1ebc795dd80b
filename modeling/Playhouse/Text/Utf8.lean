/-!
Code points, UTF-16 code units and bytes. Half of a pair of units is no character. A text that has to hold one alone
holds the private-use character `halfShift` above it, and the half is what is written for that character again. Bytes
that are no text are read as U+FFFD, one for each longest part that could have begun a character.
-/
namespace Playhouse.Text

/-- Whether a code point is half of a pair of units. -/
def isHalf (code : Nat) : Bool := 0xd800 ≤ code && code ≤ 0xdfff

/-- The distance from a half to the character that holds it. -/
def halfShift : Nat := 0x100000

/-- The character that holds a code point. -/
def ofCode (code : Nat) : Char := Char.ofNat (if isHalf code then code + halfShift else code)

/-- The code point that a character holds. -/
def codeOf (c : Char) : Nat :=
  if isHalf (c.toNat - halfShift) then c.toNat - halfShift else c.toNat

def bytesOf (c : Char) : List UInt8 := (String.singleton c).toUTF8.toList

/-- What the first byte of a character says: its bits of the code, how many bytes follow, and the
range of the first of them. -/
def leadOf? (b : Nat) : Option (Nat × Nat × Nat × Nat) :=
  if b < 0x80 then some (b, 0, 0, 0)
  else if b < 0xC2 then none
  else if b < 0xE0 then some (b - 0xC0, 1, 0x80, 0xBF)
  else if b == 0xE0 then some (0, 2, 0xA0, 0xBF)
  else if b == 0xED then some (0xD, 2, 0x80, 0x9F)
  else if b < 0xF0 then some (b - 0xE0, 2, 0x80, 0xBF)
  else if b == 0xF0 then some (0, 3, 0x90, 0xBF)
  else if b < 0xF4 then some (b - 0xF0, 3, 0x80, 0xBF)
  else if b == 0xF4 then some (4, 3, 0x80, 0x8F)
  else none

def unreadable : Char := Char.ofNat 0xFFFD

/-- Reads bytes; `wanted` of them are still to come for the character begun with `code`, the next in
the given range. -/
def decodeFrom : Nat → Nat → Nat → Nat → List UInt8 → List Char
  | wanted, _, _, _, [] => if wanted == 0 then [] else [unreadable]
  | wanted, code, low, high, byte :: rest =>
    let b := byte.toNat
    let start : List Char :=
      match leadOf? b with
      | none => unreadable :: decodeFrom 0 0 0 0 rest
      | some (code, 0, _, _) => Char.ofNat code :: decodeFrom 0 0 0 0 rest
      | some (code, more, low, high) => decodeFrom more code low high rest
    match wanted with
    | 0 => start
    | left + 1 =>
      if low ≤ b && b ≤ high then
        let code := code * 64 + (b - 0x80)
        if left == 0 then Char.ofNat code :: decodeFrom 0 0 0 0 rest
        else decodeFrom left code 0x80 0xBF rest
      else unreadable :: start

def decodeBytes (bytes : List UInt8) : List Char := decodeFrom 0 0 0 0 bytes

end Playhouse.Text
