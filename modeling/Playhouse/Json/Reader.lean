import Playhouse.Text.Integer

/-!
Reading JSON text. A fault names the place in the text where reading stopped; of several faults the
first from the left is reported. Numbers with a fraction or an exponent are floats, others integers.
Lists and records may be nested up to a depth.
-/
namespace Playhouse.Json

inductive Problem where
  | value | propertyName | colon | comma | extraData | openText | controlCharacter | escape
  | unitEscape | byteOrderMark
  | longInteger (digits : Nat)
  | tooDeep (isRecord : Bool)
  deriving DecidableEq

def Problem.wording : Problem → String
  | value => "Expecting value"
  | propertyName => "Expecting property name enclosed in double quotes"
  | colon => "Expecting ':' delimiter"
  | comma => "Expecting ',' delimiter"
  | extraData => "Extra data"
  | openText => "Unterminated string starting at"
  | controlCharacter => "Invalid control character at"
  | escape => "Invalid \\escape"
  | unitEscape => "Invalid \\uXXXX escape"
  | byteOrderMark => "Unexpected UTF-8 BOM (decode using utf-8-sig)"
  | longInteger digits => (IntegerProblem.tooLong digits).message
  | tooDeep isRecord => "maximum recursion depth exceeded while decoding a JSON "
      ++ (if isRecord then "object" else "array") ++ " from a unicode string"

/-- Whether a problem is one of the form of the text, and is told with its place. -/
def Problem.hasPlace : Problem → Bool
  | longInteger _ | tooDeep _ => false
  | _ => true

/-- What went wrong and at which character, counted from 0; line and column count from 1. -/
structure Fault where
  problem : Problem
  offset : Nat
  line : Nat
  column : Nat
  deriving DecidableEq

def Fault.at (problem : Problem) (document : List Char) (offset : Nat) : Fault :=
  let before := document.take offset
  ⟨problem, offset, before.count '\n' + 1, (before.reverse.takeWhile (· ≠ '\n')).length + 1⟩

def Fault.message (fault : Fault) : String :=
  if !fault.problem.hasPlace then fault.problem.wording
  else fault.problem.wording ++ ": line " ++ toString fault.line ++ " column " ++ toString fault.column
    ++ " (char " ++ toString fault.offset ++ ")"

/-- What is left to read and how much was read. -/
structure Cursor where
  offset : Nat
  rest : List Char

abbrev Scan := Except (Problem × Nat)

def Cursor.skip (cursor : Cursor) (n : Nat) : Cursor := ⟨cursor.offset + n, cursor.rest.drop n⟩

def isGap (c : Char) : Bool := c == ' ' || c == '\t' || c == '\n' || c == '\r'

def Cursor.skipGaps (cursor : Cursor) : Cursor :=
  cursor.skip (cursor.rest.takeWhile isGap).length

def hexValue? (c : Char) : Option Nat :=
  if '0' ≤ c ∧ c ≤ '9' then some (c.toNat - 48)
  else if 'a' ≤ c ∧ c ≤ 'f' then some (c.toNat - 87)
  else if 'A' ≤ c ∧ c ≤ 'F' then some (c.toNat - 55)
  else none

/-- The number written by exactly four hexadecimal digits. -/
def unit? : List Char → Option Nat
  | [a, b, c, d] => do
    return ((← hexValue? a) * 16 + (← hexValue? b)) * 256 + (← hexValue? c) * 16 + (← hexValue? d)
  | _ => none

def simpleEscape? : Char → Option Char
  | '"' => some '"'
  | '\\' => some '\\'
  | '/' => some '/'
  | 'b' => some '\x08'
  | 'f' => some '\x0c'
  | 'n' => some '\n'
  | 'r' => some '\r'
  | 't' => some '\t'
  | _ => none

/-- Reads the rest of a text whose opening quote stands at `start`. -/
def readText (start : Nat) : Nat → Cursor → List Char → Scan (List Char × Cursor)
  | 0, _, _ => .error (.openText, start)
  | fuel + 1, cursor, done =>
    match cursor.rest with
    | [] => .error (.openText, start)
    | '"' :: _ => .ok (done.reverse, cursor.skip 1)
    | '\\' :: rest =>
      match rest with
      | [] => .error (.openText, start)
      | 'u' :: units =>
        if units.length ≤ 4 then .error (.unitEscape, cursor.offset + 1) else
        match unit? (units.take 4) with
        | none => .error (.unitEscape, cursor.offset + 1)
        | some high =>
          let next := cursor.skip 6
          let pair := 0xd800 ≤ high && high ≤ 0xdbff && 6 < next.rest.length
            && next.rest.take 2 == ['\\', 'u']
          if !pair then readText start fuel next (Text.ofCode high :: done) else
          match unit? (next.rest.drop 2 |>.take 4) with
          | none => .error (.unitEscape, next.offset + 1)
          | some low =>
            if 0xdc00 ≤ low ∧ low ≤ 0xdfff then
              let c := Char.ofNat (0x10000 + (high - 0xd800) * 0x400 + (low - 0xdc00))
              readText start fuel (next.skip 6) (c :: done)
            else readText start fuel next (Text.ofCode high :: done)
      | c :: _ =>
        match simpleEscape? c with
        | some plain => readText start fuel (cursor.skip 2) (plain :: done)
        | none => .error (.escape, cursor.offset)
    | c :: _ =>
      if c.toNat < 32 then .error (.controlCharacter, cursor.offset)
      else readText start fuel (cursor.skip 1) (c :: done)

def readNat (digits : List Char) : Nat := digits.foldl (fun n c => n * 10 + (c.toNat - 48)) 0

/-- The number nearest to the decimal `digits * 10 ^ power`. -/
def decimal (negative : Bool) (digits : Nat) (power : Int) : Float :=
  let x := Float.ofModel (Float.Model.ofScientific digits power)
  if negative then -x else x

/-- The digits after the point, if a point and a digit follow. -/
def fraction : List Char → List Char
  | '.' :: rest => rest.takeWhile Char.isDigit
  | _ => []

/-- The exponent at the front of a text and its length; nothing if no digit follows the mark. -/
def exponent : List Char → Option (Int × Nat)
  | mark :: rest =>
    if mark == 'e' || mark == 'E' then
      let (negative, signed, body) := match rest with
        | '-' :: body => (true, 1, body)
        | '+' :: body => (false, 1, body)
        | body => (false, 0, body)
      let digits := body.takeWhile Char.isDigit
      if digits.isEmpty then none
      else some (if negative then -readNat digits else readNat digits, 1 + signed + digits.length)
    else none
  | [] => none

/-- The digits before the point. A leading zero is a number of its own. -/
def wholeDigits : List Char → List Char
  | '0' :: _ => ['0']
  | body => body.takeWhile Char.isDigit

def readNumber (cursor : Cursor) : Scan (Value × Cursor) :=
  let negative := cursor.rest.head? == some '-'
  let body := if negative then cursor.rest.drop 1 else cursor.rest
  let whole := wholeDigits body
  if whole.isEmpty then .error (.value, cursor.offset) else
  let afterWhole := body.drop whole.length
  let places := fraction afterWhole
  let afterPlaces := if places.isEmpty then afterWhole else afterWhole.drop (places.length + 1)
  let signLength := if negative then 1 else 0
  let fractionLength := if places.isEmpty then 0 else places.length + 1
  match places, exponent afterPlaces with
  | [], none =>
    if IntegerProblem.digitLimit < whole.length then .error (.longInteger whole.length, cursor.offset) else
    let n : Int := readNat whole
    .ok (.int (if negative then -n else n), cursor.skip (signLength + whole.length))
  | places, power =>
    let (power, powerLength) := power.getD (0, 0)
    .ok (.float (decimal negative (readNat (whole ++ places)) (power - places.length)),
      cursor.skip (signLength + whole.length + fractionLength + powerLength))

/-- A fixed word, if the text starts with it. -/
def word? (cursor : Cursor) (spelling : String) (value : Value) : Option (Value × Cursor) :=
  if spelling.toList.isPrefixOf cursor.rest then some (value, cursor.skip spelling.length) else none

def readWord (cursor : Cursor) : Option (Value × Cursor) :=
  word? cursor "null" .null <|> word? cursor "true" (.bool true) <|> word? cursor "false" (.bool false)
    <|> word? cursor "NaN" (.float (0.0 / 0.0)) <|> word? cursor "Infinity" (.float (1.0 / 0.0))
    <|> word? cursor "-Infinity" (.float (-1.0 / 0.0))

mutual

/-- One value at the front of the text, nested at most `depth` deep. Every step passes at least one
character, so a fuel of the length of the text is enough. -/
def readValue : Nat → Nat → Cursor → Scan (Value × Cursor)
  | 0, _, cursor => .error (.value, cursor.offset)
  | fuel + 1, depth, cursor =>
    match cursor.rest with
    | '"' :: _ => do
      let (text, next) ← readText cursor.offset (cursor.rest.length + 1) (cursor.skip 1) []
      return (.text (String.ofList text), next)
    | '\x7b' :: _ =>
      if depth == 0 then .error (.tooDeep true, cursor.offset) else
      let inside := (cursor.skip 1).skipGaps
      if inside.rest.head? == some '\x7d' then .ok (.record [], inside.skip 1) else do
        let (fields, next) ← readFields fuel (depth - 1) inside
        return (.record (Fields.ofPairs fields), next)
    | '[' :: _ =>
      if depth == 0 then .error (.tooDeep false, cursor.offset) else
      let inside := (cursor.skip 1).skipGaps
      if inside.rest.head? == some ']' then .ok (.list [], inside.skip 1) else do
        let (items, next) ← readItems fuel (depth - 1) inside
        return (.list items, next)
    | _ =>
      match readWord cursor with
      | some found => .ok found
      | none => readNumber cursor

/-- The items of a list up to its end. -/
def readItems : Nat → Nat → Cursor → Scan (List Value × Cursor)
  | 0, _, cursor => .error (.value, cursor.offset)
  | fuel + 1, depth, cursor => do
    let (item, next) ← readValue fuel depth cursor
    let next := next.skipGaps
    match next.rest with
    | ']' :: _ => return ([item], next.skip 1)
    | ',' :: _ =>
      let (items, last) ← readItems fuel depth (next.skip 1).skipGaps
      return (item :: items, last)
    | _ => .error (.comma, next.offset)

/-- The fields of a record up to its end. -/
def readFields : Nat → Nat → Cursor → Scan (List (String × Value) × Cursor)
  | 0, _, cursor => .error (.propertyName, cursor.offset)
  | fuel + 1, depth, cursor => do
    if cursor.rest.head? != some '"' then .error (.propertyName, cursor.offset) else
    let (key, next) ← readText cursor.offset (cursor.rest.length + 1) (cursor.skip 1) []
    let next := next.skipGaps
    if next.rest.head? != some ':' then .error (.colon, next.offset) else
    let (value, next) ← readValue fuel depth (next.skip 1).skipGaps
    let next := next.skipGaps
    let field := (String.ofList key, value)
    match next.rest with
    | '\x7d' :: _ => return ([field], next.skip 1)
    | ',' :: _ =>
      let (fields, last) ← readFields fuel depth (next.skip 1).skipGaps
      return (field :: fields, last)
    | _ => .error (.comma, next.offset)

end

def readAll (depth : Nat) (document : List Char) : Scan Value := do
  if document.head? == some '\ufeff' then .error (.byteOrderMark, 0) else
  let (value, next) ← readValue (2 * document.length + 2) depth (Cursor.skipGaps ⟨0, document⟩)
  let last := next.skipGaps
  if last.rest.isEmpty then return value else .error (.extraData, last.offset)

/-- The document that a JSON text writes, nested at most `depth` deep. -/
def readWithin (depth : Nat) (document : String) : Except Fault Value :=
  (readAll depth document.toList).mapError fun (problem, offset) =>
    Fault.at problem document.toList offset

/-- How deep the documents in files may be nested. -/
def depthLimit : Nat := 980

def read (document : String) : Except Fault Value := readWithin depthLimit document

end Playhouse.Json
