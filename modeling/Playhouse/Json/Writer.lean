import Playhouse.Data.Show

/-!
The JSON text of a document, in ASCII: other characters are written as escapes of their UTF-16
units. The spread form puts each item on a line of its own; the plain form stays on one line.
-/
namespace Playhouse.Json

def unitEscape (unit : Nat) : List Char := '\\' :: 'u' :: Text.hexDigits 4 unit

def escapeChar (c : Char) : List Char :=
  if c == '"' then ['\\', '"']
  else if c == '\\' then ['\\', '\\']
  else if c == '\n' then ['\\', 'n']
  else if c == '\r' then ['\\', 'r']
  else if c == '\t' then ['\\', 't']
  else if c == '\x08' then ['\\', 'b']
  else if c == '\x0c' then ['\\', 'f']
  else
    let code := Text.codeOf c
    if 32 ≤ code ∧ code < 127 then [c]
    else if code < 0x10000 then unitEscape code
    else unitEscape (0xd800 + (code - 0x10000) / 0x400) ++ unitEscape (0xdc00 + (code - 0x10000) % 0x400)

def textChars (text : List Char) : List Char := '"' :: text.flatMap escapeChar ++ ['"']

def text (s : String) : String := String.ofList (textChars s.toList)

/-- A number that JSON has no word for is written as in the common extension. -/
def number (x : Float) : String :=
  if x.isNaN then "NaN"
  else if x.isInf then (if x < 0 then "-Infinity" else "Infinity")
  else Decimal.written x

def keyName : Key → String
  | .null => "null"
  | .bool true => "true"
  | .bool false => "false"
  | .int n => toString n
  | .float x => number x
  | .text s => s

mutual

/-- The form on one line, with a blank after each comma and colon. -/
def plain : Value → String
  | .null => "null"
  | .bool true => "true"
  | .bool false => "false"
  | .int n => toString n
  | .float x => number x
  | .text s => text s
  | .list items => "[" ++ joinTexts ", " (plainItems items) ++ "]"
  | .record fields => "\x7b" ++ joinTexts ", " (plainFields fields) ++ "\x7d"

def plainItems : List Value → List String
  | [] => []
  | item :: rest => plain item :: plainItems rest

def plainFields : List (Key × Value) → List String
  | [] => []
  | (key, value) :: rest => (text (keyName key) ++ ": " ++ plain value) :: plainFields rest

end

def newline (width depth : Nat) : String := "\n" ++ String.ofList (List.replicate (width * depth) ' ')

mutual

/-- The form with each item on its own line, indented by `width` blanks for each level. -/
def spreadAt (width depth : Nat) : Value → String
  | .list [] => "[]"
  | .record [] => "\x7b\x7d"
  | .list items =>
    "[" ++ newline width (depth + 1)
      ++ joinTexts ("," ++ newline width (depth + 1)) (spreadItems width (depth + 1) items)
      ++ newline width depth ++ "]"
  | .record fields =>
    "\x7b" ++ newline width (depth + 1)
      ++ joinTexts ("," ++ newline width (depth + 1)) (spreadFields width (depth + 1) fields)
      ++ newline width depth ++ "\x7d"
  | .null => "null"
  | .bool true => "true"
  | .bool false => "false"
  | .int n => toString n
  | .float x => number x
  | .text s => text s

def spreadItems (width depth : Nat) : List Value → List String
  | [] => []
  | item :: rest => spreadAt width depth item :: spreadItems width depth rest

def spreadFields (width depth : Nat) : List (Key × Value) → List String
  | [] => []
  | (key, value) :: rest =>
    (text (keyName key) ++ ": " ++ spreadAt width depth value) :: spreadFields width depth rest

end

def spread (width : Nat) (value : Value) : String := spreadAt width 0 value

end Playhouse.Json
