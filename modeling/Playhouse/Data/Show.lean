import Playhouse.Data.Value
import Playhouse.Text.Printable
import Playhouse.Text.Utf8

/-!
The text of a document. A text inside a list or a record is quoted; the quote is the single one
unless the text holds that and no double one.
-/
namespace Playhouse

namespace Text

def hexDigit (n : Nat) : Char := if n < 10 then Char.ofNat (48 + n) else Char.ofNat (87 + n)

/-- The low `width` hexadecimal digits of a number. -/
def hexDigits : Nat → Nat → List Char
  | 0, _ => []
  | width + 1, n => hexDigits width (n / 16) ++ [hexDigit (n % 16)]

def escaped (code : Nat) : List Char :=
  if code < 0x100 then '\\' :: 'x' :: hexDigits 2 code
  else if code < 0x10000 then '\\' :: 'u' :: hexDigits 4 code
  else '\\' :: 'U' :: hexDigits 8 code

/-- A character inside quotes: itself if it can be shown, an escape otherwise. -/
def quoteChar (mark c : Char) : List Char :=
  if c == mark || c == '\\' then ['\\', c]
  else if c == '\n' then ['\\', 'n']
  else if c == '\r' then ['\\', 'r']
  else if c == '\t' then ['\\', 't']
  else if isPrintable c then [c]
  else escaped (codeOf c)

def quoted (text : List Char) : List Char :=
  let mark := if text.contains '\'' && !text.contains '"' then '"' else '\''
  mark :: text.flatMap (quoteChar mark) ++ [mark]

end Text

def quotedText (s : String) : String := String.ofList (Text.quoted s.toList)

def shownKey : Key → String
  | .null => "None"
  | .bool true => "True"
  | .bool false => "False"
  | .int n => toString n
  | .float x => Decimal.written x
  | .text s => quotedText s

namespace Value

mutual

/-- The form of a value inside another one. -/
def shown : Value → String
  | null => "None"
  | bool true => "True"
  | bool false => "False"
  | int n => toString n
  | float x => Decimal.written x
  | text s => quotedText s
  | list items => "[" ++ joinTexts ", " (shownItems items) ++ "]"
  | record fields => "\x7b" ++ joinTexts ", " (shownFields fields) ++ "\x7d"

def shownItems : List Value → List String
  | [] => []
  | item :: rest => shown item :: shownItems rest

def shownFields : List (Key × Value) → List String
  | [] => []
  | (key, value) :: rest => (shownKey key ++ ": " ++ shown value) :: shownFields rest

end

/-- The text of a value: a text is itself. -/
def asText : Value → String
  | text s => s
  | value => value.shown

end Value
end Playhouse
