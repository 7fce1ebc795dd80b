import Playhouse.Fault

/-!
Addresses of pages: percent signs for bytes, queries, and how an address is written that a client is
sent to.
-/
namespace Playhouse.Site
open Text

namespace Address

def isLetter (c : Char) : Bool :=
  (65 ≤ c.toNat && c.toNat ≤ 90) || (97 ≤ c.toNat && c.toNat ≤ 122)

/-- Letters, digits and the marks that are never replaced. -/
def isPlain (c : Char) : Bool :=
  isLetter c || (48 ≤ c.toNat && c.toNat ≤ 57) || "-._~$!'()*+,;".toList.contains c

def hexDigit (n : Nat) : Char := Char.ofNat (if n < 10 then 48 + n else 55 + n)

/-- A percent sign and two digits for each byte of a character. -/
def escaped (c : Char) : List Char :=
  (bytesOf c).flatMap fun b => ['%', hexDigit (b.toNat / 16), hexDigit (b.toNat % 16)]

/-- A text with every character replaced that is neither plain nor kept. -/
def quote (keep : Char → Bool) (text : List Char) : List Char :=
  text.flatMap fun c => if isPlain c || keep c then [c] else escaped c

/-- A name or value of a query: blanks are plus signs. -/
def quoteValue (text : List Char) : List Char :=
  text.flatMap fun c => if c == ' ' then ['+'] else if isPlain c && c != '+' then [c] else escaped c

/-- The bytes that a text stands for. A percent sign without two digits stands for itself. -/
def unescape : List Char → List UInt8
  | [] => []
  | c :: rest =>
    if c == '%' then
      match rest with
      | a :: b :: more =>
        match Json.hexValue? a, Json.hexValue? b with
        | some x, some y => UInt8.ofNat (16 * x + y) :: unescape more
        | _, _ => bytesOf c ++ unescape (a :: b :: more)
      | [a] => bytesOf c ++ unescape [a]
      | [] => bytesOf c
    else bytesOf c ++ unescape rest

def unquote (text : List Char) : List Char := decodeBytes (unescape text)

def unquoteValue (text : List Char) : List Char :=
  unquote (text.map fun c => if c == '+' then ' ' else c)

def queryPairs (query : List Char) : List (List Char × List Char) :=
  ((split ['&'] query).filter (· ≠ [])).map fun pair =>
    match cut? ['='] pair with
    | some (name, value) => (unquoteValue name, unquoteValue value)
    | none => (unquoteValue pair, [])

def query (pairs : List (String × String)) : String :=
  String.ofList (join ['&'] (pairs.map fun (name, value) =>
    quoteValue name.toList ++ ['='] ++ quoteValue value.toList))

/-- The text before a mark and the text after it, if the mark occurs. -/
def cutAt (mark : Char) (text : List Char) : List Char × Option (List Char) :=
  match text.span (· ≠ mark) with
  | (before, []) => (before, none)
  | (before, _ :: rest) => (before, some rest)

def isGap (c : Char) : Bool := c == ' ' || (9 ≤ c.toNat && c.toNat ≤ 13)

/-- Whether a text holds only ASCII characters and no blank. -/
def isBare (text : List Char) : Bool := text.all fun c => c.toNat < 128 && !isGap c

/-- How the address is written that a client is sent to. One that is bare but for blanks at its end is
written as it is, unless a line ends there; any other has percent signs for what is not bare. -/
def located (text : String) : Except Fault String :=
  if isBare (text.toList.reverse.dropWhile isGap) then
    if text.toList.any fun c => c == '\n' || c == '\r' then .error .brokenHeader else .ok text
  else
    let (rest, fragment) := cutAt '#' text.toList
    let (path, query) := cutAt '?' rest
    let quoted := quote fun c => ":/?#[]@!$&'()*+,;=%".toList.contains c
    let marked (mark : Char) (part : Option (List Char)) : List Char :=
      match quoted (part.getD []) with
      | [] => []
      | text => mark :: text
    .ok (String.ofList (quoted path ++ marked '?' query ++ marked '#' fragment))

end Address
end Playhouse.Site
