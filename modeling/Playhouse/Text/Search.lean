/-!
Blanks and lines, and searching, cutting and replacing in texts. Texts are lists of characters here, so that each
function follows the list. Each cut scans the text once from the left; `skip` counts the characters of a separator that
are still to be passed over. Files end a line with `\n`; a list of names may end one with any line end, and a file
written elsewhere may use `\r\n` or `\r`.
-/
namespace Playhouse

namespace Text

/-- A blank is a character of the Unicode white space property or one of the four information
separators U+001C to U+001F. -/
def isBlank (c : Char) : Bool :=
  let n := c.toNat
  (9 ≤ n && n ≤ 13) || (28 ≤ n && n ≤ 32) || n == 0x85 || n == 0xa0 || n == 0x1680
    || (0x2000 ≤ n && n ≤ 0x200a) || n == 0x2028 || n == 0x2029 || n == 0x202f || n == 0x205f
    || n == 0x3000

def trimStart (text : List Char) : List Char := text.dropWhile isBlank

def trimEnd (text : List Char) : List Char := (text.reverse.dropWhile isBlank).reverse

def trim (text : List Char) : List Char := trimEnd (trimStart text)

def pushFirst (c : Char) : List (List Char) → List (List Char)
  | [] => [[c]]
  | piece :: rest => (c :: piece) :: rest

/-- The maximal runs of characters outside `isGap`, with an empty piece at the front wherever the
text starts with a gap. -/
def runs (isGap : Char → Bool) : List Char → List (List Char)
  | [] => [[]]
  | c :: text =>
    if isGap c then
      match runs isGap text with
      | [] :: rest => [] :: rest
      | pieces => [] :: pieces
    else pushFirst c (runs isGap text)

/-- The words of a text: its maximal runs of non-blank characters. -/
def words (text : List Char) : List (List Char) := (runs isBlank text).filter (· ≠ [])

end Text

def trimmed (text : String) : String := String.ofList (Text.trim text.toList)

def isBlankText (text : String) : Bool := text.toList.all Text.isBlank

namespace Text

/-- What follows `head` at the front of a text, if the text starts with it. -/
def after? : List Char → List Char → Option (List Char)
  | [], text => some text
  | _ :: _, [] => none
  | h :: head, c :: text => if h = c then after? head text else none

def occurs (needle : List Char) : List Char → Bool
  | [] => needle.isEmpty
  | c :: text => needle.isPrefixOf (c :: text) || occurs needle text

/-- The pieces of a text between the occurrences of a non-empty separator, found from the left. -/
def splitFrom (separator : List Char) : Nat → List Char → List (List Char)
  | _, [] => [[]]
  | skip + 1, _ :: text => splitFrom separator skip text
  | 0, c :: text =>
    if separator.isPrefixOf (c :: text) then [] :: splitFrom separator (separator.length - 1) text
    else pushFirst c (splitFrom separator 0 text)

def split (separator text : List Char) : List (List Char) := splitFrom separator 0 text

/-- The text before the first occurrence of a separator and the text after it. -/
def cut? (separator : List Char) : List Char → Option (List Char × List Char)
  | [] => if separator.isEmpty then some ([], []) else none
  | c :: text =>
    match after? separator (c :: text) with
    | some rest => some ([], rest)
    | none => (cut? separator text).map fun (before, rest) => (c :: before, rest)

/-- The pieces put together with a text between each two. -/
def join (between : List Char) : List (List Char) → List Char
  | [] => []
  | [piece] => piece
  | piece :: rest => piece ++ between ++ join between rest

/-- Every occurrence of `old`, found from the left, replaced. -/
def replace (old new text : List Char) : List Char := join new (split old text)

/-- The text cut at its last occurrence of a character. -/
def cutLast? (mark : Char) (text : List Char) : Option (List Char × List Char) :=
  match text.reverse.span (· ≠ mark) with
  | (_, []) => none
  | (tail, _ :: head) => some (head.reverse, tail.reverse)

end Text

def occursIn (needle text : String) : Bool := Text.occurs needle.toList text.toList

def splitText (separator text : String) : List String :=
  (Text.split separator.toList text.toList).map String.ofList

def replaceText (old new text : String) : String :=
  String.ofList (Text.replace old.toList new.toList text.toList)

def startsWith (head text : String) : Bool := head.toList.isPrefixOf text.toList

def endsWith (tail text : String) : Bool := tail.toList.isSuffixOf text.toList

def joinTexts (between : String) (pieces : List String) : String :=
  String.ofList (Text.join between.toList (pieces.map String.toList))

def wordsOf (text : String) : List String := (Text.words text.toList).map String.ofList

namespace Text

/-- Every line end, whether `\r\n`, `\r` or `\n`, as `\n`. -/
def unified : List Char → List Char
  | [] => []
  | '\r' :: '\n' :: rest => '\n' :: unified rest
  | '\r' :: rest => '\n' :: unified rest
  | c :: rest => c :: unified rest

/-- The characters that end a line: the vertical controls, the three upper information separators,
the next-line control and the two Unicode separators. -/
def isLineEnd (c : Char) : Bool :=
  let n := c.toNat
  (10 ≤ n && n ≤ 13) || (28 ≤ n && n ≤ 30) || n == 0x85 || n == 0x2028 || n == 0x2029

/-- The lines of a text without their ends; `\r\n` is one end, and an end at the close of the text
opens no further line. -/
def lines : List Char → List (List Char)
  | [] => []
  | '\r' :: '\n' :: rest => [] :: lines rest
  | c :: rest => if isLineEnd c then [] :: lines rest else pushFirst c (lines rest)

/-- The lines of a text, each with the `\n` that ends it. -/
def fullLines : List Char → List (List Char)
  | [] => []
  | c :: rest => if c = '\n' then ['\n'] :: fullLines rest else pushFirst c (fullLines rest)

/-- A text without the `\r` and `\n` at its end. -/
def withoutEnd (text : List Char) : List Char :=
  (text.reverse.dropWhile fun c => c == '\r' || c == '\n').reverse

end Text

def unifiedLines (s : String) : String := String.ofList (Text.unified s.toList)

def linesOf (s : String) : List String := (Text.lines s.toList).map String.ofList

def fullLinesOf (s : String) : List String := (Text.fullLines s.toList).map String.ofList

end Playhouse
