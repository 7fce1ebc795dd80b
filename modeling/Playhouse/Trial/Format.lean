import Playhouse.Text.Digit
import Playhouse.Text.Search

/-!
The forms in which tags are written. Each names input files by their paths; before a comparison the
directories are taken off, line by line.
-/
namespace Playhouse.Trial
open Text

inductive Format where
  | ctags | etags | xref | json
  deriving DecidableEq

namespace Format

def name : Format → String
  | ctags => "ctags"
  | etags => "etags"
  | xref => "xref"
  | json => "json"

def all : List Format := [ctags, etags, xref, json]

def ofName? (name : String) : Option Format := all.find? (·.name == name)

def expectedFile : Format → String
  | ctags => "expected.tags"
  | etags => "expected.tags-e"
  | xref => "expected.tags-x"
  | json => "expected.tags-json"

def flags : Format → List String
  | ctags => []
  | etags => ["-e", "--tag-relative=no"]
  | xref => ["-x"]
  | json => ["--output-format=json"]

/-- The form in a title; the usual one goes without. -/
def label : Format → String
  | ctags => ""
  | format => "/" ++ format.name

def feature? : Format → Option String
  | json => some "json"
  | _ => none

/-- The rule that takes off directories, as a pattern and its replacement. -/
def pattern : Format → String × String
  | ctags => ("(^[^\\t]+\\t)(/?([^/\\t]+/)*)", "\\1")
  | etags => (".*/(input[-._]\\S+),([0-9]+$)", "\\1,\\2")
  | xref => ("(.*\\d+ )([^ ]+[^ ]+)/([^ ].+.+$)", "\\1\\3")
  | json => ("(\"path\": )\"[^\"]+/([^/\"]+)\"", "\\1\"\\2\"")

/-- The same rule for a stream editor. -/
def editorScript : Format → String
  | ctags => "s%\\(^[^\\t]\\\x7b1,\\\x7d\\t\\)\\(/\\\x7b0,1\\\x7d\\([^/\\t]\\\x7b1,\\\x7d/\\)*\\)%\\\\1%"
  | etags => "s%.*\\/\\(input[-._][[:print:]]\\\x7b1,\\\x7d\\),\\([0-9]\\\x7b1,\\\x7d$\\)%\\\\1,\\\\2%"
  | xref =>
    "s%\\(.*[[:digit:]]\\\x7b1,\\\x7d \\)\\([^ ]\\\x7b1,\\\x7d[^ ]\\\x7b1,\\\x7d\\)/\\([^ ].\\\x7b1,\\\x7d.\\\x7b1,\\\x7d$\\)%\\\\1\\\\3%"
  | json => "s%\\(\"path\": \\)\"[^\"]\\\x7b1,\\\x7d/\\([^/\"]\\\x7b1,\\\x7d\\)\"%\\\\1\"\\\\2\"%"

def editor (format : Format) : List String := ["sed", "-e", format.editorScript]

/-! Taking off directories. -/

/-- The text after the directories at its front. A directory is a name of at least one character
with a slash after it; `pending` is the name being read, last character first. -/
def afterDirectories (pending : List Char) : List Char → List Char
  | [] => pending.reverse
  | c :: rest =>
    if c = '/' then
      if pending.isEmpty then c :: rest else afterDirectories [] rest
    else if c = '\t' then pending.reverse ++ c :: rest
    else afterDirectories (c :: pending) rest

/-- In a tag line the path is the second field; one slash may start it. -/
def shortenTag (line : List Char) : List Char :=
  match line.span (· ≠ '\t') with
  | (name@(_ :: _), tab :: '/' :: rest) => name ++ tab :: afterDirectories [] rest
  | (name@(_ :: _), tab :: rest) => name ++ tab :: afterDirectories [] rest
  | _ => line

def cutEnd (line : List Char) : List Char × List Char :=
  if line.getLast? = some '\n' then (line.dropLast, ['\n']) else (line, [])

def isInputName (name : List Char) : Bool :=
  match after? "input".toList name with
  | some (mark :: rest) =>
    (mark == '-' || mark == '.' || mark == '_') && !rest.isEmpty && rest.all (!isBlank ·)
  | _ => false

/-- The input file's name at the end of a text, after the last slash that leaves one. -/
def inputName? : List Char → Option (List Char)
  | [] => none
  | c :: rest => (inputName? rest).orElse fun _ => if c = '/' && isInputName rest then some rest else none

/-- A heading is a path, a comma and a size. -/
def shortenHeading (line : List Char) : List Char :=
  let (body, tail) := cutEnd line
  match cutLast? ',' body with
  | some (path, size) =>
    if !size.isEmpty && size.all Char.isDigit then
      match inputName? path with
      | some name => name ++ ',' :: size ++ tail
      | none => line
    else line
  | none => line

/-- What follows the last slash of a word, where `place` characters stand before. At least two
characters precede the slash and three follow it, the first of them no blank. -/
def afterPath? (place : Nat) : List Char → Option (List Char)
  | [] => none
  | c :: rest =>
    if c = ' ' then none
    else (afterPath? (place + 1) rest).orElse fun _ =>
      match rest with
      | next :: more => if c = '/' && 2 ≤ place && next ≠ ' ' && 2 ≤ more.length then some rest else none
      | [] => none

/-- The text with the path taken off that follows a number and a blank, as far to the right as one
does. -/
def shortenNumbered? (afterDigit : Bool) : List Char → Option (List Char)
  | [] => none
  | c :: rest =>
    match shortenNumbered? (decimalDigit? c).isSome rest with
    | some short => some (c :: short)
    | none => if afterDigit && c = ' ' then (afterPath? 0 rest).map (c :: ·) else none

def shortenReference (line : List Char) : List Char :=
  let (body, tail) := cutEnd line
  match shortenNumbered? false body with
  | some short => short ++ tail
  | none => line

/-- The first path entry that has a directory, without it. -/
def shortenEntry : List Char → List Char
  | [] => []
  | c :: rest =>
    let key := "\"path\": \"".toList
    let short := do
      let value ← after? key (c :: rest)
      let path := value.takeWhile (· ≠ '"')
      let (directory, name) ← cutLast? '/' path
      if directory.isEmpty || name.isEmpty || path.length = value.length then none
      else some (key ++ name ++ value.drop path.length)
    short.getD (c :: shortenEntry rest)

/-- A line of tags without the directories of its input file. -/
def shorten : Format → List Char → List Char
  | ctags => shortenTag
  | etags => shortenHeading
  | xref => shortenReference
  | json => shortenEntry

/-- The tags without directories, each line changed by some replacements. -/
def normalize (format : Format) (replacements : List (List Char → List Char)) (tags : String) : String :=
  String.ofList ((fullLines (unified tags.toList)).flatMap fun line =>
    replacements.foldl (fun line change => change line) (format.shorten line))

end Format

/-- Whether a text holds a run of eight small hexadecimal digits, counting those just before it. -/
def hasHashFrom (seen : Nat) : List Char → Bool
  | [] => 8 ≤ seen
  | c :: rest => 8 ≤ seen ||
      hasHashFrom (if c.isDigit || ('a' ≤ c && c ≤ 'f') then seen + 1 else 0) rest

def hasHash (text : String) : Bool := hasHashFrom 0 text.toList

end Playhouse.Trial
