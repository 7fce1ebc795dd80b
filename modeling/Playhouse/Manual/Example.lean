import Playhouse.Fault

/-!
Examples in a manual page. An example is written as a file name in quotes, a block of input lines,
the name of the output with the command line that makes it, and a block of expected tags. A page is
read line by line; a block ends at the first line that is not indented like it, and that line is
then looked at once more for what comes next.
-/
namespace Playhouse.Manual
open Text String

abbrev Line := List Char

/-- An example as a page gives it. Lines are counted from one, examples from zero. -/
structure Example where
  fileName : String
  code : String
  options : String
  tags : String
  place : Nat
  start : Nat
  stop : Nat
  deriving DecidableEq

/-- What an indented line adds to its block: a backslash at the end joins the next line to it. -/
def segment (line : Line) : Line :=
  if line.getLast? = some '\\' then line.dropLast else line ++ ['\n']

def isIndent (c : Char) : Bool := c == ' ' || c == '\t'

/-- A block being read. Its margin is the indentation of its first line. -/
structure Block where
  margin : Option Line := none
  text : Line := []

/-- The indentation of a line and the rest of it. Something has to remain, so a line of two or more
blanks leaves its last one. -/
def indented? (line : Line) : Option (Line × Line) :=
  match line.takeWhile isIndent, line.dropWhile isIndent with
  | [], _ => none
  | margin, [] =>
    match margin.reverse with
    | last :: before@(_ :: _) => some (before.reverse, [last])
    | _ => none
  | margin, rest => some (margin, rest)

/-- The block after a line of it; nothing if the line is outside the block. -/
def Block.take? (block : Block) (line : Line) : Option Block :=
  match block.margin with
  | some margin =>
    match after? margin line with
    | some rest => some { block with text := block.text ++ segment rest }
    | none => if line.isEmpty then some { block with text := block.text ++ ['\n'] } else none
  | none =>
    match indented? line with
    | some (margin, rest) => some { margin := some margin, text := block.text ++ segment rest }
    | none => if line.all isIndent then some block else none

/-- The text of a finished block, with one line end. -/
def Block.closed (block : Block) : Line := withoutEnd block.text ++ ['\n']

/-! Lines that open the parts of an example. -/

/-- The input file's name, alone on its line in quotes. -/
def fileName? (line : Line) : Option Line := do
  let rest ← after? "\"input.".toList line
  match rest.reverse with
  | '"' :: name => if name.isEmpty || name.contains '"' then none else some ("input.".toList ++ name.reverse)
  | _ => none

/-- What follows the directive that opens a block. -/
def directive? : Line → Option Line
  | _ :: _ :: rest => after? " code-block::".toList rest
  | _ => none

def opensCode (line : Line) : Bool := (directive? line).isSome

/-- The output's name, alone on its line in quotes; any character divides it. -/
def namesOutput (line : Line) : Bool :=
  match after? "\"output".toList line with
  | some (_ :: rest) => rest == "tags\"".toList
  | _ => false

/-- The text in quotes at the front of a line, after the word that announces a command line. -/
def announced? (line : Line) : Option Line := do
  match ← after? "with".toList line with
  | gap :: '"' :: rest =>
    let text := rest.takeWhile (· ≠ '"')
    if isIndent gap && !text.isEmpty && text.length < rest.length then some text else none
  | _ => none

/-- The first command line that is announced in a line. -/
def options? : Line → Option Line
  | [] => none
  | c :: rest => (announced? (c :: rest)).orElse fun _ => options? rest

def opensTags (line : Line) : Bool :=
  line == "::".toList || (directive? line).any fun rest => rest.dropWhile (· == ' ') == "tags".toList

/-! Reading. -/

/-- What the reader looks for, or the block it is in. -/
inductive Phase where
  | start
  | input
  | code
  | codeDone
  | output
  | afterOptions
  | tags

/-- The reader. It fills one and the same record with the parts of each example, in the order in which they are found,
and it keeps count. -/
structure Reader where
  phase : Phase := .start
  draft : Fields := []
  block : Block := {}
  place : Nat := 0

namespace Reader

def note (reader : Reader) (phase : Phase) (entries : Fields) : Reader :=
  { reader with phase, draft := reader.draft.update entries }

/-- Looks for the line that opens the next part. -/
def advance (number : Nat) (line : Line) (reader : Reader) : Reader :=
  match reader.phase with
  | .start =>
    match fileName? line with
    | some name => reader.note .input [("start_linum", .int number), ("input_file_name", .text (ofList name))]
    | none => reader
  | .input => if opensCode line then { reader with phase := .code, block := {} } else reader
  | .codeDone => if namesOutput line then { reader with phase := .output } else reader
  | .output =>
    match options? line with
    | some options => reader.note .afterOptions [("cmdline", .text (ofList options))]
    | none => reader
  | .afterOptions => if opensTags line then { reader with phase := .tags, block := {} } else reader
  | .code | .tags => reader

/-- The block that the reader is in ends: the code is found, or the whole example. -/
def close (number : Nat) (reader : Reader) : Reader :=
  let text := Value.text (ofList reader.block.closed)
  match reader.phase with
  | .code => reader.note .codeDone [("code", text)]
  | _ => { reader.note .start [("tags", text), ("nth", .int reader.place), ("end_linum", .int number)] with
      place := reader.place + 1 }

/-- Reads a line: the reader after it, and the record if an example ends before the line. Who is given the record may
change it before the reader goes on with the same line. -/
def read (changed : Fields → Fields) (number : Nat) (line : Line) (reader : Reader) : Reader × Option Fields :=
  match reader.phase, reader.block.take? line with
  | .code, some block | .tags, some block => ({ reader with block }, none)
  | .code, none => ((reader.close number).advance number line, none)
  | .tags, none =>
    let closed := reader.close number
    ({ closed with draft := changed closed.draft }.advance number line, some closed.draft)
  | _, _ => (reader.advance number line, none)

/-- The records that are given out while the remaining lines are read. -/
def drafts (changed : Fields → Fields) (number : Nat) (reader : Reader) : List Line → List Fields
  | [] => []
  | line :: rest =>
    match reader.read changed number line with
    | (reader, some draft) => draft :: drafts changed (number + 1) reader rest
    | (reader, none) => drafts changed (number + 1) reader rest

end Reader

/-- The lines of a page, without their ends. -/
def pageLines (page : String) : List Line := (fullLines page.toList).map withoutEnd

/-- The records that are given out while a page is read. -/
def drafts (changed : Fields → Fields) (page : String) : List Fields := Reader.drafts changed 1 {} (pageLines page)

/-- The example that a record is about. -/
def Example.ofFields? (draft : Fields) : Option Example := do
  let .text fileName ← draft.get? "input_file_name" | none
  let .text code ← draft.get? "code" | none
  let .text options ← draft.get? "cmdline" | none
  let .text tags ← draft.get? "tags" | none
  let .int place ← draft.get? "nth" | none
  let .int start ← draft.get? "start_linum" | none
  let .int stop ← draft.get? "end_linum" | none
  return { fileName, code, options, tags, place := place.toNat, start := start.toNat, stop := stop.toNat }

def examples (page : String) : List Example := (drafts id page).filterMap Example.ofFields?

/-! Features that a page needs. -/

def isFeatureChar (c : Char) : Bool := c.isAlphanum || c == '-' || c == '_'

def feature? : Line → Option Line
  | [] => none
  | c :: rest =>
    let named := (after? ":Expected feature:".toList (c :: rest)).map fun after =>
      (after.dropWhile isIndent).takeWhile isFeatureChar
    match named with
    | some (d :: word) => some (d :: word)
    | _ => feature? rest

def features (page : String) : List String :=
  (pageLines page).filterMap fun line => (feature? line).map ofList

end Playhouse.Manual
