import Playhouse.Data.Access
import Playhouse.Manual.Example
import Playhouse.Trial.Tools
import Playhouse.World.FileTree

/-!
Checking the examples of manual pages: each is given to the tag generator, and the tags that come
out are compared with those the page shows. The words of its command line go into an options file, one option to a line;
the input file is named apart, and a pattern option takes the words after it up to the next option. A report prints line
by line, so that what stands before a missing entry is printed.
-/
namespace Playhouse.Manual

/-- Whether two dashes stand before a small letter or a low line, anywhere in a word. -/
def hasLongOption : List Char → Bool
  | [] => false
  | c :: rest =>
    (match c, rest with
      | '-', '-' :: letter :: _ => letter.isLower || letter == '_'
      | _, _ => false) || hasLongOption rest

/-- Whether a word is an option: a long one, or a dash and one small letter, which a line end may
follow. -/
def isOption (word : String) : Bool :=
  hasLongOption word.toList ||
    match word.toList with
    | ['-', c] => c.isLower
    | ['-', c, '\n'] => c.isLower
    | _ => false

/-- The options file being written, with the pattern that is still open, and the input file. -/
structure Settings where
  lines : List String := []
  pattern : Option String := none
  input : Option String := none
  deriving DecidableEq

/-- Takes in the next word of a command line. -/
def Settings.add (settings : Settings) (word : String) : Settings :=
  if word == "--options=NONE" then settings
  else if startsWith "input." word then { settings with input := some word }
  else if startsWith "--regex-" word then { settings with pattern := some word }
  else
    match settings.pattern, isOption word with
    | some pattern, false => { settings with pattern := some (pattern ++ " " ++ word) }
    | pattern, _ => { settings with lines := settings.lines ++ pattern.toList ++ [word], pattern := none }

def Settings.ofWords (words : List String) : Settings := words.foldl Settings.add {}

def Settings.ofOptions (options : String) : Settings := Settings.ofWords (wordsOf options)

/-- What has been printed, and the command lines that were run. -/
structure Transcript where
  out : String := ""
  err : String := ""
  commands : List (List (Option String)) := []

def say (line : String) : Act Transcript Unit := modify fun t => { t with out := t.out ++ line ++ "\n" }

/-- A number in whole units, cut toward zero. -/
def wholeText (value : Value) : Except Fault String :=
  match value.number? with
  | none => .error (.mismatch (.numberNeeded value.kind))
  | some n =>
    match n.truncate? with
    | some whole => .ok (toString whole)
    | none => .error (.notFinite !n.toFloat.isNaN)

/-- Where an example stands: its page, its place and its first line. -/
def location (record : Fields) : Except Fault String := do
  let page ← Value.need record "man_file"
  let place ← wholeText (← Value.need record "nth")
  let start ← wholeText (← Value.need record "start_linum")
  return page.asText ++ "[" ++ place ++ "]:" ++ start

/-- What is missing from a record of an example, if anything. -/
def problem? (record : Fields) : Except Fault (Option String) := do
  let here ← location record
  let missing :=
    if !record.contains "code" then some "cannot find input lines"
    else if !record.contains "tags" then some "cannot find expected tags output"
    else if !record.contains "cmdline" then some "cannot find ctags command line"
    else none
  return missing.map fun what => here ++ ": " ++ what

def reportResult (record : Fields) : Act Transcript Unit := do
  let here ← liftM (location record)
  let result ← liftM (Value.need record "result_readable")
  say (here ++ "..." ++ result.asText)

/-- The parts of a report on a failure: a title and the entry it shows. -/
def failureParts : List (String × String) :=
  [("input", "code"), ("cmdline", "cmdline"), ("expected tags", "tags"), ("actual tags", "actual_tags"),
    ("diff of tag files", "tags_diff")]

def fence : String := "```"

def reportFailure (record : Fields) : Act Transcript Unit := do
  say ("## " ++ (← liftM (location record)))
  failureParts.forM fun (title, key) => do
    say ("### " ++ title)
    say fence
    say (← liftM (Value.need record key)).asText
    say fence

open Playhouse.Trial (Tools)

/-- What a check works with: the programs, the files, the tag generator's name and the directory
for the files of an example. -/
structure Setting where
  tools : Tools
  tree : FileTree
  program : String
  folder : String

/-- The words that run the tag generator on an example. -/
def command (settings : Settings) : List (Option String) :=
  [some "--quiet", some "--options=NONE", some "--options=args.ctags", settings.input]

/-- A text of a record. -/
def needText (record : Fields) (name : String) : Except Fault String := return (← Value.need record name).asText

/-- The record of an example with the result of its run. -/
def judged (setting : Setting) (record : Fields) : Except Fault Fields := do
  let words := command (Settings.ofOptions (← needText record "cmdline"))
  let actual := (setting.tools.tagger (setting.program :: words.filterMap id)).stdout
  match setting.tools.difference true (some actual) (some (← needText record "tags")) with
  | none => return record.update [("result", .bool true), ("result_readable", .text "passed")]
  | some difference =>
    return record.update [("actual_tags", .text (unifiedLines actual)), ("result", .bool false),
      ("result_readable", .text "failed"), ("tags_diff", .text (unifiedLines difference))]

/-- Runs an example and gives its record with the result. -/
def check (setting : Setting) (record : Fields) : Act Transcript Fields := do
  let fileName ← liftM (needText record "input_file_name")
  let path := setting.folder ++ "/" ++ fileName
  if !FileTree.isNameable fileName then throw (.longName path)
  if fileName.contains '/' then throw (.noFile path)
  let words := command (Settings.ofOptions (← liftM (needText record "cmdline")))
  modify fun t => { t with commands := t.commands ++ [words] }
  liftM (judged setting record)

/-- What a record that was given out says when the next line is read. -/
def handled (setting : Setting) (page : String) (draft : Fields) : Fields :=
  let record := draft.set "man_file" (.text page)
  match problem? record with
  | .ok none => ((judged setting record).toOption).getD record
  | _ => record

/-- Deals with a record that was given out: it is run and reported, unless something is missing from it. -/
def judge (setting : Setting) (page : String) (draft : Fields) : Act Transcript (Option Fields) := do
  let record := draft.set "man_file" (.text page)
  match ← liftM (problem? record) with
  | some message =>
    modify fun t => { t with err := t.err ++ "error: " ++ message ++ "\n" }
    return none
  | none =>
    let record ← check setting record
    reportResult record
    return record

/-- Checks a page. One that needs a feature the tag generator lacks is left out and counts as
good. -/
def checkPage (setting : Setting) (page : String) : Act Transcript Bool := do
  say ("# Run test cases in " ++ page)
  say fence
  if setting.tree.isDirectory page then throw (.directoryThere page)
  let some raw := setting.tree.text? page | throw (.noFile page)
  let text := unifiedLines raw
  match (features text).find? fun name => !(setting.tools.features setting.program).contains name with
  | some name =>
    say (page ++ "[feat]:" ++ name ++ "...skipped")
    say fence
    return true
  | none =>
    let records ← (drafts (handled setting page) text).mapM (judge setting page)
    say fence
    let failures := (records.filterMap id).filter fun record => !((record.get? "result").any Value.truthy)
    if !failures.isEmpty then
      say "# Failed test case(s)"
      failures.forM reportFailure
    return failures.isEmpty && records.all Option.isSome

/-- Checks the pages one after another, and tells whether all are good. -/
def checkPages (setting : Setting) (pages : List String) : Act Transcript Bool := do
  let results ← pages.mapM (checkPage setting)
  let good := results.all id
  say (if good then "OK" else "FAILED")
  return good

def usage : String := "Usage: man-test.py TMPDIR CTAGS ctags-lang-<LANG>.7.rst.in..."

/-- The command: a working directory, the tag generator and the pages. Its answer is the exit
status. -/
def run (tools : Tools) (tree : FileTree) (arguments : List String) : Act Transcript Nat := do
  let fail : Act Transcript Nat := do
    modify fun t => { t with err := t.err ++ usage ++ "\n" }
    return 2
  match arguments with
  | folder :: program :: page :: more =>
    if folder == "-h" || folder == "--help" then fail
    else
      let good ← checkPages { tools, tree, program, folder } (page :: more)
      return if good then 0 else 1
  | _ => fail

end Playhouse.Manual
