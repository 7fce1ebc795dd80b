import Playhouse.Fault
import Playhouse.Text.Search

/-!
The programs that a trial calls: the tag generator under test, the comparison of two files, the
shell, version control and the debugger. A trial is run against any behaviour of them; a `Script`
is one that is written down beforehand.
-/
namespace Playhouse.Trial

/-- What a run of a program leaves behind. One that has to be stopped at the time limit is
endless. -/
structure Run where
  stdout : String := ""
  stderr : String := ""
  status : Int := 0
  endless : Bool := false
  deriving DecidableEq

/-- What a run of a shell script leaves behind: its output is bytes, and it may write files. -/
structure ShellRun where
  stdout : List UInt8 := []
  stderr : String := ""
  status : Int := 0
  files : List (String × String) := []

structure Tools where
  /-- A run of the tag generator with these words, the program's name included. -/
  tagger : List String → Run
  /-- How an expected file and an actual one differ, a missing file being empty; nothing if they
  agree. Header lines of tags may be left out of the comparison. -/
  difference : (headersCount : Bool) → (expected actual : Option String) → Option String
  /-- What a shell of this name writes to the end of a pipeline, if anything; one that is not there cannot be started. -/
  pipeline : (shell command : String) → Except Fault (Option String)
  /-- Replaces in a line whatever fits a pattern; a text that is no pattern cannot be used. -/
  replacement : (pattern new : String) → Except Fault (List Char → List Char)
  /-- The run of the script in the directory of this name. -/
  script : String → ShellRun
  /-- The listing of a file by version control. -/
  tracked : String → Run
  /-- The report of the debugger on a memory image. -/
  backtrace : String → String
  isInstalled : String → Bool

/-- The first words of the lines of a list. A line that starts with a blank is kept whole, and a
first word without a blank after it goes on into the next line. -/
inductive Heading where
  | fresh | word | rest | whole
  deriving DecidableEq

def Heading.keep : Heading → List Char → List Char
  | _, [] => []
  | .rest, c :: text => if c = '\n' then c :: keep .fresh text else keep .rest text
  | .whole, c :: text => c :: keep (if c = '\n' then .fresh else .whole) text
  | .fresh, c :: text => c :: keep (if c = ' ' then .whole else .word) text
  | .word, c :: text => if c = ' ' then keep .rest text else c :: keep .word text

/-- The names of features in the list that the tag generator prints. -/
def featureNames (printed : String) : List String :=
  linesOf (String.ofList (Heading.keep .fresh printed.toList))

/-- The words that ask a tag generator for its features. -/
def featureQuery : List String := ["--quiet", "--options=NONE", "--list-features", "--with-list=no"]

def Tools.features (tools : Tools) (program : String) : List String :=
  featureNames (tools.tagger (program :: featureQuery)).stdout

/-- Behaviour of the programs that is written down beforehand. -/
structure Script where
  features : String := ""
  languages : String := ""
  language : String := "C"
  argumentStatus : Int := 0
  hashes : List (String × String) := []
  runs : List (String × Run) := []
  filtered : String := ""
  trackedStatus : Int := 128
  scripts : List (String × ShellRun) := []
  missing : List String := []

namespace Script

/-- Answers a question by its option; any other run is the one written down for the last word that
has one. -/
def tagger (script : Script) (words : List String) : Run :=
  if words.contains "--list-features" then { stdout := script.features }
  else if words.contains "--list-languages" then { stdout := script.languages }
  else if words.contains "--print-language" then
    { stdout := words.getLastD "" ++ ": " ++ script.language ++ "\n" }
  else if words.contains "--_force-quit=0" then { status := script.argumentStatus }
  else
    match words.findSome? fun word => Text.after? "--_anonhash=".toList word.toList with
    | some path => { stdout := (script.hashes.lookup (String.ofList path)).getD "00000000" }
    | none => (words.reverse.findSome? fun word => script.runs.lookup word).getD {}

/-- The lines that count in a comparison, without the `\r` at their ends. -/
def comparable (headersCount : Bool) (text : Option String) : List (List Char) :=
  let lines := (Text.split ['\n'] (text.getD "").toList).map fun line =>
    (line.reverse.dropWhile (· == '\r')).reverse
  if headersCount then lines else lines.filter fun line => !"!_TAG".toList.isPrefixOf line

def difference (headersCount : Bool) (expected actual : Option String) : Option String :=
  if comparable headersCount expected == comparable headersCount actual then none else some "DIFF\n"

/-- Replaces letters and digits, which stand for themselves in a pattern; no other pattern is written down. -/
def replacement (pattern new : String) : Except Fault (List Char → List Char) :=
  if pattern.all Char.isAlphanum then .ok (Text.replace pattern.toList new.toList)
  else .error (.badPattern "unknown pattern")

def tools (script : Script) : Tools where
  tagger := script.tagger
  difference := Script.difference
  pipeline := fun _ _ => .ok (some script.filtered)
  replacement := Script.replacement
  script := fun name => (script.scripts.lookup name).getD {}
  tracked := fun _ => { status := script.trackedStatus }
  backtrace := fun image => "BACKTRACE " ++ image ++ "\n"
  isInstalled := fun name => ["diff", "git", "gdb", "valgrind"].contains name && !script.missing.contains name

end Script
end Playhouse.Trial
