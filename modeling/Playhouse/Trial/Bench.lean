import Playhouse.Trial.Workers
import Playhouse.World.Glob

/-!
The place where trials are run: files, what was printed, the commands that were given, and the
record of the cases, how each ended and how its end is shown.
-/
namespace Playhouse.Trial

/-- Where a case is recorded. -/
inductive Verdict where
  | passed | failedByStatus | failedByDifference | skippedByFeatures | skippedByLanguages | skippedByLoop
  | knownBug | timedOut | brokenArguments | memoryError
  deriving DecidableEq

def Verdict.isFailure : Verdict → Bool
  | failedByStatus | failedByDifference | timedOut | brokenArguments | memoryError => true
  | _ => false

inductive Color where
  | red | green | yellow
  deriving DecidableEq

namespace Color

def name : Color → String
  | red => "red"
  | green => "green"
  | yellow => "yellow"

def ofName? (name : String) : Option Color := [red, green, yellow].find? (·.name == name)

def code : Color → String
  | red => "31"
  | green => "32"
  | yellow => "33"

/-- A text in this color on a terminal. -/
def paint (color : Color) (colored : Bool) (text : String) : String :=
  if colored then "\x1b[" ++ color.code ++ "m" ++ text ++ "\x1b[m" else text

end Color

/-- The way in which a result is shown. -/
inductive Notice where
  | skip | internalError | error | ok | knownError
  deriving DecidableEq

namespace Notice

def name : Notice → String
  | skip => "skip"
  | internalError => "internal-error"
  | error => "error"
  | ok => "ok"
  | knownError => "known_error"

def all : List Notice := [skip, internalError, error, ok, knownError]

def ofName? (name : String) : Option Notice := all.find? (·.name == name)

def word : Notice → String
  | skip => "skipped"
  | internalError => "INTERNAL-ERROR"
  | error | knownError => "failed"
  | ok => "passed"

def color : Notice → Color
  | skip | knownError => .yellow
  | internalError | error => .red
  | ok => .green

/-- The line that shows a result: its title, the word for it and the reason. A known error has a
fixed reason. -/
def line (notice : Notice) (colored : Bool) (title : String) (reason : Option String) : String :=
  let reason := if notice = .knownError then some "KNOWN bug" else reason
  title ++ notice.color.paint colored notice.word
    ++ (reason.map fun text => " (" ++ text ++ ")").getD "" ++ "\n"

end Notice

/-- A text made 59 characters wide, with a blank after it. -/
def padded (text : String) : String := text.pushn ' ' (59 - text.length) ++ " "

def rule (mark : String) : String := String.join (List.replicate 60 mark) ++ "\n"

/-- What follows a text at the front of another; the whole if it is not there. -/
def withoutHead (head text : String) : String :=
  match Text.after? head.toList text.toList with
  | some rest => String.ofList rest
  | none => text

/-- Choices for a run. A time limit of zero means none. -/
structure Options where
  shell : String := "/bin/sh"
  program : String := "./ctags"
  reader : String := "./readtags"
  scripter : String := "./optscript"
  timeLimit : Int := 0
  checksMemory : Bool := false
  colored : Bool := true
  categories : List String := []
  units : List String := []
  languages : List String := []
  pretense : String := ""
  shrinks : Bool := false
  showsDifferences : Bool := false

structure Bench where
  files : Workspace := {}
  executables : List String := []
  out : String := ""
  err : String := ""
  commands : List (List String) := []
  ledger : List (Verdict × String) := []
  fixed : List String := []
  failures : List String := []

namespace Bench

/-- The cases with a verdict, in the order in which they were recorded. -/
def casesWith (bench : Bench) (verdict : Verdict) : List String :=
  bench.ledger.filterMap fun (v, name) => if v = verdict then some name else none

def onFiles {α : Type} (act : Act Workspace α) : Act Bench α :=
  act.on Bench.files fun files bench => { bench with files }

def print (text : String) : Act Bench Unit := modify fun b => { b with out := b.out ++ text }

def say (line : String) : Act Bench Unit := print (line ++ "\n")

def warn (line : String) : Act Bench Unit := modify fun b => { b with err := b.err ++ line ++ "\n" }

def note (command : List String) : Act Bench Unit :=
  modify fun b => { b with commands := b.commands ++ [command] }

def record (verdict : Verdict) (name : String) : Act Bench Unit :=
  modify fun b => { b with ledger := b.ledger ++ [(verdict, name)] }

def recordFixed (name : String) : Act Bench Unit := modify fun b => { b with fixed := b.fixed ++ [name] }

/-- Ends the whole run with a message. -/
def stop {α : Type} (status : Nat) (message : String) : Act Bench α := do
  warn message
  throw (.exit status)

def find (pattern : String) : Act Bench (List String) := do return Glob.find (← get).files pattern

def findDeep (pattern : String) : Act Bench (List String) := do return Glob.findDeep (← get).files pattern

def isFile (path : String) : Act Bench Bool := do return (← get).files.isFile path

def isDirectory (path : String) : Act Bench Bool := do return (← get).files.isDirectory path

def text? (path : String) : Act Bench (Option String) := do return (← get).files.text? path

def write (path text : String) : Act Bench Unit := onFiles (Workspace.write path text)

def remove (path : String) : Act Bench Unit := onFiles (Workspace.remove path)

/-- Shows a result, and writes it to a file if one is given. -/
def announce (options : Options) (notice : Notice) (title : String) (file reason : Option String) :
    Act Bench Unit := do
  print (notice.line options.colored title reason)
  match file with
  | some path => write path (notice.line false title reason)
  | none => return

/-- Prints the lines of a file, each after a tab. -/
def printIndented (lines : List String) : Act Bench Unit := lines.forM fun line => print ("\t" ++ line)

/-- Runs the jobs that a single worker takes from the queue, which ends with the word to stop. A job that fails is
reported, and the next one starts. -/
def work {α : Type} (job : α → Act Bench Unit) (items : List α) : Act Bench Unit :=
  (serve (fun _ => false) (items.map some ++ [none])).seen.forM fun item => do
    match ← (job item).outcome with
    | .ok () => return
    | .error fault => warn ("Traceback (most recent call last):\n" ++ fault.message)

end Bench

/-- Whether a path is absolute. Some systems also have paths with a drive or with backslashes. -/
def isAbsolute (system path : String) : Bool :=
  let start := (path.toList.take 3).map fun c => if c = '/' then '\\' else c
  let byDrive := (startsWith "CYGWIN_NT" system || startsWith "MINGW32_NT" system)
    && (start.head? == some '\\' || start.drop 1 == [':', '\\'])
  byDrive || Path.isRooted path

end Playhouse.Trial
