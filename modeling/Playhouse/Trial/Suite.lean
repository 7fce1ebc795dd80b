import Playhouse.Trial.Sample

/-!
A suite: all samples below a directory. A directory whose name ends in `.r` is a category. The summary says how many
samples ended in each way, and which.
-/
namespace Playhouse.Trial
open Bench

/-- The category of samples that stand in no category of their own. -/
def rootCategory : String := "ROOT"

/-- The name of a sample in a list; the root category goes without saying. -/
def shortTitle (title : String) : String := withoutHead (rootCategory ++ "/") title

/-- A line of a summary: a label forty characters wide, and a count. -/
def countLine (label : String) (count : Nat) : String :=
  "  " ++ label.pushn ' ' (40 - label.length) ++ toString count

/-- Shows the files of a name that samples left, each line after a tab; of a long file the last
lines only, if a limit is given. -/
def showFiles (folder title file : String) (limit : Option Nat) : Act Bench Unit := do
  print ("\t" ++ rule ".")
  (← find (folder ++ "/" ++ title ++ ".*/" ++ file)).forM fun path => do
    let lines := fullLinesOf (unifiedLines (← onFiles (Workspace.read path)))
    printIndented (match limit with
      | some n => lines.drop (lines.length - n)
      | none => lines)
  say ""

/-- A part of a summary: a label, the samples under it, and what is shown after each of them. -/
structure Section where
  label : String
  titles : List String
  lists : Bool := true
  files : List (String × Option Nat) := []

def Section.show (folder : String) (part : Section) : Act Bench Unit := do
  say (countLine part.label part.titles.length)
  if part.lists then
    part.titles.forM fun title => do
      say ("\t" ++ shortTitle title)
      part.files.forM fun (file, limit) => showFiles folder (shortTitle title) file limit

/-- The parts of a summary. Time-outs are a part of their own if there is a time limit, samples that
may run for ever if there is none. -/
def sections (options : Options) (bench : Bench) : List Section :=
  let details (files : List (String × Option Nat)) := if options.showsDifferences then files else []
  let log := ("STDERR.tmp", some 50)
  [{ label := "#passed:", titles := bench.casesWith .passed, lists := false },
   { label := "#FIXED:", titles := bench.fixed },
   { label := "#FAILED (broken args.ctags?):", titles := bench.casesWith .brokenArguments },
   { label := "#FAILED (unexpected-exit-status):", titles := bench.casesWith .failedByStatus,
     files := details [log] },
   { label := "#FAILED (unexpected-output):", titles := bench.casesWith .failedByDifference,
     files := details [log, ("DIFF.tmp", none)] }]
  ++ (if options.timeLimit = 0 then [] else
    [{ label := "#TIMED-OUT (" ++ toString options.timeLimit ++ "s):", titles := bench.casesWith .timedOut }])
  ++ [{ label := "#skipped (features):", titles := bench.casesWith .skippedByFeatures },
   { label := "#skipped (languages):", titles := bench.casesWith .skippedByLanguages }]
  ++ (if options.timeLimit = 0 then
    [{ label := "#skipped (infinite-loop):", titles := bench.casesWith .skippedByLoop }] else [])
  ++ [{ label := "#known-bugs:", titles := bench.casesWith .knownBug }]
  ++ (if options.checksMemory then
    { label := "#valgrind-error:", titles := bench.casesWith .memoryError }
      :: (if options.showsDifferences then
        [{ label := "##valgrind-error:", titles := bench.casesWith .memoryError,
           files := [("VALGRIND.tmp", none)] }] else []) else [])

def summarize (options : Options) (folder : String) : Act Bench Unit := do
  say ""
  say "Summary (see CMDLINE.tmp to reproduce without test harness)"
  print (rule "-")
  (sections options (← get)).forM (Section.show folder)

def pathWithSlashes (path : String) : String := replaceText "\\" "/" path

/-- The sample with this input. Its directory's name gives its name and kind. -/
def Sample.ofInput? (files : Workspace) (category base build input : String) : Option Sample := do
  let input := pathWithSlashes input
  let folder := Path.directory input
  let (name, letter) ← Text.cutLast? '.' (Path.name folder).toList
  let kind ← match letter with
    | [c] => Kind.ofLetter? c
    | _ => none
  let extras := (Glob.find files (folder ++ "/input[-_][0-9].*")
    ++ Glob.find files (folder ++ "/input[-_][0-9][-_]*.*")).filter isAccepted
  return {
    input, folder, kind, category
    name := String.ofList name
    build := build ++ withoutHead base folder
    extras := (extras.map pathWithSlashes).mergeSort fun a b => a ≤ b }

def samples (files : Workspace) (category base build : String) : List Sample :=
  ((Glob.find files (base ++ "/*.[dbtiv]/input.*")).filter fun path => isAccepted (pathWithSlashes path)).filterMap
    (Sample.ofInput? files category base build)

/-- Whether a category is asked for; an empty list asks for all. -/
def isWantedCategory (options : Options) (category : String) : Bool :=
  options.categories.isEmpty || options.categories.contains category

def runCategory (options : Options) (tools : Tools) (features : List String) (category base build : String) :
    Act Bench Unit := do
  if isWantedCategory options category then
    Bench.say ("\nCategory: " ++ category)
    Bench.print (rule "-")
    Bench.work (Sample.run options tools features) (samples (← get).files category base build)

/-- Makes sure that a program can be called. -/
def need (tools : Tools) (name : String) : Act Bench Unit := do
  if !tools.isInstalled name then Bench.stop 1 (name ++ " command is not available")

/-- The place where results go: an absolute path as it is, any other from the root. -/
def buildPlace (files : Workspace) (folder : String) : String :=
  if Path.isRooted folder then folder else files.real folder

/-- Runs a suite and prints its summary; the answer tells whether all went well. -/
def runSuite (options : Options) (tools : Tools) (folder build : String) : Act Bench Bool := do
  if options.checksMemory then need tools "valgrind"
  need tools "diff"
  let features := tools.features options.program
  let place := buildPlace (← get).files build
  runCategory options tools features rootCategory folder place
  (← Bench.find (folder ++ "/*.r")).forM fun path => do
    let path := pathWithSlashes path
    if ← Bench.isDirectory path then
      let category := Path.name path
      runCategory options tools features category path (build ++ "/" ++ category)
  summarize options place
  return (← get).ledger.all fun (verdict, _) => !verdict.isFailure

end Playhouse.Trial
