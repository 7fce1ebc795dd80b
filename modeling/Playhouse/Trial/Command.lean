import Playhouse.Trial.Arguments
import Playhouse.Trial.ShellCase

/-!
The commands of the trials: running a suite or shell cases, cleaning up after them, and explaining
them.
-/
namespace Playhouse.Trial

open Arguments

def helpFlag : Flag := ⟨["-h", "--help"], .help⟩

def actions : List String := ["run", "units", "clean", "tmain", "clean-tmain", "help"]

def yesOrNo : Taking := .choice ["yes", "no"]

/-- All commands together; the first word chooses one. -/
def whole : Command where
  name := "units.py"
  usage := ["usage: units.py [-h] ACTION ..."]
  explanation := ["",
    "Units test harness for ctags.",
    "",
    "positional arguments:",
    "  ACTION",
    "    run (units)",
    "               Run all tests case",
    "    clean      Clean all files created during units testing",
    "    tmain      Run tests for main part of ctags",
    "    clean-tmain",
    "               Clean all files created during tmain testing",
    "    help       show this help message and exit",
    "",
    "options:",
    "  -h, --help   show this help message and exit"]
  flags := [helpFlag]
  operands := [{ name := "ACTION", needed := false, among := actions }]

def runCommand : Command where
  name := "units.py run"
  usage := ["usage: units.py run [-h] [--categories CATEGORY1[,CATEGORY2,...]]",
    "                    [--ctags CTAGS] [--units UNITS1[,UNITS2,...]]",
    "                    [--languages PARSER1[,PARSER2,...]]",
    "                    [--with-timeout DURATION] [--with-valgrind]",
    "                    [--colorized-output \x7byes,no\x7d] [--run-shrink]",
    "                    [--show-diff-output]",
    "                    [--with-pretense-map NEWLANG0/OLDLANG0[,...]]",
    "                    [--threads THREADS] [--shell SHELL]",
    "                    units_dir [build_dir]"]
  explanation := ["",
    "Run all tests case under units_dir.",
    "",
    "positional arguments:",
    "  units_dir             Units directory.",
    "  build_dir             Build directory. If not given, units_dir is used.",
    "",
    "options:",
    "  -h, --help            show this help message and exit",
    "  --categories CATEGORY1[,CATEGORY2,...]",
    "                        run only CATEGORY* related cases.",
    "  --ctags CTAGS         ctags executable file for testing",
    "  --units UNITS1[,UNITS2,...]",
    "                        run only UNIT(S).",
    "  --languages PARSER1[,PARSER2,...]",
    "                        run only PARSER* related cases.",
    "  --with-timeout DURATION",
    "                        run a test case with specified timeout in seconds. 0",
    "                        means no timeout (default).",
    "  --with-valgrind       run a test case under valgrind",
    "  --colorized-output \x7byes,no\x7d",
    "                        print the result in color.",
    "  --run-shrink          (TODO: NOT IMPLEMENTED YET)",
    "  --show-diff-output    show diff output (and valgrind errors) for failed test",
    "                        cases in the summary.",
    "  --with-pretense-map NEWLANG0/OLDLANG0[,...]",
    "                        make NEWLANG parser pretend OLDLANG.",
    "  --threads THREADS     number of worker threads",
    "  --shell SHELL         shell to be used."]
  flags := [helpFlag,
    ⟨["--categories"], .text⟩,
    ⟨["--ctags"], .text⟩,
    ⟨["--units"], .text⟩,
    ⟨["--languages"], .text⟩,
    ⟨["--with-timeout"], .number⟩,
    ⟨["--with-valgrind"], .nothing⟩,
    ⟨["--colorized-output"], yesOrNo⟩,
    ⟨["--run-shrink"], .nothing⟩,
    ⟨["--show-diff-output"], .nothing⟩,
    ⟨["--with-pretense-map"], .text⟩,
    ⟨["--threads"], .number⟩,
    ⟨["--shell"], .text⟩]
  operands := [{ name := "units_dir" }, { name := "build_dir", optional := true }]

def cleanCommand : Command where
  name := "units.py clean"
  usage := ["usage: units.py clean [-h] units_dir"]
  explanation := ["",
    "Clean all files created during units testing.",
    "",
    "positional arguments:",
    "  units_dir   Build directory for units testing.",
    "",
    "options:",
    "  -h, --help  show this help message and exit"]
  flags := [helpFlag]
  operands := [{ name := "units_dir" }]

def shellCommand : Command where
  name := "units.py tmain"
  usage := ["usage: units.py tmain [-h] [--ctags CTAGS] [--colorized-output \x7byes,no\x7d]",
    "                      [--with-valgrind] [--show-diff-output]",
    "                      [--readtags READTAGS] [--optscript OPTSCRIPT]",
    "                      [--units UNITS1[,UNITS2,...]] [--threads THREADS]",
    "                      [--shell SHELL]",
    "                      tmain_dir [build_dir]"]
  explanation := ["",
    "Run tests for main part of ctags.",
    "",
    "positional arguments:",
    "  tmain_dir             Tmain directory.",
    "  build_dir             Build directory. If not given, tmain_dir is used.",
    "",
    "options:",
    "  -h, --help            show this help message and exit",
    "  --ctags CTAGS         ctags executable file for testing",
    "  --colorized-output \x7byes,no\x7d",
    "                        print the result in color.",
    "  --with-valgrind       (not implemented) run a test case under valgrind",
    "  --show-diff-output    how diff output for failed test cases in the summary.",
    "  --readtags READTAGS   readtags executable file for testing",
    "  --optscript OPTSCRIPT",
    "                        optscript executable file for testing",
    "  --units UNITS1[,UNITS2,...]",
    "                        run only Tmain/UNIT*.d (.d is not needed)",
    "  --threads THREADS     number of worker threads",
    "  --shell SHELL         shell to be used."]
  flags := [helpFlag,
    ⟨["--ctags"], .text⟩,
    ⟨["--colorized-output"], yesOrNo⟩,
    ⟨["--with-valgrind"], .nothing⟩,
    ⟨["--show-diff-output"], .nothing⟩,
    ⟨["--readtags"], .text⟩,
    ⟨["--optscript"], .text⟩,
    ⟨["--units"], .text⟩,
    ⟨["--threads"], .number⟩,
    ⟨["--shell"], .text⟩]
  operands := [{ name := "tmain_dir" }, { name := "build_dir", optional := true }]

def cleanShellCommand : Command where
  name := "units.py clean-tmain"
  usage := ["usage: units.py clean-tmain [-h] tmain_dir"]
  explanation := ["",
    "Clean all files created during tmain testing.",
    "",
    "positional arguments:",
    "  tmain_dir   Build directory for tmain testing.",
    "",
    "options:",
    "  -h, --help  show this help message and exit"]
  flags := [helpFlag]
  operands := [{ name := "tmain_dir" }]

/-- Reads the words for a command. An explanation or a complaint ends the run. -/
def readWords (command : Command) (words : List String) : Act Bench Given := do
  match command.read words with
  | .ok given => return given
  | .error .help =>
    Bench.print command.helpText
    throw (.exit 0)
  | .error (.complaint message) =>
    modify fun b => { b with err := b.err ++ command.complaintText message }
    throw (.exit 2)

/-- A word that was given and is not empty. -/
def word? (given : Given) (key : String) : Option String := (given.last? key).filter (· != "")

/-- The entries of a list that was given. -/
def listOf (given : Given) (key : String) : List String := ((word? given key).map (splitText ",")).getD []

def isGiven (given : Given) (key : String) : Bool := (given.last? key).isSome

def categoryName (name : String) : String := if name == rootCategory || endsWith ".r" name then name else name ++ ".r"

def optionsOf (given : Given) : Options :=
  let standard : Options := {}
  { shell := (word? given "--shell").getD standard.shell
    program := (word? given "--ctags").getD standard.program
    reader := (word? given "--readtags").getD standard.reader
    scripter := (word? given "--optscript").getD standard.scripter
    timeLimit := ((given.last? "--with-timeout").bind readInteger?).getD 0
    checksMemory := isGiven given "--with-valgrind"
    colored := (given.last? "--colorized-output").getD "yes" == "yes"
    categories := (listOf given "--categories").map categoryName
    units := listOf given "--units"
    languages := listOf given "--languages"
    shrinks := isGiven given "--run-shrink"
    showsDifferences := isGiven given "--show-diff-output" }

/-- The directory of a command, and the one for results, which is the same unless another is
given. -/
def foldersOf (given : Given) (key : String) : String × String :=
  let folder := (given.last? key).getD ""
  (folder, (word? given "build_dir").getD folder)

def statusOf (good : Bool) : Nat := if good then 0 else 1

/-- Carries out a command; the answer is the exit status. -/
def carryOut (tools : Tools) (action : String) (words : List String) : Act Bench Nat := do
  match action with
  | "run" | "units" =>
    let given ← readWords runCommand words
    let options := optionsOf given
    let pretense ← match (word? given "--with-pretense-map").map pretenseOptions with
      | none => pure ""
      | some (.ok text) => pure text
      | some (.error problem) => Bench.stop 1 problem.message
    let (folder, build) := foldersOf given "units_dir"
    return statusOf (← runSuite { options with pretense } tools folder build)
  | "tmain" =>
    let given ← readWords shellCommand words
    let (folder, build) := foldersOf given "tmain_dir"
    return statusOf (← runShellCases (optionsOf given) tools folder build)
  | "clean" =>
    cleanUnits (foldersOf (← readWords cleanCommand words) "units_dir").1
    return 0
  | "clean-tmain" =>
    cleanShellCases (foldersOf (← readWords cleanShellCommand words) "tmain_dir").1
    return 0
  | _ =>
    Bench.print whole.helpText
    return 0

/-- Carries out a command line; the answer is the exit status. The first word chooses the command,
and the others are for it. -/
def command (tools : Tools) : List String → Act Bench Nat
  | [] => do
    Bench.print whole.helpText
    return 1
  | first :: words => do
    match (← readWords whole [first]).last? "ACTION" with
    | some action => carryOut tools action words
    | none => throw (.missingKey .null)

end Playhouse.Trial
