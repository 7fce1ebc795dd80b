import Playhouse.Trial.Bench
import Playhouse.Trial.Demand
import Playhouse.Trial.Format

/-!
A sample: an input file with the tags that the tag generator is to make of it. The letter of its
directory says what kind of sample it is. What it needs beside its input is copied to where it is built, and a list of
the copies is kept there so that they can be removed again.
-/
namespace Playhouse.Trial
open Bench

/-- Removes what a list of copies names, and the list. -/
def removeCopies (list : String) : Act Bench Unit := do
  match ← text? list with
  | none => return
  | some text =>
    (linesOf (unifiedLines text)).forM fun path => do
      if ← isDirectory path then onFiles (Workspace.removeTree path)
      else if ← isFile path then remove path
    remove list

def removeFound (pattern : String) : Act Bench Unit := do (← find pattern).forM remove

def removeFoundDeep (pattern : String) : Act Bench Unit := do (← findDeep pattern).forM remove

/-- Removes the copies and the temporary files of a case. -/
def tidy (folder list : String) : Act Bench Unit := do
  if ← isDirectory folder then
    removeCopies list
    removeFound (folder ++ "/*.tmp")
    removeFound (folder ++ "/*.TMP")

/-- The files of a case that stay where they are. -/
def staysBehind (name : String) : Bool :=
  startsWith "input." name || startsWith "expected.tags" name || startsWith "README" name
    || ["features", "languages", "filters", "args.ctags"].contains name

/-- Copies what a case needs to where it is built. -/
def bringAlong (source target list : String) : Act Bench Unit := do
  (← find (source ++ "/*")).forM fun path => do
    let name := Path.name path
    if !staysBehind name then
      let place := target ++ "/" ++ name
      if ← isDirectory path then onFiles (Workspace.copyTree path place)
      else onFiles (Workspace.copyFile path place)
      onFiles (Workspace.append list (place ++ "\n"))

/-- Makes sure that there is something to clean. -/
def needFolder (folder : String) : Act Bench Unit := do
  if !(← isDirectory folder) then stop 0 ("No such directory: " ++ folder)

/-- Removes what the cases below a directory left. -/
def cleanUnits (folder : String) : Act Bench Unit := do
  needFolder folder
  (← findDeep (folder ++ "/**/BUNDLES")).forM removeCopies
  removeFoundDeep (folder ++ "/**/*.tmp")
  removeFoundDeep (folder ++ "/**/*.TMP")

/-- What a shell case is compared by. -/
def aspects : List String := ["stdout", "stderr", "exit", "tags"]

/-- Removes what the shell cases below a directory left. -/
def cleanShellCases (folder : String) : Act Bench Unit := do
  needFolder folder
  aspects.forM fun aspect => ["actual", "diff"].forM fun kind =>
    removeFoundDeep (folder ++ "/**/" ++ aspect ++ "-" ++ kind ++ ".txt")
  removeFoundDeep (folder ++ "/**/gdb-backtrace.txt")

/-- The permissions with which the removal of a protected file is tried again: the file's and its
directory's. -/
def unprotected (directory : Nat) : Nat × Nat := (0o600, directory ||| 0o200)

inductive Kind where
  | plain | bug | memory | loop | todo
  deriving DecidableEq

def Kind.ofLetter? : Char → Option Kind
  | 'd' => some .plain
  | 'b' => some .bug
  | 't' => some .todo
  | 'i' => some .loop
  | 'v' => some .memory
  | _ => none

structure Sample where
  input : String
  folder : String
  name : String
  kind : Kind
  category : String
  build : String
  extras : List String

/-- Words as a shell would be given them: those with a blank or a backslash in quotes. -/
def commandText (words : List String) : String :=
  joinTexts " " (words.map fun word =>
    if word.toList.contains ' ' || word.toList.contains '\\' then "'" ++ word ++ "'" else word)

def environment : String :=
  "LC_ALL=\"C\"; export LC_ALL\nMSYS2_ARG_CONV_EXCL='--regex-;--_scopesep;--exclude;--exclude-exception' "
    ++ "export MSYS2_ARG_CONV_EXCL\n"

/-- A command with its filters, to be repeated by hand. -/
def commandRecord (words : List String) (filter : String) (format : Format) : String :=
  environment ++ "\n" ++ commandText words ++ " \\\n| " ++ commandText format.editor ++ " \\\n| " ++ filter ++ "\n\n"

namespace Sample

def title (s : Sample) : String := s.category ++ "/" ++ s.name

/-- The form of the tags: that of the first file of expected tags that is there. -/
def format (s : Sample) (files : Workspace) : Format :=
  (Format.all.find? fun f => files.isFile (s.folder ++ "/" ++ f.expectedFile)).getD .ctags

/-- A file that a run leaves where the sample is built. -/
def output (s : Sample) (name : String) : String := s.build ++ "/" ++ name

def copies (s : Sample) : String := s.output "BUNDLES"

/-- The program that the tags go through before they are compared: the sample's own if it can be run,
else one that changes nothing. -/
def filter (s : Sample) (bench : Bench) : String :=
  let own := s.folder ++ "/filter"
  if bench.files.isFile own && bench.executables.any (bench.files.same own) then own else "cat"

/-- The command up to the output flags and the input. -/
def baseCommand (options : Options) (s : Sample) (files : Workspace) : List String :=
  let arguments := s.folder ++ "/args.ctags"
  [options.program, "--verbose", "--options=NONE", "--fields=-T"]
    ++ (if options.pretense == "" then [] else [options.pretense])
    ++ ["--optlib-dir=+" ++ s.folder ++ "/optlib", "-o", "-"]
    ++ (if files.isFile arguments then ["--options=" ++ arguments] else [])

/-- Whether the sample's own arguments stop the tag generator. -/
def hasBrokenArguments (tools : Tools) (s : Sample) (files : Workspace) (base : List String) : Bool :=
  files.isFile (s.folder ++ "/args.ctags") && (tools.tagger (base ++ ["--_force-quit=0"])).status != 0

/-- The language that the tag generator takes the input for. -/
def language (tools : Tools) (s : Sample) (base : List String) : String :=
  languageIn (tools.tagger (base ++ ["--print-language", s.input])).stdout

def heading (s : Sample) (format : Format) (language : String) : String :=
  padded ("Testing " ++ s.name ++ " as " ++ language ++ (if s.extras.isEmpty then "" else " (multi inputs)")
    ++ format.label)

/-- The file for a reduced input. Percent signs in its directory have to be doubled. -/
def shrinkFile (s : Sample) (language : String) : Except Fault String :=
  let build := replaceText "%%" "" s.build
  if build.toList.contains '%' then .error (.mismatch (.numberNeeded "str"))
  else .ok (replaceText "%%" "%" s.build ++ "/SHRINK-" ++ replaceText "/" "-" language ++ ".tmp")

/-- Reduces an input that makes trouble, if that is asked for and there is one input only. -/
def shrink (options : Options) (s : Sample) (base : List String) (language : String) : Act Bench Unit := do
  if options.shrinks && s.extras.isEmpty then
    let file ← liftM (s.shrinkFile language)
    say ("Shrinking " ++ s.input ++ " as " ++ language)
    note [options.shell, "units", "shrink", "--timeout=1", "--foreground",
      commandText base ++ " --language-force=" ++ language ++ " %s > /dev/null 2>&1", s.input, file]

/-- The path that a hash is expected to be made from. -/
def expectedPath (path : String) : String :=
  match Text.cut? "/Units".toList (firstLine path) with
  | some (before, _) => "./Units" ++ (path.drop (before.length + 6)).toString
  | none => "./Units" ++ path

/-- The hash that the tag generator makes from a path. -/
def hash (options : Options) (tools : Tools) (path : String) : Except Fault String :=
  match linesOf (tools.tagger [options.program, "--quiet", "--options=NONE", "--_anonhash=" ++ path]).stdout with
  | first :: _ => .ok first
  | [] => .error .pastEnd

/-- The hashes in the tags and those that stand for them; none if no hash is there. -/
def hashPairs (options : Options) (tools : Tools) (s : Sample) (tags : String) :
    Except Fault (List (String × String)) :=
  if hasHash (unifiedLines tags) then
    (s.input :: s.extras).mapM fun path => do
      return (← hash options tools path, ← hash options tools (expectedPath path))
  else return []

/-- Writes the tags as they are compared: without directories and with the expected hashes. -/
def writeFiltered (options : Options) (tools : Tools) (s : Sample) (format : Format) (filter tags : String) :
    Act Bench Unit := do
  let pairs ← liftM (hashPairs options tools s tags)
  let target := s.output "FILTERED.tmp"
  if filter == "cat" then
    let replacements ← liftM (pairs.mapM fun (old, new) => tools.replacement old new)
    write target (format.normalize replacements tags)
  else
    let pipeline := commandText (format.editor
      ++ pairs.flatMap (fun (old, new) => ["-e", "s/" ++ old ++ "/" ++ new ++ "/g"])
      ++ ["<", s.output "RAWOUT.tmp", "|", filter, ">", target])
    note [options.shell, "-c", pipeline]
    if let some filtered ← liftM (tools.pipeline options.shell pipeline) then write target filtered

def watched (s : Sample) (command : List String) : List String :=
  ["valgrind", "--leak-check=full", "--track-origins=yes", "--error-exitcode=58",
    "--log-file=" ++ s.output "VALGRIND.tmp"] ++ command

/-- The exit status by which the memory checker tells of an error. -/
def memoryStatus : Int := 58

/-- What is settled before the tag generator runs: the form of the tags, the filter and the
command. -/
structure Plan where
  format : Format
  filter : String
  base : List String

def conclude (options : Options) (s : Sample) (verdict : Verdict) (notice : Notice) (heading : String)
    (file reason : Option String) : Act Bench Unit := do
  record verdict s.title
  announce options notice heading file reason

def pass (options : Options) (s : Sample) (heading : String) (isFixed : Bool) (reason : Option String) :
    Act Bench Unit := do
  tidy s.build s.copies
  if isFixed then recordFixed s.title
  s.conclude options .passed .ok heading none reason

/-- Compares the tags with those expected, and ends the sample. -/
def compare (options : Options) (tools : Tools) (s : Sample) (plan : Plan) (heading tags : String)
    (recordCommand : Act Bench Unit) : Act Bench Unit := do
  let expected := s.folder ++ "/" ++ plan.format.expectedFile
  match ← text? expected with
  | none => s.pass options heading (s.kind = .bug || s.kind = .loop) (some "\"expected.tags*\" not found")
  | some wanted =>
    s.writeFiltered options tools plan.format plan.filter tags
    let some filtered ← text? (s.output "FILTERED.tmp") | throw (.noFile (s.output "FILTERED.tmp"))
    let agrees ← if wanted == filtered then pure true else do
      let difference := tools.difference false (some wanted) (some filtered)
      write (s.output "DIFF.tmp") (difference.getD "")
      pure difference.isNone
    if agrees then
      s.pass options heading (s.kind = .bug || (options.timeLimit ≠ 0 && s.kind = .loop)) none
    else
      let result := some (s.output "RESULT.tmp")
      if s.kind = .bug then s.conclude options .knownBug .knownError heading result none
      else s.conclude options .failedByDifference .error heading result (some "unexpected output")
      recordCommand

/-- Runs the tag generator on a sample that can run, and ends the sample. -/
def execute (options : Options) (tools : Tools) (s : Sample) (plan : Plan) : Act Bench Unit := do
  let plainCommand := plan.base ++ plan.format.flags ++ s.input :: s.extras
  let command := if options.checksMemory then s.watched plainCommand else plainCommand
  let result := some (s.output "RESULT.tmp")
  let recordCommand := write (s.output "CMDLINE.tmp") (commandRecord command plan.filter plan.format)
  write (s.output "RAWOUT.tmp") ""
  write (s.output "STDERR.tmp") ""
  note command
  let run := tools.tagger command
  if run.endless then
    let language := s.language tools plan.base
    let _ ← liftM (s.shrinkFile language)
    s.conclude options .timedOut .error (s.heading plan.format language) result (some "TIMED OUT")
    recordCommand
    s.shrink options plan.base language
  else
    write (s.output "RAWOUT.tmp") run.stdout
    write (s.output "STDERR.tmp") run.stderr
    recordCommand
    let language := languageInLog run.stderr
    let _ ← liftM (s.shrinkFile language)
    let heading := s.heading plan.format language
    if run.status ≠ 0 then
      if options.checksMemory && run.status = memoryStatus && s.kind ≠ .memory then
        s.conclude options .memoryError .error heading result (some "valgrind-error")
        recordCommand
      else
        if s.kind = .bug then s.conclude options .knownBug .knownError heading result none
        else
          s.conclude options .failedByStatus .error heading result
            (some ("unexpected exit status: " ++ toString run.status))
        recordCommand
        s.shrink options plan.base language
    else
      if options.checksMemory && s.kind = .memory then recordFixed s.title
      s.compare options tools plan heading run.stdout recordCommand

def hindrance? (options : Options) (tools : Tools) (features : List String) (s : Sample) (plan : Plan)
    (isBroken : Bool) (files : Workspace) : Option (Verdict × String) :=
  let inFolder (name : String) := files.text? (s.folder ++ "/" ++ name)
  match unmetFeature? features (featureDemands plan.format.feature? (inFolder "features")) with
  | some demand =>
    some (.skippedByFeatures,
      if startsWith "!" demand then "unwanted feature \"" ++ (demand.drop 1).toString ++ "\" is available"
      else "required feature \"" ++ demand ++ "\" is not available")
  | none =>
    let languages := linesOf (tools.tagger (plan.base ++ ["--list-languages"])).stdout
    match unmetLanguage? languages (inFolder "languages") with
    | some language =>
      some (.skippedByLanguages, "required language parser \"" ++ language ++ "\" is not available")
    | none =>
      if options.timeLimit = 0 && s.kind = .loop then some (.skippedByLoop, "may cause an infinite loop")
      else if isBroken then some (.brokenArguments, "broken args.ctags?")
      else none

/-- Runs a sample, unless it is not asked for. -/
def run (options : Options) (tools : Tools) (features : List String) (s : Sample) : Act Bench Unit := do
  let bench ← get
  let plan : Plan :=
    { format := s.format bench.files
      filter := s.filter bench
      base := s.baseCommand options bench.files }
  let isBroken := s.hasBrokenArguments tools bench.files plan.base
  if isWanted options.units s.name s.category
      && (options.languages.isEmpty || options.languages.contains (s.language tools plan.base)) then
    tidy s.build s.copies
    onFiles (Workspace.makeDirectory s.build)
    if !(← get).files.same s.build s.folder then bringAlong s.folder s.build s.copies
    match s.hindrance? options tools features plan isBroken (← get).files with
    | some (verdict, reason) =>
      let language := s.language tools plan.base
      let _ ← liftM (s.shrinkFile language)
      let (notice, file) := if verdict = .brokenArguments then (Notice.error, none)
        else (Notice.skip, some (s.output "RESULT.tmp"))
      s.conclude options verdict notice (s.heading plan.format language) file (some reason)
    | none => s.execute options tools plan

end Sample
end Playhouse.Trial
