import Playhouse.Trial.Suite

/-!
Shell cases: a script that calls the tag generator, with the output, the messages, the exit status
and the tags that are expected of it.
-/
namespace Playhouse.Trial
open Bench

/-- The status by which a script asks to be left out. -/
def leaveOutStatus : Int := 77

/-- The status by which a script tells that it could not do its work. -/
def brokenStatus : Int := 76

/-- What a script printed. Bytes that are no text are read one character to a byte, and stand in a
file as what cannot be read. -/
structure Printed where
  read : String
  stored : String

def Printed.ofBytes (bytes : List UInt8) : Printed :=
  let chars := Text.decodeBytes bytes
  let unify (text : List Char) := String.ofList (Text.replace "\r\n".toList ['\n'] text)
  if chars.flatMap Text.bytesOf == bytes then { read := unify chars, stored := unify chars }
  else { read := unify (bytes.map fun b => Char.ofNat b.toNat), stored := unify chars }

/-- What follows a program's name and a colon at the front of a text; a dot in the name stands for
any character but a line end. -/
def afterName? : List Char → List Char → Option (List Char)
  | [], ':' :: rest => some rest
  | n :: name, c :: rest => if n = c || (n = '.' && c ≠ '\n') then afterName? name rest else none
  | _, _ => none

/-- Messages with the usual name of the tag generator at the start of their lines. -/
def canonicalMessages (program messages : String) : String :=
  let name := Path.name program
  if name == "ctags" then messages
  else
    String.ofList ((Text.fullLines messages.toList).flatMap fun line =>
      match afterName? name.toList line with
      | some rest => "ctags:".toList ++ rest
      | none => line)

structure ShellCase where
  name : String
  folder : String
  build : String

namespace ShellCase

def expected (c : ShellCase) (aspect : String) : String := c.folder ++ "/" ++ aspect ++ "-expected.txt"

def actual (c : ShellCase) (aspect : String) : String := c.build ++ "/" ++ aspect ++ "-actual.txt"

/-- The line on a result, not yet printed. -/
def resultLine (options : Options) (notice : Notice) (title : String) (reason : Option String) : String :=
  notice.line options.colored title reason

/-- Compares what came out with what is expected: whether they agree, and the line on it. -/
def compare (options : Options) (tools : Tools) (c : ShellCase) (aspect : String) : Act Bench (Bool × String) := do
  let difference := c.build ++ "/" ++ aspect ++ "-diff.txt"
  let actual ← text? (c.actual aspect)
  let expected ← text? (c.expected aspect)
  if actual.isSome && actual == expected then
    if ← isFile difference then remove difference
    return (true, resultLine options .ok (padded aspect) none)
  else
    write difference ((tools.difference true expected actual).getD "")
    return (false, resultLine options .error (padded aspect) (some ("diff: " ++ difference)))

/-- A mark for a file that version control does not know. -/
def unknownMark : String := "<G>"

def trackingMark (tools : Tools) (path : String) : String :=
  let listing := tools.tracked path
  if tools.isInstalled "git" && listing.status = 0 && listing.stdout == "" then unknownMark else ""

def fail (name : String) : Act Bench Unit := modify fun b => { b with failures := b.failures ++ [name] }

/-- Keeps what the debugger says about the memory images of a crash. -/
def keepBacktraces (tools : Tools) (c : ShellCase) : Act Bench Unit := do
  let images ← find (c.build ++ "/core*")
  write (c.build ++ "/gdb-backtrace.txt") (String.join (images.map fun path => tools.backtrace (Path.name path)))

/-- Checks an aspect if something is expected of it, and gives the line on it. -/
def checkAspect (options : Options) (tools : Tools) (c : ShellCase) (aspect : String) : Act Bench String := do
  let actual := c.actual aspect
  if ← isFile (c.expected aspect) then
    let (agrees, line) ← c.compare options tools aspect
    if agrees then remove actual
    else
      fail (c.name ++ "/" ++ aspect ++ "-compare" ++ trackingMark tools (c.expected aspect))
      if aspect == "stderr" && occursIn "core dump" ((← text? actual).getD "") && tools.isInstalled "gdb" then
        c.keepBacktraces tools
    return line
  else
    if ← isFile actual then remove actual
    return ""

/-- Runs a shell case. Its lines are printed together when it has ended. -/
def run (options : Options) (tools : Tools) (c : ShellCase) : Act Bench Unit := do
  onFiles (Workspace.makeDirectory c.build)
  removeFound (c.build ++ "/*-actual.txt")
  let title := "\nTesting " ++ c.name ++ "\n" ++ rule "-"
  let run := tools.script (Path.name c.folder)
  run.files.forM fun (name, text) =>
    modify fun b => { b with files.tree := b.files.tree.addFile (b.files.full (c.build ++ "/" ++ name)) text }
  let printed := Printed.ofBytes run.stdout
  let messages := canonicalMessages options.program (replaceText "\r\n" "\n" run.stderr)
  let reason := String.ofList (printed.read.toList.filter (· ≠ '\n'))
  if run.status = leaveOutStatus then
    print (title ++ resultLine options .skip "" (some reason))
  else if run.status = brokenStatus then
    fail (c.name ++ "/internal-error: " ++ reason)
    print (title ++ resultLine options .internalError "" (some reason))
  else
    write (c.actual "exit") (toString run.status ++ "\n")
    write (c.actual "stdout") printed.stored
    write (c.actual "stderr") messages
    if ← isFile (c.build ++ "/tags") then
      onFiles (Workspace.rename (c.build ++ "/tags") (c.actual "tags"))
    let lines ← aspects.mapM (c.checkAspect options tools)
    print (title ++ String.join lines)

end ShellCase

/-- Shows the differences and backtraces that shell cases left. -/
def showShellDetails (build : String) : Act Bench Unit := do
  let show_ (path : String) : Act Bench Unit := do
    printIndented (fullLinesOf (unifiedLines (← onFiles (Workspace.read path))))
  (← find (build ++ "/*/*-diff.txt")).forM fun path => do
    say path
    say ""
    show_ path
    say ""
  (← find (build ++ "/*/gdb-backtrace.txt")).forM show_

/-- Runs the shell cases below a directory; the answer tells whether all went well. -/
def runShellCases (options : Options) (tools : Tools) (folder build : String) : Act Bench Bool := do
  need tools "diff"
  let place := buildPlace (← get).files build
  let cases := (← find (folder ++ "/*.d")).map fun path =>
    let name := Path.name path
    { name := (name.dropEnd 2).toString, folder := path, build := place ++ "/" ++ name : ShellCase }
  work (ShellCase.run options tools)
    (cases.filter fun c => options.units.isEmpty || options.units.contains c.name)
  say ""
  let failures := (← get).failures
  if failures.isEmpty then return true
  say "Failed tests"
  print (rule "=")
  failures.forM fun name => say (replaceText ShellCase.unknownMark " (not committed/cached yet)" name)
  say ""
  if options.showsDifferences then
    say "Detail [compare]"
    print (rule "-")
    showShellDetails place
  return false

end Playhouse.Trial
