import Playhouse.Json.Writer
import Playhouse.Manual.Check
import Playhouse.Trial.Command

/-!
The command line. It works without files and without other programs: a page comes from standard
input, and a command that needs more says so.
-/
namespace Playhouse

/-- The programs of a place where none is installed. -/
def noTools : Trial.Tools := { Trial.Script.tools {} with isInstalled := fun _ => false }

/-- What a command line prints, its messages and its exit status. -/
structure Outcome where
  out : String := ""
  err : String := ""
  status : Nat := 0

def exitStatus : Except Fault Nat → Nat
  | .ok status => status
  | .error (.exit status) => status
  | .error _ => 1

/-- The message of a fault that is no plain exit. -/
def faultLine : Except Fault Nat → String
  | .ok _ | .error (.exit _) => ""
  | .error fault => fault.message ++ "\n"

/-- Carries out a command line, given what stands on standard input. -/
def outcome (page : String) : List String → Outcome
  | "units" :: words =>
    let (result, bench) := (Trial.command noTools words).runFrom {}
    { out := bench.out, err := bench.err ++ faultLine result, status := exitStatus result }
  | "manual" :: words =>
    let (result, transcript) := (Manual.run noTools {} words).runFrom {}
    { out := transcript.out, err := transcript.err ++ faultLine result, status := exitStatus result }
  | ["examples"] =>
    { out := Json.plain (.list ((Manual.drafts id (unifiedLines page)).map Value.record)) ++ "\n" }
  | ["features"] => { out := String.join ((Manual.features (unifiedLines page)).map (· ++ "\n")) }
  | _ => { err := "usage: playhouse units WORDS | manual WORDS | examples | features\n", status := 2 }

/-- Whether a command line reads standard input. -/
def readsPage (words : List String) : Bool := words == ["examples"] || words == ["features"]

end Playhouse

/-- All of a stream. -/
partial def readAll (stream : IO.FS.Stream) (done : String) : IO String := do
  let line ← stream.getLine
  if line.isEmpty then return done else readAll stream (done ++ line)

def main (words : List String) : IO UInt32 := do
  let page ← if Playhouse.readsPage words then readAll (← IO.getStdin) "" else pure ""
  let outcome := Playhouse.outcome page words
  (← IO.getStdout).putStr outcome.out
  (← IO.getStderr).putStr outcome.err
  return outcome.status.toUInt32
