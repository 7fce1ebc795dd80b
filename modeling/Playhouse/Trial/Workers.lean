import Playhouse.Data.Value

/-!
Workers that take jobs from a queue, and the console they print to. An empty place in the queue
tells the worker that takes it to stop.
-/
namespace Playhouse.Trial

/-- What a worker leaves: the jobs it took, how many of them failed, how many entries of the queue
were never reported as done, and the rest of the queue. -/
structure Shift (α : Type) where
  seen : List α := []
  mishaps : Nat := 0
  unfinished : Nat := 0
  left : List (Option α) := []

/-- A worker takes jobs until it is told to stop. A job that fails counts as done; the entry that
tells it to stop does not. -/
def serve {α : Type} (fails : α → Bool) : List (Option α) → Shift α
  | [] => {}
  | none :: rest => { unfinished := rest.length + 1, left := rest }
  | some job :: rest =>
    let shift := serve fails rest
    { shift with seen := job :: shift.seen, mishaps := shift.mishaps + (if fails job then 1 else 0) }

/-- What an interruption leaves: the queue after the workers were told to stop, how many seconds each
is waited for, and the exit status. -/
structure Interruption (α : Type) where
  left : List (Option α)
  waits : List Nat
  status : Nat

/-- An interruption drops the waiting jobs, tells every worker to stop and waits for each of them. -/
def interrupt {α : Type} (workers : Nat) (_waiting : List α) : Interruption α :=
  { left := List.replicate workers none
    waits := List.replicate workers 2
    status := 1 }

inductive ConsoleCall where
  | output (device : Int)
  | readMode (handle : Nat)
  | writeMode (handle mode : Nat)
  deriving DecidableEq

def outputDevice : Int := -11

/-- The bit that makes a console obey control sequences. -/
def sequenceBit : Nat := 4

/-- Lets a console obey control sequences. Only one system needs it, and only a console, which is
what tells its mode. -/
def enableSequences (system : String) (handle : Nat) (mode? : Option Nat) : List ConsoleCall :=
  if system == "nt" then
    [.output outputDevice, .readMode handle]
      ++ (mode?.map fun mode => ConsoleCall.writeMode handle (mode ||| sequenceBit)).toList
  else []

def ConsoleCall.document : ConsoleCall → Value
  | output device => .list [.text "GetStdHandle", .int device]
  | readMode handle => .list [.text "GetConsoleMode", .int handle]
  | writeMode handle mode => .list [.text "SetConsoleMode", .int handle, .int mode]

end Playhouse.Trial
