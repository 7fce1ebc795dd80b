import Playhouse.Fault

/-!
Starting and stopping the server. Whatever fails while starting frees the socket again and exits with
1; a signal frees the socket and exits with 0. To free it, every process that has a connection on it is asked to end,
and killed if it does not end within a second. A process that vanishes or may not be touched is passed over; any other
failure ends the search.
-/
namespace Playhouse.Server

inductive Refusal where
  | gone | denied | other
  deriving DecidableEq

/-- The local end of a connection: a socket, none at all, or an address that is not bound yet. -/
inductive Local where
  | socket (number : Value)
  | absent
  | unbound

/-- A process. It is asked to end once for every connection on the socket, and may answer otherwise each time: what it
does then depends on how often it was asked before. -/
structure Program where
  pid : Value
  connections : List Local := []
  refusesOpening : Option Refusal := none
  refusesListing : Option Refusal := none
  /-- Whether it outlives the wait. -/
  stubborn : Nat → Bool := fun _ => false
  refusesEnding : Nat → Option Refusal := fun _ => none
  refusesWaiting : Nat → Option Refusal := fun _ => none
  refusesKilling : Nat → Option Refusal := fun _ => none

/-- What happens while the server starts and stops. -/
inductive Event where
  | terminate (pid : Value)
  | wait (pid : Value)
  | kill (pid : Value)
  | signal (number : Nat)
  | atExit
  | sleep
  | run (socket : Int)

/-- How long a process may take to end, in seconds. -/
def patience : Nat := 1

/-- How dealing with a process ends: the next one follows, or the search is over. -/
inductive Verdict where
  | next | over
  deriving DecidableEq

def Refusal.verdict : Refusal → Verdict
  | gone | denied => .next
  | other => .over

/-- The events of ending a process that was asked to end some times before. -/
def ending (program : Program) (before : Nat) : List Event × Option Refusal :=
  let asked : List Event := [.terminate program.pid, .wait program.pid]
  match program.refusesEnding before, program.refusesWaiting before with
  | some refusal, _ => ([.terminate program.pid], some refusal)
  | none, some refusal => (asked, some refusal)
  | none, none =>
    if program.stubborn before then (asked ++ [.kill program.pid], program.refusesKilling before) else (asked, none)

/-- Goes through the connections of a process. -/
def freeFrom (socket : Value) (program : Program) (before : Nat) : List Local → List Event × Verdict
  | [] => ([], .next)
  | .absent :: rest => freeFrom socket program before rest
  | .unbound :: _ => ([], .over)
  | .socket number :: rest =>
    if number.equal socket then
      match ending program before with
      | (events, some refusal) => (events, refusal.verdict)
      | (events, none) =>
        let (more, verdict) := freeFrom socket program (before + 1) rest
        (events ++ more, verdict)
    else freeFrom socket program before rest

/-- Ends a process if it uses the socket. -/
def freeProgram (socket : Value) (program : Program) : List Event × Verdict :=
  match program.refusesOpening, program.refusesListing with
  | some refusal, _ => ([], refusal.verdict)
  | none, some refusal => ([], refusal.verdict)
  | none, none => freeFrom socket program 0 program.connections

/-- Ends every process of a table that uses the socket, until the search is over. -/
def freeSocket (socket : Value) : List Program → List Event
  | [] => []
  | program :: rest =>
    match freeProgram socket program with
    | (events, .next) => events ++ freeSocket socket rest
    | (events, .over) => events

/-- What the server finds around it. -/
structure Surroundings where
  programs : List Program := []
  /-- Whether the processes can be listed. -/
  listable : Bool := true
  /-- The socket setting, as a text. -/
  setting : Option String := none
  /-- Whether the site can be made. -/
  siteReady : Bool := true
  /-- Whether the server, once started, fails. -/
  serverFails : Bool := false

def standardSocket : Int := 5000

/-- The socket to use; the setting has to be a whole number. -/
def Surroundings.socket? (around : Surroundings) : Option Int :=
  match around.setting with
  | none => some standardSocket
  | some text => readInteger? text

def Surroundings.free (around : Surroundings) (socket : Value) : List Event :=
  if around.listable then freeSocket socket around.programs else []

def Surroundings.cleanUp (around : Surroundings) : List Event :=
  match around.socket? with
  | some socket => around.free (.int socket)
  | none => []

/-- The events of a start, and the exit code if it ends that way. -/
def Surroundings.launch (around : Surroundings) : List Event × Option Nat :=
  let setUp := [.signal 15, .signal 2, .atExit]
  match around.socket? with
  | none => (setUp ++ around.cleanUp, some 1)
  | some socket =>
    let ready := setUp ++ around.cleanUp ++ [.sleep]
    if !around.siteReady then (ready, some 1)
    else if around.serverFails then (ready ++ [.run socket] ++ around.cleanUp, some 1)
    else (ready ++ [.run socket], none)

def Event.document : Event → Value
  | terminate pid => .list [.text "terminate", pid]
  | wait pid => .list [.text "wait", pid, .int patience]
  | kill pid => .list [.text "kill", pid]
  | signal number => .list [.text "signal", .int number, .text "signal_handler"]
  | atExit => .list [.text "atexit", .text "cleanup_resources"]
  | sleep => .list [.text "sleep", .int 1]
  | run socket => .list [.text "run",
      .record [("hostname", .text "0.0.0.0"), ("port", .int socket), ("use_reloader", .bool false),
        ("use_debugger", .bool true), ("threaded", .bool true)],
      .record [("DEBUG", .bool true), ("TESTING", .bool false), ("SERVER_NAME", .null)]]

end Playhouse.Server
