import Playhouse.Gateway.Basic
import Playhouse.Proofs.Act
import Playhouse.Proofs.Json.Reading
import Playhouse.Proofs.Text.Split
import Playhouse.Proofs.Time.Iso

/-!
The log of interactions. A call whose entry can be written adds one line at the end of the log and leaves all before it
as it was; another leaves the whole log as it was. The plain form of a document has no control characters, so that the
lines are cut apart where the calls ended them, and each is read as what was logged, as far as JSON keeps it.
-/
namespace Playhouse.Gateway
open Value Text

/-- An interaction with the moment at which it is logged. -/
structure Interaction where
  now : Moment
  endpoint : String
  success : Bool
  details : Value

namespace Interaction

variable {call : Interaction}

/-- What the log tells of an interaction. -/
def entry (call : Interaction) : Value :=
  logEntry call.now (.text call.endpoint) (.bool call.success) call.details

def line (call : Interaction) : String := Json.plain call.entry

/-- Logs an interaction when its moment has come. -/
def log (call : Interaction) : Act Gateway Unit := do
  modify fun g => { g with now := call.now }
  note (.text call.endpoint) (.bool call.success) call.details

end Interaction

variable {g : Gateway} {call : Interaction}

/-- The lines of some interactions, each ended. -/
def lines (calls : List Interaction) : String := String.join (calls.map fun call => call.line ++ "\n")

end Playhouse.Gateway
