import Playhouse.Session.Store

/-!
Events that their callers keep. An event that is recorded is the caller's own record: the time is set in it, and the
history holds the record itself. So a record that is given again says the later time also where it was recorded before,
for as long as that history stays in memory.
-/
namespace Playhouse

/-- Sessions with the records of their callers, and the places in the histories in memory where they stand. -/
structure Shared where
  sessions : Sessions
  records : List Value
  places : List (Value × Nat × Nat) := []

namespace Shared

def onSessions {α : Type} (act : Act Sessions α) : Act Shared α :=
  act.on Shared.sessions fun sessions shared => { shared with sessions }

/-- A session that says, at a place of its history, what a record now says. -/
def rewriteAt (place : Nat) (event : Value) (session : Fields) : Fields :=
  match session.get? "user_choices" with
  | some (.list events) => session.set "user_choices" (.list (events.set place event))
  | _ => session

/-- The session under an id with what a record now says, wherever the record stands in it. -/
def rewrite (places : List (Value × Nat × Nat)) (number : Nat) (event id : Value) (session : Fields) : Fields :=
  places.foldl (fun session (holder, place, held) =>
    if held == number && holder.equal id then rewriteAt place event session else session) session

/-- All sessions in memory with what a record now says. -/
def rewriteAll (places : List (Value × Nat × Nat)) (number : Nat) (event : Value) (s : Sessions) : Sessions :=
  { s with active := s.active.map fun (id, session) => (id, match session with
      | .record fields => .record (rewrite places number event id fields)
      | other => other) }

/-- Where a record comes to stand in a session, if its history takes it. -/
def nextPlace (id : Value) (number : Nat) (session : Fields) : List (Value × Nat × Nat) :=
  match session.get? "user_choices" with
  | some (.list events) => [(id, events.length, number)]
  | _ => []

/-- Adds a record of a caller, by its number, to a live session. -/
def record (id : Value) (number : Nat) : Act Shared Bool := do
  match ← onSessions (Sessions.get? id) with
  | none => return false
  | some session =>
    let event ← onSessions (Sessions.timed ((← get).records.getD number .null))
    let places := (← get).places
    modify fun shared =>
      { records := shared.records.set number event
        places := places ++ nextPlace id number session
        sessions := rewriteAll places number event shared.sessions }
    onSessions (Sessions.enter id (rewrite places number event id session) event)

/-- Whatever else is done with the sessions: a history that leaves memory or is replaced holds no record any more. -/
def meanwhile (act : Sessions → Sessions) (replaced : Option String) (shared : Shared) : Shared :=
  let sessions := act shared.sessions
  { shared with
    sessions
    places := shared.places.filter fun (id, _, _) =>
      (sessions.find? id).isSome && replaced.all fun name => !id.equal (.text name) }

end Shared
end Playhouse
