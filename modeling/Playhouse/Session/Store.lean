import Playhouse.Data.Access
import Playhouse.Json.Writer
import Playhouse.World.FileTree

/-!
Sessions of players. The store holds the active sessions in memory and writes each change through to
a file of its own, from which a session can be loaded again. A session that has been idle for more
than two hours has expired, and a player may have only a few at a time.
-/
namespace Playhouse

structure Sessions where
  active : List (Value × Value) := []
  limit : Int := 3
  tree : FileTree := {}
  now : Moment
  made : Nat := 0
  printed : List String := []

namespace Sessions

/-- How long a session may be idle, in microseconds. -/
def timeout : Int := 2 * 3600 * Moment.second

/-- The directory of the session files. The first part stands for the place of the installation. -/
def directory : String := "<tmp>/backend/data/sessions"

/-! ### Files -/

def fileName (id : Value) : String := id.asText ++ ".json"

/-- The file of a session; an id that begins with a slash is a path of its own. -/
def path (id : Value) : String :=
  if startsWith "/" (fileName id) then fileName id else directory ++ "/" ++ fileName id

/-- A path without empty and `.` parts. -/
def tidyPath (path : String) : String :=
  joinTexts "/" ((splitText "/" path).filter fun part => part != "" && part != ".")

/-- The slashes that a path from the root is shown with: two if it begins with just two. -/
def shownRoot (path : String) : String :=
  if !startsWith "/" path then ""
  else if startsWith "//" path && !startsWith "///" path then "//" else "/"

def shownPath (id : Value) : String := quotedText (shownRoot (path id) ++ tidyPath (path id))

/-- Why the file of a session cannot be used, as the system says it. -/
def problemMessage (id : Value) : FileTree.Problem → String
  | .missing => "[Errno 2] No such file or directory: " ++ shownPath id
  | .directory => "[Errno 21] Is a directory: " ++ shownPath id
  | .notDirectory => "[Errno 20] Not a directory: " ++ shownPath id
  | .longName => "[Errno 36] File name too long: " ++ shownPath id

/-- Whether a part of the path is longer than names may be. -/
def hasLongName (id : Value) : Bool :=
  (splitText "/" (fileName id)).any fun part => 255 < part.utf8ByteSize

/-- What keeps a session from its file: something on the way there, or the file's own name. -/
def problem? (tree : FileTree) (id : Value) : Option FileTree.Problem :=
  match tree.obstacle? (path id) with
  | some problem => some problem
  | none =>
    if hasLongName id then some .longName
    else if tree.isDirectory (path id) then some .directory
    else none

def print (line : String) : Act Sessions Unit :=
  modify fun s => { s with printed := s.printed ++ [line] }

/-- Writes a session to its file; a failure is only reported. -/
def save (id session : Value) : Act Sessions Unit := do
  let store ← get
  match problem? store.tree id with
  | some problem => print ("Error saving session " ++ id.asText ++ ": " ++ problemMessage id problem)
  | none =>
    set { store with tree := (store.tree.write? (path id) (Json.spread 2 session)).getD store.tree }

/-- Reads a session from its file, if there is one; a failure is only reported. -/
def loadFile (id : Value) : Act Sessions Value := do
  let store ← get
  let report (message : String) : Act Sessions Value := do
    print ("Error loading session " ++ id.asText ++ ": " ++ message)
    return .null
  match problem? store.tree id with
  | some .missing | some .notDirectory => return .null
  | some problem => report (problemMessage id problem)
  | none =>
    match store.tree.text? (path id) with
    | none => return .null
    | some text =>
      match Json.read (unifiedLines text) with
      | .ok session => return session
      | .error problem => report problem.message

/-! ### The sessions in memory -/

def find? (store : Sessions) (id : Value) : Option Value :=
  (store.active.find? fun entry => entry.1.equal id).map (·.2)

def putIn (id session : Value) : List (Value × Value) → List (Value × Value) := Entries.put (·.equal id) id session

/-- Puts a session under an id: in its place if there is one, at the end otherwise. -/
def put (id session : Value) : Act Sessions Unit :=
  modify fun s => { s with active := putIn id session s.active }

def drop (id : Value) : Act Sessions Unit :=
  modify fun s => { s with active := s.active.filter fun entry => !entry.1.equal id }

def isExpired (now : Moment) (session : Value) : Except Fault Bool := do
  match ← session.entry "last_activity" with
  | .text s =>
    let (last, hasOffset) ← (Moment.read s).mapError Fault.date
    if hasOffset then throw (.mismatch .mixedDates)
    return timeout < now.micros - last.micros
  | _ => throw (.mismatch .noDateText)

def stamp : Act Sessions Value := do return .text (← get).now.iso

/-- Sets the last activity of a session in memory to now, unless it has expired. -/
def renew (id session : Value) : Act Sessions (Option Fields) := do
  if ← liftM (isExpired (← get).now session) then return none
  match session with
  | .record fields =>
    let fields := Fields.set "last_activity" (← stamp) fields
    put id (.record fields)
    save id (.record fields)
    return some fields
  | _ => return none

/-- The live session under an id, its last activity set to now. A session that is not in memory is
loaded from its file. -/
def get? (id : Value) : Act Sessions (Option Fields) := do
  if !id.isKey then throw (.mismatch (.notKey id.kind))
  let held := ((← get).find? id).getD .null
  let session ← if held.truthy then pure held else loadFile id
  if !session.truthy then return none
  if !held.truthy then put id session
  renew id session

/-- The unexpired sessions of a player, in order. -/
def ofUser (user : Value) : Act Sessions (List Value) := do
  let now := (← get).now
  let sessions := (← get).active.map (·.2)
  liftM (sessions.filterM fun session => do
    if (← session.entry "user_id").equal user then return !(← isExpired now session) else return false)

/-- Removes the expired sessions from memory; their files stay. -/
def clean : Act Sessions Unit := do
  let store ← get
  let live ← liftM (store.active.filterM fun entry => do return !(← isExpired store.now entry.2))
  set { store with active := live }

def idOf (n : Nat) : String := "00000000-0000-4000-8000-" ++ Moment.padded 12 n

/-- A new session of a player, unless there are too many. -/
def create (user : Value) : Act Sessions Fields := do
  clean
  let count := (← ofUser user).length
  if (← get).limit ≤ count then throw (.sessionLimit (← get).limit)
  modify fun s => { s with made := s.made + 1 }
  let id := Value.text (idOf (← get).made)
  let now ← stamp
  let session : Fields := [("session_id", id), ("user_id", user), ("start_time", now), ("last_activity", now),
    ("story_state", .empty), ("user_choices", .list []), ("status", .text "active")]
  put id (.record session)
  save id (.record session)
  return session

/-- Changes fields of a live session. What was changed before a fault stays changed in memory. -/
def update (id changes : Value) : Act Sessions Fields := do
  match ← get? id with
  | none => throw (.noSession id)
  | some session =>
    let (changed, fault?) := session.mergeFrom changes
    put id (.record changed)
    if let some fault := fault? then throw fault
    let changed := changed.set "last_activity" (← stamp)
    put id (.record changed)
    save id (.record changed)
    return changed

/-- Ends a live session: it is archived in its file and leaves memory. -/
def finish (id : Value) : Act Sessions Bool := do
  match ← get? id with
  | none => return false
  | some session =>
    let ended := (session.set "status" (.text "completed")).set "end_time" (← stamp)
    save id (.record ended)
    drop id
    return true

/-- The events of a live session. -/
def history (id : Value) : Act Sessions Value := do
  match ← get? id with
  | none => return .list []
  | some session => return (session.get? "user_choices").getD (.list [])

/-- An event with the time. -/
def timed : Value → Act Sessions Value
  | .record fields => do return .record (Fields.set "timestamp" (← stamp) fields)
  | .list _ => throw (.mismatch (.listIndex "str"))
  | other => throw (.mismatch (.noAssignment other.kind))

/-- Adds an event to a session that was found. -/
def enter (id : Value) (session : Fields) (event : Value) : Act Sessions Bool := do
  match ← liftM (Value.need session "user_choices") with
  | .list events =>
    let changed := session.set "user_choices" (.list (events ++ [event]))
    put id (.record changed)
    save id (.record changed)
    return true
  | other => throw (.missingMember other.kind "append")

/-- Adds an event, with the time, to a live session. -/
def record (id event : Value) : Act Sessions Bool := do
  match ← get? id with
  | none => return false
  | some session => enter id session (← timed event)

def forget : Act Sessions Unit := modify fun s => { s with active := [] }

def wait (seconds : Number) : Act Sessions Unit :=
  modify fun s => { s with now := s.now.plusMicros (Moment.microsOf seconds) }

def emptyTree : FileTree := (FileTree.makeDirectories? directory {}).getD {}

def start (now : Moment) : Sessions := { now, tree := emptyTree }

end Sessions
end Playhouse
