import Playhouse.Response.Basic
import Playhouse.Session.Store
import Playhouse.Tale.Basic

/-!
The role-play engine: it opens a session for a player, checks each choice against the flow of the
tale, and moves the one tale that all players share. It holds the newest session of each player; the
session store has the same session as long as it keeps it in memory.
-/
namespace Playhouse

structure Engine where
  held : List (Value × Fields) := []
  store : Sessions
  tale : Tale
  isOpen : Bool := true

namespace Engine

/-- An engine over its two files; the templates have to be there. -/
def start (now : Moment) (chance : Chance) (templates : Except Fault (Option Value))
    (prompts : Except Fault Tale.Prompts) : Except Fault Engine := do
  let _ ← Responder.load (← templates)
  return { store := Sessions.start now, tale := { prompts := ← prompts, chance } }

def find? (engine : Engine) (user : Value) : Option Fields :=
  (engine.held.find? fun entry => entry.1.equal user).map (·.2)

def holdIn (user : Value) (session : Fields) : List (Value × Fields) → List (Value × Fields) :=
  Entries.put (·.equal user) user session

def hold (user : Value) (session : Fields) : Act Engine Unit := do
  if !user.isKey then throw (.mismatch (.notKey user.kind))
  modify fun e => { e with held := holdIn user session e.held }

def id (session : Fields) : Value := (session.get? "session_id").getD .null

/-- Changes a held session, and the store's copy of it if the store still has one. -/
def change (user : Value) (session : Fields) : Act Engine Unit := do
  modify fun e => { e with
    held := holdIn user session e.held
    store := if (e.store.find? (id session)).isSome then
      { e.store with active := Sessions.putIn (id session) (.record session) e.store.active } else e.store }

def onStore {α : Type} (act : Act Sessions α) : Act Engine α := act.on (·.store) fun store e => { e with store }

def onTale {α : Type} (act : Act Tale α) : Act Engine α := act.on (·.tale) fun tale e => { e with tale }

/-- Opens a session for a player and tells the tale's next segment. -/
def open_ (user : Value) : Act Engine Fields := do
  let session ← onStore (Sessions.create user)
  hold user session
  let segment ← onTale (Tale.tell (.record [("choice", .text "start")]))
  return [("status", .text "success"), ("message", .text "Session started"), ("metadata", .record session),
    ("content", (segment.field? "story_text").getD (.text "")),
    ("choices", (segment.field? "choices").getD (.list []))]

def sessionOf (user : Value) : Act Engine Fields := do
  if !user.isKey then throw (.mismatch (.notKey user.kind))
  match (← get).find? user with
  | some session => return session
  | none => throw .noPlayer

def choicesOf (session : Fields) : List Value :=
  match session.get? "user_choices" with
  | some (.list choices) => choices
  | _ => []

def storyOf (session : Fields) : String := ((session.get? "story_text").bind Value.text?).getD ""

/-- Follows a player's choice. A session without choices first gets the start as its first one. -/
def choose (user choice : Value) : Act Engine Fields := do
  if !(← get).isOpen then throw .closed
  let session ← sessionOf user
  let made := if (choicesOf session).isEmpty then [.text "start"] else choicesOf session
  let session := session.set "user_choices" (.list made)
  change user session
  let last := made.getLastD .null
  let valid ← liftM (Tale.choicesAfter last)
  if !valid.any fun option => choice.equal (.text option.id) then throw (.wrongTurn choice last)
  let segment ← onTale (Tale.tell (.record [("choice", choice)]))
  let text := ((segment.field? "story_text").bind Value.text?).getD "No story text available"
  let session := (session.set "story_text" (.text (storyOf session ++ "\n" ++ text))).set "user_choices"
    (.list (made ++ [choice]))
  change user (session.set "last_activity" (.text (← get).store.now.iso))
  return [("status", .text "success"), ("content", .text text),
    ("choices", (segment.field? "choices").getD (.list []))]

/-- What a free text means; the same for every text. -/
def analyze (user : Value) : Act Engine Fields := do
  let _ ← sessionOf user
  return [("status", .text "success"),
    ("analysis", .record [("intent", .text "explore"), ("keywords", .ofTexts ["explore", "cave"]),
      ("sentiment", .text "neutral")]),
    ("response", .text "I understand you want to explore the cave. That sounds interesting!")]

def close : Act Engine Unit := modify fun e => { e with held := [], isOpen := false }

end Engine

/-- An assistant opens sessions and tells the tale without a choice. -/
structure Assistant where
  store : Sessions
  tale : Tale

namespace Assistant

def start (now : Moment) (chance : Chance) (templates : Except Fault (Option Value))
    (prompts : Except Fault Tale.Prompts) : Except Fault Assistant := do
  let prompts ← prompts
  let _ ← Responder.load (← templates)
  return { store := Sessions.start now, tale := { prompts, chance } }

def open_ (user : Value) : Act Assistant Fields := do
  let session ← (Sessions.create user).on (·.store) fun store a => { a with store }
  let segment ← (Tale.tell .empty).on (·.tale) fun tale a => { a with tale }
  return [("session_id", .record session), ("story", segment)]

end Assistant

namespace Engine

/-- What opening a session for a sample player reports, and the fault that the demonstration ends in:
the player's next choice is made under the session's id, which is no player, and an engine has no
shutdown. -/
def demonstrate (engine : Engine) : String × Fault :=
  let report := match ((open_ (.text "user123")).runFrom engine).1 with
    | .ok opened => "Session Started: " ++ (Value.record opened).shown ++ "\n"
    | .error _ => ""
  (report, .missingMember "RolePlayEngine" "shutdown")

end Engine
end Playhouse
