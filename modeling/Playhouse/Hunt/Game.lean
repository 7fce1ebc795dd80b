import Playhouse.Character.History

/-!
The scavenger-hunt game: each player has one quest at a time, a list of items by difficulty, and finds its items in
order. Whether a photo shows the wanted item is decided by a verifier, which may be missing.
-/
namespace Playhouse

structure Quest where
  title : String
  items : List String
  difficulty : Nat
  deriving DecidableEq

namespace Quest

def document (quest : Quest) : Value :=
  .record [("title", .text quest.title), ("items", .ofTexts quest.items),
    ("difficulty", .int quest.difficulty)]

def beginner : List Quest :=
  [⟨"Backyard Adventure", ["tree", "flower", "bird"], 1⟩,
    ⟨"Home Discovery", ["book", "chair", "window"], 1⟩]

def intermediate : List Quest := [⟨"Urban Explorer", ["building", "street sign", "bicycle"], 2⟩]

def advanced : List Quest :=
  [⟨"Nature Detective", ["specific tree species", "wildlife", "landscape feature"], 3⟩]

inductive Level where
  | beginner | intermediate | advanced
  deriving DecidableEq

def Level.name : Level → String
  | beginner => "beginner"
  | intermediate => "intermediate"
  | advanced => "advanced"

def Level.quests : Level → List Quest
  | beginner => Quest.beginner
  | intermediate => Quest.intermediate
  | advanced => Quest.advanced

/-- The level that fits a player: by age, and by experience. -/
def levelFor (preferences : Value) : Except Fault Level := do
  let experience ← preferences.lookup "experience_level" (.text "beginner")
  let age ← preferences.lookup "age" (.int 0)
  if (← age.less (.int 8)) || experience.equal (.text "beginner") then return .beginner
  if (← age.less (.int 12)) || experience.equal (.text "intermediate") then return .intermediate
  return .advanced

/-- The stories of a book under a key; a book is a record of lists. -/
def storiesOf (book : Value) (key : Value) : Except Fault Value := do
  let fields ← book.needRecord "get"
  if ← key.isKeyOf fields then
    match key with
    | .text s => return (fields.get? s).getD (.list [])
    | _ => return .list []
  else return .list []

def book : Value :=
  .record ([Level.beginner, .intermediate, .advanced].map fun level =>
    (level.name, .list (level.quests.map document)))

def chooseFrom (book preferences : Value) : Act Chance Value := do
  let stories ← liftM (do storiesOf book (.text (← levelFor preferences).name))
  if !stories.truthy then throw .noStory
  stories.pick

def storyFrom (book preferences : Value) : Act Chance Value := do
  match ← (chooseFrom book preferences).outcome with
  | .ok story => return story
  | .error cause => throw (.storyFailed cause)

def choose (preferences : Value) : Act Chance Quest := do
  match levelFor preferences with
  | .ok level => Chance.pick level.quests
  | .error cause => throw (.storyFailed cause)

def clueSentences (item : String) : List String :=
  [s!"Can you find something that looks like a {item}?",
    s!"Your next discovery should be a {item}!",
    s!"Look around for a {item} - it might be closer than you think!",
    s!"Time to search for a {item} in your surroundings."]

def clue (item : Value) : Act Chance String := Chance.pick (clueSentences item.asText)

def clues (story : Value) : Act Chance (List String) := do
  let items ← liftM (do (← story.entry "items").elements)
  items.mapM clue

end Quest

namespace Progress

def status (percentage : Value) : Except Fault String := do
  if percentage.equal (.int 0) then return "Just getting started! Ready for an adventure?"
  if ← percentage.less (.int 50) then return "You're making progress! Keep exploring!"
  if ← percentage.less (.int 99) then return "Almost there! Just a few more discoveries to make!"
  return "Congratulations! You've completed the adventure!"

def levelName (difficulty : Value) : String :=
  if difficulty.equal (.int 1) then "Beginner"
  else if difficulty.equal (.int 2) then "Intermediate"
  else if difficulty.equal (.int 3) then "Advanced"
  else "Unknown"

/-- Badges for reaching a quarter, a half, three quarters and all of a quest. -/
def badges (percentage difficulty : Value) : Except Fault (List String) := do
  let explorer ← percentage.atLeast 25
  let adventurer ← percentage.atLeast 50
  let discoverer ← percentage.atLeast 75
  return (if explorer then ["Explorer"] else []) ++ (if adventurer then ["Adventurer"] else [])
    ++ (if discoverer then ["Discoverer"] else [])
    ++ (if percentage.equal (.int 100) then ["Level " ++ difficulty.asText ++ " Master"] else [])

def achievements (percentage difficulty : Value) : Except Fault (List String) := do
  let complete := percentage.equal (.int 100)
  let expert := (← difficulty.atLeast 2) && complete
  let detective ← if ← difficulty.atLeast 3 then percentage.atLeast 75 else pure false
  return (if expert then ["Expert Explorer"] else []) ++ (if detective then ["Master Detective"] else [])
    ++ (if complete then ["Completed " ++ levelName difficulty ++ " Adventure"] else [])

/-- A hundred points for each degree of difficulty, in proportion to the progress, cut to a whole
number. -/
def points (percentage difficulty : Value) : Except Fault Int := do
  let base ← difficulty.times 100
  let part ← percentage.hundredth
  match base.number? with
  | none => throw (.mismatch (.repeatedBy "float"))
  | some n =>
    let product := (← Value.nearest n) * part
    match (Number.float product).truncate? with
    | some whole => return whole
    | none => throw (.notFinite !product.isNaN)

def rewards (percentage difficulty : Value) : Except Fault Value := do
  return .record [("points", .int (← points percentage difficulty)),
    ("badges", .ofTexts (← badges percentage difficulty)),
    ("achievements", .ofTexts (← achievements percentage difficulty))]

def report (story found : Value) : Except Fault Value := do
  let total ← (← story.entry "items").size
  let count ← found.size
  if total == 0 then throw .divisionByZero
  let percentage := Value.float (Float.ofNat count / Float.ofNat total * 100)
  let remaining ← (← (← story.entry "items").elements).filterM fun item => do return !(← item.isIn found)
  let status ← status percentage
  let rewards ← rewards percentage (← story.entry "difficulty")
  return .record [("total_items", .int total), ("found_items", .int count),
    ("progress_percentage", percentage), ("remaining_items", .list remaining),
    ("status", .text status), ("rewards", rewards)]

end Progress

/-- A player's quest and how far it has come. -/
structure GameSession where
  player : Value
  quest : Quest
  found : List String := []
  place : Nat := 0
  completed : Bool := false

structure Game where
  sessions : List GameSession := []
  verifier : Option (List Value) := none
  /-- The items that the verifier was asked for, in order. -/
  checked : List String := []
  chance : Chance := {}

namespace Game

def withChance {α : Type} (act : Act Chance α) : Act Game α :=
  act.on Game.chance fun chance game => { game with chance }

def session? (game : Game) (player : Value) : Option GameSession :=
  game.sessions.find? fun session => session.player.equal player

/-- Sets a player's session: in the place of the one they have, at the end otherwise. -/
def putSession (session : GameSession) : List GameSession → List GameSession
  | [] => [session]
  | s :: rest =>
    if s.player.equal session.player then { session with player := s.player } :: rest
    else s :: putSession session rest

def put (session : GameSession) (game : Game) : Game :=
  { game with sessions := putSession session game.sessions }

def refusal (message : String) : Value := .record [("status", .text "error"), ("message", .text message)]

def checkPlayer (player : Value) : Except Fault Unit :=
  if player.isKey then .ok () else .error (.mismatch (.notKey player.kind))

def begin (player preferences : Value) : Act Game Value := do
  let quest ← withChance (Quest.choose preferences)
  liftM (checkPlayer player)
  modify (put { player, quest })
  match ← withChance (Quest.clues quest.document) with
  | [] => throw .pastEnd
  | first :: _ =>
    return .record [("status", .text "success"), ("story_title", .text quest.title),
      ("first_clue", .text first), ("total_items", .int quest.items.length)]

/-- Starts a quest for a player. A failure is reported and not passed on. -/
def start (player preferences : Value) : Act Game Value := do
  match ← (begin player preferences).outcome with
  | .ok reply => return reply
  | .error cause => return refusal cause.message

/-- The verifier's next answer, whether a photo shows an item; one that has run out refuses. -/
def askVerifier (item : String) : Act Game Bool := do
  match (← get).verifier with
  | none => throw (.missingMember "StoryGenerator" "verify_item")
  | some answers =>
    modify fun game => { game with verifier := some answers.tail, checked := game.checked ++ [item] }
    return (answers.headD (.bool false)).truthy

def submit (player : Value) : Act Game Value := do
  liftM (checkPlayer player)
  match (← get).session? player with
  | none => return refusal "No active game session"
  | some session =>
    match session.quest.items[session.place]? with
    | none => throw .pastEnd
    | some item =>
      if !(← askVerifier item) then return refusal "Item not found"
      let found := session.found ++ [item]
      let place := session.place + 1
      if session.quest.items.length ≤ place then
        modify (put { session with found, place, completed := true })
        return .null
      modify (put { session with found, place })
      let clues ← withChance (Quest.clues session.quest.document)
      match clues[place]? with
      | none => throw .pastEnd
      | some next =>
        let progress ← liftM (Progress.report session.quest.document (.ofTexts found))
        return .record [("status", .text "success"), ("message", .text "Item found!"),
          ("next_clue", .text next), ("progress", progress)]

end Game

end Playhouse
