import Playhouse.Template.Basic
import Playhouse.World.Chance

/-!
Branching tales. A tale opens with an introduction; each choice then leads to a segment with a text
made from a template and choices of its own. Which choices may follow which one is laid down by the
flow, a second table.
-/
namespace Playhouse

/-- Something that a player can choose. -/
structure Choice where
  id : String
  text : String
  deriving DecidableEq

def Choice.document (choice : Choice) : Value := .record [("id", .text choice.id), ("text", .text choice.text)]

def Choice.documents (choices : List Choice) : Value := .list (choices.map Choice.document)

namespace Tale

/-- The prompts of a tale: the template of its introduction and that of its conflict. -/
structure Prompts where
  intro : Value
  conflict : Value

/-- A template with the options of each of its fields. -/
def templateOf (text : String) (options : List (String × List String)) : Value :=
  .record [("template", .text text),
    ("variables", .record (options.map fun (key, texts) => (key, .ofTexts texts)))]

/-- The prompts used when there is no prompt file. -/
def builtIn : Prompts where
  intro := templateOf "You find yourself in \x7bsetting\x7d. \x7binitial_situation\x7d"
    [("setting", ["a mysterious forest", "an ancient temple", "a futuristic city"]),
     ("initial_situation", ["The air is thick with anticipation.", "Something feels different today.",
      "You sense an adventure beginning."])]
  conflict := templateOf "Suddenly, \x7bevent\x7d occurs. You must \x7baction\x7d."
    [("event", ["a strange noise", "an unexpected visitor", "a mysterious light"]),
     ("action", ["investigate carefully", "make a quick decision", "prepare for danger"])]

def shipped : Prompts where
  intro := templateOf "You find yourself in \x7bsetting\x7d. \x7binitial_situation\x7d"
    [("setting", ["a mysterious forest shrouded in mist", "an ancient temple with glowing runes",
      "a futuristic city with floating buildings", "a medieval tavern filled with strange patrons",
      "a desert oasis under twin moons"]),
     ("initial_situation", ["The air crackles with magical energy.",
      "Something about this place feels different from anything you've experienced.",
      "Your instincts tell you that adventure awaits.", "An unusual silence hangs in the air.",
      "A sense of destiny fills your thoughts."])]
  conflict := templateOf "Suddenly, \x7bevent\x7d occurs. You must \x7baction\x7d."
    [("event", ["a burst of ethereal light", "a mysterious figure emerges from the shadows",
      "an ancient mechanism springs to life", "a portal tears open in the fabric of reality",
      "a cryptic message appears before you"]),
     ("action", ["decide how to respond to this unexpected development",
      "choose between fight or flight", "determine who can be trusted",
      "solve this mystery before time runs out", "find a way to protect what matters most"])]

/-- The prompts of a prompt file's content; without a file the built-in ones. -/
def Prompts.load : Option Value → Except Fault Prompts
  | none => .ok builtIn
  | some file => do return { intro := ← file.entry "intro", conflict := ← file.entry "conflict" }

/-! ### The two tables -/

def openingChoices : List Choice :=
  [⟨"investigate", "Investigate further"⟩, ⟨"retreat", "Retreat carefully"⟩,
   ⟨"explore", "Explore the surroundings"⟩]

/-- What a choice leads to: a template and the choices offered after it. -/
structure Consequence where
  template : Value
  choices : List Choice

def consequences (prompts : Prompts) : List (String × Consequence) := [
  ("start", ⟨prompts.intro, openingChoices⟩),
  ("investigate", ⟨prompts.conflict,
    [⟨"fight", "Stand and fight"⟩, ⟨"hide", "Find a hiding spot"⟩, ⟨"run", "Run away quickly"⟩]⟩),
  ("retreat", ⟨templateOf "You carefully back away. \x7bconsequence\x7d" [("consequence",
      ["The mystery remains unsolved.", "You hear distant sounds fading.",
       "Safety comes at the cost of adventure."])],
    [⟨"return", "Return cautiously"⟩, ⟨"leave", "Leave the area"⟩, ⟨"observe", "Observe from afar"⟩]⟩),
  ("explore", ⟨templateOf "You decide to explore the area. \x7bdiscovery\x7d" [("discovery",
      ["You stumble upon a hidden cave.", "You find a strange artifact on the ground.",
       "You notice footprints leading deeper into the forest."])],
    [⟨"enter_cave", "Enter the cave"⟩, ⟨"examine_artifact", "Examine the artifact"⟩,
     ⟨"follow_footprints", "Follow the footprints"⟩]⟩),
  ("wait", ⟨templateOf "You decide to wait. \x7bevent\x7d" [("event",
      ["Nothing happens for a while.", "You hear distant sounds approaching.",
       "A feeling of unease settles in."])],
    [⟨"investigate", "Investigate the sound"⟩, ⟨"retreat", "Retreat to a safer place"⟩,
     ⟨"stand_guard", "Stand guard and stay alert"⟩]⟩),
  ("run", ⟨templateOf "You run as fast as you can. \x7boutcome\x7d" [("outcome",
      ["You escape safely.", "You stumble but regain your footing.",
       "You run into another challenge."])],
    [⟨"rest", "Take a moment to rest"⟩, ⟨"continue_running", "Keep running"⟩,
     ⟨"hide", "Find a place to hide"⟩]⟩),
  ("hide", ⟨templateOf "You find a hiding spot. \x7bevent\x7d" [("event",
      ["You wait until it's safe.", "You overhear something interesting.",
       "You realize you're not alone."])],
    [⟨"emerge", "Emerge from hiding"⟩, ⟨"stay_hidden", "Stay hidden longer"⟩,
     ⟨"move_stealthily", "Move stealthily"⟩]⟩)]

def flow : List (String × List Choice) := [
  ("start", openingChoices),
  ("investigate",
    [⟨"continue", "Continue investigating"⟩, ⟨"hide", "Find a hiding spot"⟩, ⟨"run", "Run away quickly"⟩]),
  ("hide",
    [⟨"wait", "Wait and observe"⟩, ⟨"emerge", "Emerge from hiding"⟩, ⟨"move_stealthily", "Move stealthily"⟩]),
  ("continue",
    [⟨"wait", "Wait and observe"⟩, ⟨"proceed", "Proceed carefully"⟩, ⟨"retreat", "Retreat"⟩])]

/-- What a newcomer can do. -/
def initialChoices : List Choice :=
  [⟨"explore", "Explore the surroundings"⟩, ⟨"talk", "Talk to someone nearby"⟩, ⟨"wait", "Wait and observe"⟩]

/-- The entry of a table under a key of any kind. -/
def inTable {α : Type} (table : List (String × α)) (key : Value) : Except Fault (Option α) :=
  match key with
  | .text s => .ok (table.lookup s)
  | other => if other.isKey then .ok none else .error (.mismatch (.notKey other.kind))

/-- The choices that may follow the last one made. -/
def choicesAfter (last : Value) : Except Fault (List Choice) := do
  return (← inTable flow last).getD []

/-! ### Telling -/

/-- A text from a template: each field gets one of its options, in order. -/
def compose (source : Value) : Act Chance String := do
  let template ← liftM (source.entry "template")
  let blanks ← liftM (source.entry "variables")
  let fields ← liftM (blanks.needRecord "items")
  let filled ← fields.mapM fun (key, options) => do return (key, ← options.pick)
  let text ← liftM (template.needText "format")
  liftM (Template.fill text filled)

end Tale

/-- A tale being told: its prompts, the segment it has reached, and the chance that shapes it. -/
structure Tale where
  prompts : Tale.Prompts
  current : Value := .null
  chance : Chance := {}

namespace Tale

/-- A segment: where the tale stands, its text, and what can be chosen. -/
def segment (node : Value) (text : String) (choices : List Choice) : Value :=
  .record [("current_node", node), ("story_text", .text text), ("choices", Choice.documents choices)]

def composing (source : Value) : Act Tale String :=
  (compose source).on (·.chance) fun chance tale => { tale with chance }

def moveTo (node : Value) (text : String) (choices : List Choice) : Act Tale Value := do
  let reached := segment node text choices
  modify fun tale => { tale with current := reached }
  return reached

def advance (choice : Value) : Act Tale Value := do
  match ← liftM (inTable (consequences (← get).prompts) choice) with
  | none => throw (.invalidChoice choice)
  | some consequence => moveTo choice (← composing consequence.template) consequence.choices

/-- The next segment: the introduction at first, and afterwards what the context's choice leads to. -/
def next (context : Value) : Act Tale Value := do
  if !(← get).current.truthy then
    moveTo (.text "intro") (← composing (← get).prompts.intro) openingChoices
  else
    let choice ← liftM (context.lookup "choice" .null)
    if choice.truthy then advance choice else throw .noChoice

/-- The next segment, or a note of why there is none. -/
def tell (context : Value) : Act Tale Value := do
  match ← (next context).outcome with
  | .ok reached => return reached
  | .error fault =>
    return .record [("error", .text ("Failed to generate story segment: " ++ fault.message)), ("choices", .list [])]

def node (tale : Tale) : Value := (tale.current.field? "current_node").getD .null

end Tale
end Playhouse
