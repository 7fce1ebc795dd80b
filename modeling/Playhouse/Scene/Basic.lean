import Playhouse.Data.Entries
import Playhouse.Text.Case
import Playhouse.World.Muse

/-!
Scenes: an introduction, a challenge, choices and what each choice leads to. A scene is read from
the answer of the chat service or put together from a character and a scenario.
-/
namespace Playhouse

structure Scene where
  introduction : Value
  challenge : Value
  choices : List String
  consequences : List (String × String)

namespace Scene

def document (scene : Scene) : Value :=
  .record [("introduction", scene.introduction), ("challenge", scene.challenge),
    ("choices", .ofTexts scene.choices),
    ("consequences", .record (scene.consequences.map fun (choice, text) => (choice, .text text)))]

def empty : Scene := ⟨.text "", .text "", [], []⟩

/-- Where reading stands: before the introduction, before the first choice, or at the choices. -/
inductive Place where
  | introduction | challenge | choices
  deriving DecidableEq

/-- The text after the last colon of a part, or all of it. -/
def tail (part : List Char) : String :=
  match Text.cutLast? ':' part with
  | some (_, rest) => String.ofList (Text.trim rest)
  | none => String.ofList (Text.trim part)

def mentions (words : List String) (part : List Char) : Bool :=
  let text := Text.lower part
  words.any fun word => Text.occurs word.toList text

def isChoice (part : List Char) : Bool := mentions ["choice", "option"] part

def isConsequence (part : List Char) : Bool := mentions ["consequence", "outcome"] part

def putConsequence (choice text : String) : List (String × String) → List (String × String) :=
  Entries.put (· == choice) choice text

/-- Takes one trimmed, non-empty part into the scene. -/
def readPart (state : Scene × Place) (part : List Char) : Scene × Place :=
  let (scene, place) := state
  if isChoice part then ({ scene with choices := scene.choices ++ [tail part] }, .choices)
  else if isConsequence part then
    match scene.choices.getLast? with
    | some choice =>
      ({ scene with consequences := putConsequence choice (tail part) scene.consequences }, place)
    | none => (scene, place)
  else match place with
    | .introduction => ({ scene with introduction := .text (String.ofList part) }, .challenge)
    | .challenge => ({ scene with challenge := .text (String.ofList part) }, .challenge)
    | .choices => (scene, place)

/-- The parts of a content: the non-blank pieces between blank lines, trimmed. -/
def parts (content : List Char) : List (List Char) :=
  ((Text.split ['\n', '\n'] content).map Text.trim).filter (· ≠ [])

def ofText (content : List Char) : Scene :=
  ((parts content).foldl readPart (empty, .introduction)).1

/-- The scene that a content holds; what is no text is an introduction as it stands. -/
def ofContent (content : Value) : Scene :=
  match content with
  | .text s => ofText s.toList
  | other => { empty with introduction := other }

/-- The instruction to the service for a content level. -/
def instruction (level : Value) : String :=
  if level.equal (.int 1) then
    "You are creating family-friendly role-playing content. "
      ++ "Keep all content suitable for all ages, avoiding any mature themes or references."
  else if level.equal (.int 2) then
    "You are creating mild romantic role-playing content. "
      ++ "Include light flirting and romantic themes, but keep it tasteful and appropriate. "
      ++ "Avoid explicit content or mature themes."
  else
    "You are creating spicy romantic role-playing content. "
      ++ "Include romantic and spicy themes while maintaining good taste. "
      ++ "Keep the content suggestive rather than explicit, focusing on tension and chemistry."

/-- A column of a row as text; a column without a value is nothing. -/
def column (row : Fields) (name : String) : Value := (row.get? name).getD .null

/-- The request for a scene with a character in a scenario. -/
def request (character scenario : Fields) : String :=
  let name := (column character "name").asText
  let age := (column character "age").asText
  let occupation := (column character "occupation").asText
  let communication := (column character "communication_style").asText
  let childhood := (column character "childhood_story").asText
  let title := (column scenario "title").asText
  let setting := (column scenario "setting").asText
  let challenge := (column scenario "challenge").asText
  let goal := (column scenario "goal").asText
  "Create an engaging story scene for a role-playing scenario with the following details:\n\n"
    ++ s!"Character:\n- Name: {name}\n- Age: {age}\n- Occupation: {occupation}\n"
    ++ s!"- Personality: {communication}\n- Background: {childhood}\n\n"
    ++ s!"Scenario:\n- Title: {title}\n- Setting: {setting}\n- Challenge: {challenge}\n- Goal: {goal}\n\n"
    ++ "Create a dynamic scene that:\n"
    ++ "1. Introduces the character in the setting\n"
    ++ "2. Presents the challenge in an engaging way\n"
    ++ "3. Provides 2-3 possible choices/actions for the character\n"
    ++ "4. Describes potential consequences for each choice\n\n"
    ++ "Keep the tone appropriate for the character's personality and background.\n"
    ++ "Make the scene interactive and engaging, focusing on character development and meaningful "
    ++ "choices.\n"

/-- The scene for when no service helps. -/
def compose (character scenario : Fields) : Scene :=
  let name := (column character "name").asText
  let age := (column character "age").asText
  let occupation := (column character "occupation").asText
  let communication := (column character "communication_style").asText
  let setting := (column scenario "setting").asText
  let consequences := [
    ("Face the challenge head-on",
      "A direct approach might lead to immediate results but could be risky."),
    ("Look for an alternative solution",
      "Taking time to find another way might be safer but could take longer."),
    ("Seek help from others",
      "Working with others could provide more resources but might complicate the situation.")]
  { introduction := .text (
      s!"{name}, a {age}-year-old {occupation}, finds themselves in {setting}. "
        ++ s!"With their {communication} nature, they approach the situation cautiously.")
    challenge := column scenario "challenge"
    choices := consequences.map (·.1)
    consequences }

/-- A scene from the chat service, or the composed one when it has no answer. -/
def generate (visitor : Visitor) (character scenario : Fields) (muses : Muses) : Scene × Muses :=
  match muses.askChat (instruction visitor.level) (request character scenario) 0.8 with
  | (some content, muses) => (ofContent content, muses)
  | (none, muses) => (compose character scenario, muses)

end Scene
end Playhouse
