import Playhouse.Data.Entries
import Playhouse.Text.Case
import Playhouse.World.Muse

/-!
The four narrative texts of a character: childhood, family, goals and achievements. They are read
from the answer of a text service, section by section, or composed from the character's traits when
no service gives all four.
-/
namespace Playhouse

namespace Text

/-- A section on one line: ends trimmed, line breaks turned into blanks, then pairs of blanks
joined once from the left. -/
def tidy (text : List Char) : List Char :=
  replace [' ', ' '] [' '] (replace ['\n'] [' '] (trim text))

end Text

def tidied (text : String) : String := String.ofList (Text.tidy text.toList)

namespace Narrative

inductive Topic where
  | childhood | family | goals | achievements
  deriving DecidableEq

def Topic.all : List Topic := [.childhood, .family, .goals, .achievements]

def Topic.field : Topic → String
  | childhood => "childhood_story"
  | family => "family_relations"
  | goals => "life_goals"
  | achievements => "achievements"

/-- The topic of a section: the first whose words occur anywhere in it, in any case. -/
def topic? (section_ : List Char) : Option Topic :=
  let text := Text.lower section_
  if Text.occurs "childhood".toList text then some .childhood
  else if Text.occurs "family".toList text then some .family
  else if Text.occurs "life goals".toList text || Text.occurs "aspiration".toList text then some .goals
  else if Text.occurs "achievement".toList text then some .achievements
  else none

/-- The text of a section: what follows its first colon, or all of it. -/
def body (section_ : List Char) : List Char :=
  match Text.cut? [':'] section_ with
  | some (_, rest) => Text.tidy (Text.trim rest)
  | none => Text.tidy (Text.trim section_)

/-- Texts by topic, in the order in which the topics first came. -/
abbrev Texts := List (Topic × String)

def Texts.put (topic : Topic) (text : String) : Texts → Texts := Entries.put (· == topic) topic text

/-- The texts that an answer holds: it is cut at blank lines, and a later section replaces an earlier
one of its topic. -/
def ofSections (sections : List (List Char)) : Texts :=
  sections.foldl (fun texts section_ =>
    match topic? section_ with
    | some topic => Texts.put topic (String.ofList (body section_)) texts
    | none => texts) []

def ofAnswer (content : String) : Texts := ofSections (Text.split ['\n', '\n'] content.toList)

def Texts.fields (texts : Texts) : Fields := texts.map fun (topic, text) => (topic.field, .text text)

/-- The texts of an answer that is a document: only a text can be cut into sections. -/
def ofContent (content : Value) : Except Fault Texts := do
  return ofAnswer (← content.needText "split")

/-- All four topics are there. -/
def Texts.complete (texts : Texts) : Bool := 4 ≤ texts.length

/-- The instruction to the service for a content level. -/
def instruction (level : Value) : String :=
  if level.equal (.int 1) then
    "You are a creative character developer focusing on family-friendly content. "
      ++ "Keep all content suitable for all ages, avoiding any mature themes or references."
  else if level.equal (.int 2) then
    "You are a creative character developer focusing on light romantic content. "
      ++ "Include mild flirting and romantic themes, but keep it tasteful and appropriate. "
      ++ "Avoid explicit content or mature themes."
  else
    "You are a creative character developer focusing on mature romantic content. "
      ++ "Include romantic and spicy themes while maintaining good taste. "
      ++ "Keep the content suggestive rather than explicit, focusing on tension and chemistry."

def Topic.opening (name occupation : String) : Topic → String
  | goals => "As a dedicated " ++ occupation
  | _ => name

/-- How it goes on. -/
def Topic.account (name occupation hobbies : String) : Topic → String
  | childhood =>
    s!" grew up with a natural curiosity and passion for {hobbies}. "
      ++ s!"From an early age, they showed a keen interest in becoming a {occupation}, "
      ++ "spending countless hours practicing and learning."
  | family =>
    " comes from a supportive family that encouraged their interests. "
      ++ "They maintain close relationships with their parents and siblings, "
      ++ "often sharing their achievements and experiences with them."
  | goals =>
    s!", {name} aims to excel in their field "
      ++ s!"while pursuing their passion for {hobbies}. They hope to inspire "
      ++ "others and make a positive impact in their community."
  | achievements =>
    s!" has earned recognition for their work as a {occupation}. "
      ++ "Their dedication and unique approach have helped them overcome challenges "
      ++ "and reach important milestones in both their personal and professional life."

/-- What is said on a topic of someone of whom only name, occupation and hobbies are known. -/
def Topic.wording (name occupation hobbies : String) (topic : Topic) : String :=
  topic.opening name occupation ++ topic.account name occupation hobbies

/-- The texts on all topics, composed from name, occupation and hobbies alone. -/
def composed (name occupation hobbies : String) : Texts :=
  Topic.all.map fun topic => (topic, tidied (topic.wording name occupation hobbies))

/-- Adds texts composed from the character's name, occupation and hobbies. -/
def compose (character : Fields) : Except Fault Fields := do
  let name := (← Value.need character "name").asText
  let occupation := lowered (← (← Value.need character "occupation").needText "lower")
  let hobbies := (← Value.need character "hobbies").asText
  return character.update (composed name occupation hobbies).fields

def request (character : Fields) : Except Fault String := do
  let name := (← Value.need character "name").asText
  let age := (← Value.need character "age").asText
  let occupation := (← Value.need character "occupation").asText
  let height := (← Value.need character "height").asText
  let hair := (← Value.need character "hair_color").asText
  let eyes := (← Value.need character "eye_color").asText
  let style := (← Value.need character "style_preference").asText
  let communication := (← Value.need character "communication_style").asText
  let hobbies := (← Value.need character "hobbies").asText
  let habits := (← Value.need character "quirks").asText
  return "\n    Please enhance and expand these character details in a creative way according to the "
    ++ "specified content style:\n    \n"
    ++ s!"    Name: {name}\n    Age: {age}\n    Occupation: {occupation}\n    \n"
    ++ "    Current traits:\n"
    ++ s!"    - Appearance: {height}, {hair} hair, {eyes} eyes\n"
    ++ s!"    - Style: {style}\n"
    ++ s!"    - Personality: Communicates in a {communication} way\n"
    ++ s!"    - Hobbies: {hobbies}\n    - Quirks: {habits}\n    \n"
    ++ "    Please provide:\n"
    ++ "    1. A detailed childhood story\n"
    ++ "    2. Description of family relationships and background\n"
    ++ "    3. Current life goals and aspirations\n"
    ++ "    4. Notable achievements and experiences\n    \n"
    ++ "    Format each section with clear headers and proper spacing.\n    "

/-- The texts of an answer, if there is an answer and it holds all four. -/
def complete? (answer : Option Value) : Except Fault (Option Texts) :=
  match answer with
  | some content =>
    if content.truthy then do
      let texts ← ofContent content
      return if texts.complete then some texts else none
    else return none
  | none => return none

/-- Adds the four texts to a character: from the chat service if its answer has all four, else for
family-friendly content from the author service on the same condition, else composed. -/
def enhance (visitor : Visitor) (character : Fields) : Act Muses Fields := do
  let level := visitor.level
  let prompt ← liftM (request character)
  let (answer, muses) := (← get).askChat (instruction level) prompt 0.7
  set muses
  if let some texts ← liftM (complete? answer) then return character.update texts.fields
  if level.equal (.int 1) then
    let (answer, muses) := (← get).askAuthor prompt
    set muses
    if let some texts ← liftM (complete? answer) then return character.update texts.fields
  liftM (compose character)

end Narrative
end Playhouse
