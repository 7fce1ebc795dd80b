import Playhouse.Character.History
import Playhouse.Character.Narrative
import Playhouse.Character.Traits

/-!
Casting: a new character from chance, the text services and the history of recent characters, or
from a template of options.
-/
namespace Playhouse
open Traits Chance

/-- What casting draws on and changes. -/
structure Casting where
  chance : Chance := {}
  muses : Muses := {}
  history : History := {}

namespace Casting

def withChance {α : Type} (act : Act Chance α) : Act Casting α :=
  act.on Casting.chance fun chance casting => { casting with chance }

def withMuses {α : Type} (act : Act Muses α) : Act Casting α :=
  act.on Casting.muses fun muses casting => { casting with muses }

/-- An option for a trait that the recent characters do not have, if one is left. -/
def fresh (options : List String) (key : String) : Act Casting Value := do
  withChance ((← get).history.fresh (.ofTexts options) (.text key))

/-- Gray eyes are rare; the other colours are chosen like any trait. -/
def eyeColor : Act Casting Value := do
  if (← withChance hundredths) < 8 then return .text "gray"
  fresh eyeColors "eye_color"

/-- A character before its narrative: the traits, then a costume. -/
def sketch : Act Casting Fields := do
  let name ← fresh names "name"
  let age ← withChance (between 18 65)
  let height ← fresh heights "height"
  let hair ← fresh hairColors "hair_color"
  let eyes ← eyeColor
  let style ← fresh styles "style_preference"
  let items ← fresh signatureItems "signature_items"
  let occupation ← fresh occupations "occupation"
  let communication ← fresh communicationStyles "communication_style"
  let handling ← fresh challengeHandling "challenge_handling"
  let hobbies ← fresh Traits.hobbies "hobbies"
  let habits ← fresh Traits.habits "quirks"
  let costume ← withChance (pick costumes)
  return [("name", name), ("age", .int age), ("height", height), ("hair_color", hair),
    ("eye_color", eyes), ("style_preference", style), ("signature_items", items),
    ("occupation", occupation), ("communication_style", communication),
    ("challenge_handling", handling), ("hobbies", hobbies), ("quirks", habits),
    ("costume", .text costume.main), ("accessories", .text costume.accessories),
    ("alternative_costumes", .text costume.alternatives)]

/-- How many times a character that is too similar is replaced. -/
def maxAttempts : Nat := 5

/-- A candidate: a sketch with its narrative. -/
def draft (visitor : Visitor) : Act Casting Fields := do
  withMuses (Narrative.enhance visitor (← sketch))

/-- Replaces a character by the next one while it is too similar to a recent one and attempts are
left. -/
def recast (next : Act Casting Fields) : Nat → Fields → Act Casting Fields
  | attempts, character => do
    if ← liftM ((← get).history.isSimilar (.record character) History.standardThreshold) then
      match attempts with
      | 0 => return character
      | left + 1 => recast next left (← next)
    else return character

/-- Casts a character and remembers it. A character too similar to a recent one is replaced by a
newly cast one, up to `maxAttempts` times; those castings do the same in turn, down to a depth. -/
def cast (visitor : Visitor) : Nat → Act Casting Fields
  | 0 => throw .tooDeep
  | depth + 1 => do
    let character ← recast (cast visitor depth) maxAttempts (← draft visitor)
    modify fun casting => { casting with history := casting.history.add (.record character) }
    return character

def maxDepth : Nat := 980

def generate (visitor : Visitor) : Act Casting Fields := cast visitor maxDepth

/-- One of the trimmed items of a comma-separated text, or one of the standard ones if the text is
blank. -/
def optionOf (template : Fields) (key : String) (standard : List String) : Act Casting Value := do
  let options := (template.get? key).getD .null
  if options.truthy then
    let text ← liftM (options.needText "strip")
    if !isBlankText text then
      return .text (← withChance (pick ((splitText "," text).map trimmed)))
  return .text (← withChance (pick standard))

/-- A character from a template; it is not remembered. -/
def fromTemplate (visitor : Visitor) (template : Fields) : Act Casting Fields := do
  let option := optionOf template
  let name ← withChance (pick names)
  let age ← withChance (between 18 65)
  let height ← option "height_options" heights
  let hair ← option "hair_color_options" hairColors
  let eyes ← eyeColor
  let style ← option "style_preference_options" styles
  let items ← option "signature_items_options" signatureItems
  let occupation ← option "occupation_options" occupations
  let communication ← option "communication_style_options" communicationStyles
  let handling ← option "challenge_handling_options" challengeHandling
  let hobbies ← option "hobbies_options" Traits.hobbies
  let habits ← option "quirks_options" Traits.habits
  let costume ← option "costume_options" (costumes.map (·.main))
  let accessories ← option "accessories_options" (costumes.map (·.accessories))
  let alternatives ← option "alternative_costumes_options" (costumes.map (·.alternatives))
  withMuses (Narrative.enhance visitor
    [("name", .text name), ("age", .int age), ("height", height), ("hair_color", hair),
      ("eye_color", eyes), ("style_preference", style), ("signature_items", items),
      ("occupation", occupation), ("communication_style", communication),
      ("challenge_handling", handling), ("hobbies", hobbies), ("quirks", habits),
      ("costume", costume), ("accessories", accessories), ("alternative_costumes", alternatives)])

def scenario : Act Casting Scenario := withChance (pick scenarios)

end Casting
end Playhouse
