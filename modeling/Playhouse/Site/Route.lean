import Playhouse.Site.Address
import Playhouse.Fault

/-!
The routes of the site: which path and method lead where.
-/
namespace Playhouse.Site

inductive Method where
  | get | post
  deriving DecidableEq

def Method.name : Method → String
  | get => "GET"
  | post => "POST"

inductive Route where
  | index | register | login | logout | profile | updateProfile | createCharacter
  | character (id : Nat)
  | createTemplate | scenarios
  | generateStory (character scenario : Nat)
  | story (character scenario : Nat)
  | hunt (scenario : Nat)
  | submitTask (task : Nat)
  | asset (name : String)
  deriving DecidableEq

/-- A route as it is registered: its path, its name and its methods. -/
structure Rule where
  path : String
  endpoint : String
  methods : List Method
  deriving DecidableEq

namespace Route

def rule : Route → Rule
  | index => ⟨"/", "index", [.get]⟩
  | register => ⟨"/register", "register", [.get, .post]⟩
  | login => ⟨"/login", "login", [.get, .post]⟩
  | logout => ⟨"/logout", "logout", [.get]⟩
  | profile => ⟨"/profile", "profile", [.get]⟩
  | updateProfile => ⟨"/update_profile", "update_profile", [.post]⟩
  | createCharacter => ⟨"/create_character", "create_new_character", [.get, .post]⟩
  | character _ => ⟨"/character/<int:char_id>", "view_character", [.get]⟩
  | createTemplate => ⟨"/create_template", "create_template", [.get, .post]⟩
  | scenarios => ⟨"/view_scenario", "view_scenario", [.get]⟩
  | generateStory _ _ =>
    ⟨"/generate_story/<int:char_id>/<int:scenario_id>", "generate_story", [.get]⟩
  | story _ _ => ⟨"/view_story/<int:char_id>/<int:scenario_id>", "view_story", [.get]⟩
  | hunt _ => ⟨"/scavenger_hunt/<int:scenario_id>", "scavenger_hunt", [.get]⟩
  | submitTask _ => ⟨"/submit_task/<int:task_id>", "submit_task", [.post]⟩
  | asset _ => ⟨"/static/<path:filename>", "static", [.get]⟩

/-- The rules in the order in which they are registered. -/
def rules : List Rule :=
  [index, register, login, logout, profile, updateProfile, createCharacter, character 0,
    createTemplate, scenarios, generateStory 0 0, story 0 0, hunt 0, submitTask 0].map rule

/-- The rules that a site takes if it refuses one endpoint. -/
def registered (refused : String) : Except Fault (List Rule) :=
  if rules.any (·.endpoint == refused) then .error (.routeRefused refused) else .ok rules

/-- Whether only members may follow a route. -/
def isProtected : Route → Bool
  | index | register | login | asset _ => false
  | _ => true

/-- The numbers in the path of a route by their names. -/
def arguments : Route → List (String × Nat)
  | character id => [("char_id", id)]
  | generateStory c s | story c s => [("char_id", c), ("scenario_id", s)]
  | hunt s => [("scenario_id", s)]
  | submitTask t => [("task_id", t)]
  | _ => []

def path : Route → String
  | character id => "/character/" ++ toString id
  | generateStory c s => "/generate_story/" ++ toString c ++ "/" ++ toString s
  | story c s => "/view_story/" ++ toString c ++ "/" ++ toString s
  | hunt s => "/scavenger_hunt/" ++ toString s
  | submitTask t => "/submit_task/" ++ toString t
  | asset name => "/static/" ++ name
  | route => route.rule.path

/-- A number in a path: digits only. -/
def number? (part : String) : Option Nat := do
  if part == "" then none
  let digits ← part.toList.mapM Text.decimalDigit?
  return digits.foldl (fun n digit => 10 * n + digit) 0

def ofParts? (parts : List String) : Option Route := do
  match parts with
  | [""] => some index
  | ["register"] => some register
  | ["login"] => some login
  | ["logout"] => some logout
  | ["profile"] => some profile
  | ["update_profile"] => some updateProfile
  | ["create_character"] => some createCharacter
  | ["character", id] => return character (← number? id)
  | ["create_template"] => some createTemplate
  | ["view_scenario"] => some scenarios
  | ["generate_story", c, s] => return generateStory (← number? c) (← number? s)
  | ["view_story", c, s] => return story (← number? c) (← number? s)
  | ["scavenger_hunt", s] => return hunt (← number? s)
  | ["submit_task", t] => return submitTask (← number? t)
  | "static" :: first :: rest => if first == "" then none else some (asset (joinTexts "/" (first :: rest)))
  | _ => none

/-- The route of a path, which starts with a slash. -/
def ofPath? (path : String) : Option Route :=
  match splitText "/" path with
  | "" :: parts => ofParts? parts
  | _ => none

def assets : List String := ["css/custom.css", "js/main.js"]

end Route
end Playhouse.Site
