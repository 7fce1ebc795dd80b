import Playhouse.Fault

/-!
The tables of the site and what their columns keep of a value. Numbers in texts become numbers in a column of numbers,
numbers become texts in a column of texts, and what a column cannot hold is refused.
-/
namespace Playhouse.Site

/-- What a column holds. A password is kept sealed; a document is kept as it is. -/
inductive Kind where
  | integer | text | real | flag | document | secret | date
  deriving DecidableEq

/-- A column with its rules: whether it needs a value, whether two rows may share one, what stands in
for a missing one, or whether that is the time, and the declared length of its texts. -/
structure Column where
  name : String
  kind : Kind := .text
  required : Bool := false
  unique : Bool := false
  standard : Value := .null
  stamped : Bool := false
  most : Option Nat := none

inductive Model where
  | user | character | template | scenario | achievement | completion | task | submission
  deriving DecidableEq

namespace Model

def all : List Model :=
  [.user, .character, .template, .scenario, .achievement, .completion, .task, .submission]

def name : Model → String
  | user => "User"
  | character => "Character"
  | template => "CharacterTemplate"
  | scenario => "Scenario"
  | achievement => "Achievement"
  | completion => "ScenarioCompletion"
  | task => "ScavengerHuntTask"
  | submission => "TaskSubmission"

def ofName? (text : String) : Option Model := all.find? (·.name == text)

private def texts (names : List String) (most : Option Nat := none) : List Column :=
  names.map fun name => { name, most }

private def integer (name : String) : Column := { name, kind := .integer }

private def required (name : String) (kind : Kind) (most : Option Nat := none) : Column :=
  { name, kind, required := true, most }

private def counting (name : String) (standard : Int) : Column :=
  { name, kind := .integer, standard := .int standard }

private def date (name : String) (stamped : Bool := false) : Column := { name, kind := .date, stamped }

def columns : Model → List Column
  | user =>
    [{ name := "username", required := true, unique := true, most := some 80 },
      { name := "email", required := true, unique := true, most := some 120 },
      required "password_hash" .secret (some 256), { name := "gender", most := some 10 },
      counting "spiciness_level" 1, date "created_at" true]
  | character =>
    [required "name" .text (some 100), required "age" .integer]
      ++ texts ["height", "hair_color", "eye_color"] (some 50) ++ texts ["style_preference"] (some 100)
      ++ texts ["signature_items"] (some 200)
      ++ texts ["childhood_story", "family_relations", "life_goals", "achievements"]
      ++ [required "occupation" .text (some 100)]
      ++ texts ["communication_style", "challenge_handling", "hobbies", "quirks"] (some 200)
      ++ texts ["costume", "accessories", "alternative_costumes"] ++ texts ["session_id"] (some 100)
      ++ [integer "template_id", integer "user_id"]
  | template =>
    required "name" .text (some 100) ::
      texts ["description", "height_options", "hair_color_options", "eye_color_options",
        "style_preference_options", "signature_items_options", "childhood_story_templates",
        "family_relations_templates", "life_goals_templates", "achievements_templates",
        "occupation_options", "communication_style_options", "challenge_handling_options",
        "hobbies_options", "quirks_options", "costume_options", "accessories_options",
        "alternative_costumes_options"] ++ texts ["session_id"] (some 100)
      ++ [integer "user_id"]
  | scenario =>
    [required "title" .text (some 200), required "description" .text]
      ++ texts ["setting", "challenge", "goal"] (some 200) ++ [counting "points" 100]
  | achievement =>
    [required "name" .text (some 100), required "description" .text] ++ texts ["icon"] (some 100)
      ++ [counting "points_required" 0, counting "scenarios_required" 0]
      ++ texts ["session_id"] (some 100) ++ [date "unlocked_at", integer "user_id"]
  | completion =>
    [required "scenario_id" .integer, required "session_id" .text (some 100), date "completed_at" true,
      counting "points_earned" 0, integer "character_id", integer "user_id"]
  | task =>
    [required "scenario_id" .integer, required "description" .text,
      required "required_objects" .document]
      ++ texts ["required_pose"] (some 100) ++ texts ["required_location"] (some 200)
      ++ [{ name := "object_confidence", kind := .real, standard := .float 0.7 },
        counting "points" 50, integer "time_limit", date "start_time", date "end_time",
        date "created_at" true]
  | submission =>
    [required "task_id" .integer, required "user_id" .integer, required "photo_path" .text (some 255),
      { name := "confidence_score", kind := .real },
      { name := "is_verified", kind := .flag, standard := .bool false },
      date "submitted_at" true, date "verified_at",
      { name := "location_data", kind := .document }, { name := "pose_data", kind := .document }]

/-- The names under which a model's rows reach other rows. -/
def relations : Model → List String
  | user => ["characters", "templates"]
  | character => ["user", "template", "completed_scenarios"]
  | template => ["user", "characters"]
  | scenario => ["tasks", "completions"]
  | achievement => []
  | completion => ["scenario", "character"]
  | task => ["scenario", "submissions"]
  | submission => ["task"]

/-- Every name that a new row may give a value for. -/
def names (model : Model) : List String :=
  "id" :: model.columns.map (·.name) ++ model.relations

/-- The values of a new row; every name has to be one of the model's. -/
def row (model : Model) (values : Fields) : Except Fault Fields :=
  match values.find? fun (key, _) => !model.names.any fun name => key == .text name with
  | some (key, _) => .error (.mismatch (.unknownColumn key.value.asText model.name))
  | none => .ok values

end Model

/-- A number written in a text: its digits, the power of ten they are scaled by, and whether it is
written as a whole number. -/
structure Numeral where
  negative : Bool
  digits : Nat
  power : Int
  whole : Bool
  deriving DecidableEq

namespace Numeral

def isGap (c : Char) : Bool := c == ' ' || (9 ≤ c.toNat && c.toNat ≤ 13)

def isDigit (c : Char) : Bool := 48 ≤ c.toNat && c.toNat ≤ 57

/-- The largest size of an exponent; greater ones are cut to it. -/
def maxPower : Nat := 400

def exponent? : List Char → Option Int
  | [] => some 0
  | mark :: rest =>
    if mark == 'e' || mark == 'E' then
      let (negative, digits) := match rest with
        | '-' :: digits => (true, digits)
        | '+' :: digits => (false, digits)
        | digits => (false, digits)
      if digits.isEmpty || !digits.all isDigit then none
      else
        let size := min (Json.readNat digits) maxPower
        some (if negative then -(size : Int) else size)
    else none

def unsigned? (negative : Bool) (text : List Char) : Option Numeral := do
  let (whole, rest) := text.span isDigit
  let (places, rest, hasPoint) := match rest with
    | '.' :: rest => ((rest.span isDigit).1, (rest.span isDigit).2, true)
    | rest => ([], rest, false)
  if whole.isEmpty && places.isEmpty then none
  let power ← exponent? rest
  return ⟨negative, Json.readNat (whole ++ places), power - places.length, !hasPoint && rest.isEmpty⟩

/-- The number that a text writes, with blanks around it or without. -/
def ofText? (text : String) : Option Numeral :=
  let inner := ((text.toList.dropWhile isGap).reverse.dropWhile isGap).reverse
  match inner with
  | '-' :: rest => unsigned? true rest
  | '+' :: rest => unsigned? false rest
  | rest => unsigned? false rest

/-- The whole number that a numeral is, if it is one of a moderate size. -/
def integer? (n : Numeral) : Option Int :=
  let sign (size : Nat) : Int := if n.negative then -size else size
  if 0 ≤ n.power then if n.power ≤ 20 then some (sign (n.digits * tenTo n.power.toNat)) else none
  else
    let unit := tenTo (-n.power).toNat
    if n.digits % unit == 0 then some (sign (n.digits / unit)) else none

def float (n : Numeral) : Float := Json.decimal n.negative n.digits n.power

end Numeral

def fits (n : Int) : Bool := -9223372036854775808 ≤ n && n < 9223372036854775808

namespace Kind

/-- A number in a column of whole numbers: kept whole where it is. -/
def wholeOf (x : Float) : Value :=
  match (Number.float x).truncate? with
  | some n => if Number.equal (.int n) (.float x) && fits n then .int n else .float x
  | none => .float x

/-- What is refused before a table is looked at: dates as texts, and flags that are neither true nor
false. -/
def admits (kind : Kind) (value : Value) : Bool :=
  match kind, value with
  | _, .null => true
  | .date, _ => false
  | .flag, value =>
    match value.number? with
    | some x => x.equal (.int 0) || x.equal (.int 1)
    | none => false
  | _, _ => true

/-- What a column of a kind keeps of a value. -/
def store (kind : Kind) (value : Value) : Except DatabaseProblem Value :=
  match kind, value with
  | .document, value | .secret, value => .ok value
  | _, .null => .ok .null
  | _, .list _ | _, .record _ => .error .unbindable
  | .flag, value => .ok (.bool value.truthy)
  | .integer, .bool b => .ok (.int (if b then 1 else 0))
  | .integer, .int n => if fits n then .ok (.int n) else .error .tooLarge
  | .integer, .float x => .ok (wholeOf x)
  | .integer, .text s =>
    match Numeral.ofText? s with
    | none => .ok (.text s)
    | some n =>
      match n.integer? with
      | some k => .ok (if fits k then .int k else .float n.float)
      | none => .ok (.float n.float)
  | .real, .text s => .ok (((Numeral.ofText? s).map fun n => Value.float n.float).getD (.text s))
  | .real, value => .ok ((value.number?.map fun x => Value.float x.toFloat).getD value)
  | .text, .bool b => .ok (.text (if b then "1" else "0"))
  | .text, .int n => if fits n then .ok (.text (toString n)) else .error .tooLarge
  | .text, value => .ok (.text value.asText)
  | .date, value => .ok value

end Kind
end Playhouse.Site
