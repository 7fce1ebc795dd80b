import Playhouse.Site.Visit

/-!
What each route does. Every view catches its own failures and answers with a notice.
-/
namespace Playhouse.Site

/-- The fields and uploads of a form, and the query of the address. -/
structure Posted where
  form : List (String × String) := []
  files : List (String × Photo.Upload) := []
  query : List (String × String) := []

/-- A field of a form without the blanks around it. -/
def Posted.trimmedField (posted : Posted) (name : String) : String :=
  trimmed ((posted.form.lookup name).getD "")

namespace Views
open Visit

def index : Act Visit Response := do
  let work : Act Visit Unit := do
    let templates ← match (← get).viewer with
      | some row => ask (·.rowsWith .template "user_id" (.int (rowId row)))
      | none => pure []
    display .index [("templates", .rows .template templates)]
  match ← work.outcome with
  | .ok () => return .page
  | .error _ =>
    display .failure [("error", .document (.text "Failed to load index page"))]
    return .page

/-- The page that follows a form which neither leads on nor is turned down. -/
def followUp (outcome : Except Fault Response) (failed : Fault → Act Visit Unit) (page : Page) :
    Act Visit Response := do
  match outcome with
  | .ok response => return response
  | .error fault =>
    failed fault
    display page []
    return .page

/-- Makes an account. Names have 3 to 80 characters; names and addresses are taken once. -/
def enrol (posted : Posted) : Act Visit Response := do
  let username := posted.trimmedField "username"
  let email := posted.trimmedField "email"
  let password := (posted.form.lookup "password").getD ""
  if username == "" || email == "" || password == "" then
    notify "error" "All fields are required"
    return .redirect .register
  if username.length < 3 || 80 < username.length then
    notify "error" "Username must be between 3 and 80 characters"
    return .redirect .register
  if !(← ask (·.rowsWith .user "username" (.text username))).isEmpty then
    notify "error" "Username already exists"
    return .redirect .register
  if !(← ask (·.rowsWith .user "email" (.text email))).isEmpty then
    notify "error" "Email already registered"
    return .redirect .register
  let _ ← onStore (Store.insert .user [("username", .text username), ("email", .text email),
    ("password_hash", sealed password)])
  notify "success" "Registration successful!"
  return .redirect .login

def register (method : Method) (posted : Posted) : Act Visit Response := do
  if method = .post then
    followUp (← (enrol posted).outcome) (fun fault =>
      if fault.isDatabase then notifyDatabase
      else notify "error" "Registration failed. Please try again.") .register
  else
    display .register []
    return .page

/-- Where a login is to lead: to the page asked for if it starts with a slash, else to the start page. -/
def nextPage (posted : Posted) : String :=
  match posted.query.lookup "next" with
  | some next => if startsWith "/" next then next else "/"
  | none => "/"

/-- Opens a session for an account, or nothing if the credentials are wrong. The session starts
anew: nothing of the old one is kept. -/
def signIn (posted : Posted) : Act Visit (Option Response) := do
  let email := posted.trimmedField "email"
  let password := (posted.form.lookup "password").getD ""
  if email == "" || password == "" then
    notify "error" "Email and password are required"
    return some (.redirect .login)
  let account := (← ask (·.rowsWith .user "email" (.text email))).head?
  if (account.map fun row => (cell row "password_hash").equal (sealed password)).getD false then
    onSession fun _ => [("_fresh", .bool true)]
    notify "success" "Login successful!"
    return some ⟨302, some (← liftM ((← get).host.located (nextPage posted)))⟩
  else
    notify "error" "Invalid email or password"
    return none

def login (method : Method) (posted : Posted) : Act Visit Response := do
  let response ← if method = .post then
      match ← (signIn posted).outcome with
      | .ok response => pure response
      | .error _ => do
        notify "error" "Login failed. Please try again."
        pure none
    else pure none
  match response with
  | some response => return response
  | none =>
    display .login []
    return .page

def logout : Act Visit Response := do
  onSession fun _ => []
  notify "info" "You have been logged out."
  return .redirect .index

/-- Work that ends in a notice and a redirection when it fails. -/
def orElse (work : Act Visit Response) (message : String) (route : Route) : Act Visit Response := do
  match ← work.outcome with
  | .ok response => return response
  | .error _ =>
    notify "error" message
    return .redirect route

/-- The same, with a notice of its own when the database refuses. -/
def orElseDatabase (work : Act Visit Response) (message : String) (route : Route) :
    Act Visit Response := do
  match ← work.outcome with
  | .ok response => return response
  | .error fault =>
    if fault.isDatabase then notifyDatabase else notify "error" message
    return .redirect route

def profile : Act Visit Response :=
  orElse (do display .profile []; return .page) "Failed to load profile." .index

/-- The content level that a form names. -/
def levelOf? : Option String → Option Int
  | some "1" => some 1
  | some "2" => some 2
  | some "3" => some 3
  | _ => none

def updateProfile (posted : Posted) : Act Visit Response :=
  orElseDatabase (do
    let gender := (posted.form.lookup "gender").getD ""
    if !(["male", "female", "other"].contains gender) then
      notify "error" "Invalid gender selection"
      return .redirect .profile
    let some level := levelOf? (posted.form.lookup "spiciness_level")
      | do notify "error" "Invalid spiciness level"; return .redirect .profile
    onStore (Store.update .user (rowId (← member))
      [("gender", .text gender), ("spiciness_level", .int level)])
    notify "success" "Profile updated successfully!"
    return .redirect .profile) "Failed to update profile." .profile

/-- A new character from the template that a form names, or from chance. -/
def castFor (posted : Posted) : Act Visit Fields := do
  let id := (posted.form.lookup "template_id").getD ""
  if id == "" then onCasting (Casting.generate (← visitor))
  else
    let template ← found (← ask (·.findWritten .template id))
    checkOwner template
    onCasting (Casting.fromTemplate (← visitor) template)

def createCharacter (posted : Posted) : Act Visit Response :=
  orElseDatabase (do
    let traits ← liftM (Model.character.row (← castFor posted))
    let id ← onStore (Store.insert .character
      (Fields.set "user_id" (.int (rowId (← member))) traits))
    return .redirect (.character id.toNat)) "Failed to create character." .index

/-- A character of the visitor's own. -/
def ownCharacter (id : Nat) : Act Visit Fields := do
  let character ← found (← ask (·.find .character id))
  checkOwner character
  return character

def character (id : Nat) : Act Visit Response :=
  orElse (do
    display .character [("character", .row .character (← ownCharacter id))]
    return .page) "Character not found." .index

def templateOptions : List String :=
  ["height_options", "hair_color_options", "eye_color_options", "style_preference_options",
    "occupation_options", "hobbies_options", "quirks_options"]

def addTemplate (posted : Posted) : Act Visit Response := do
  let name := posted.trimmedField "name"
  let description := posted.trimmedField "description"
  if name == "" || description == "" then
    notify "error" "Name and description are required"
    return .redirect .createTemplate
  let options := Fields.ofPairs (templateOptions.map fun key =>
    (key, ((posted.form.lookup key).map Value.text).getD .null))
  let _ ← onStore (Store.insert .template (Fields.update [("name", .text name),
    ("description", .text description), ("user_id", .int (rowId (← member)))] options))
  notify "success" "Template created successfully!"
  return .redirect .profile

def createTemplate (method : Method) (posted : Posted) : Act Visit Response := do
  if method = .post then
    followUp (← (addTemplate posted).outcome) (fun fault =>
      if fault.isDatabase then notifyDatabase
      else notify "error" "Failed to create template.") .newTemplate
  else
    display .newTemplate []
    return .page

def scenarios : Act Visit Response :=
  orElseDatabase (do
    let me : Value := .int (rowId (← member))
    let scenarios ← ask (·.rows .scenario)
    let completions ← ask (·.rowsWith .completion "user_id" me)
    let achievements ← ask (·.rowsWith .achievement "user_id" me)
    display .scenarios [("scenarios", .rows .scenario scenarios),
      ("completions", .rows .completion completions),
      ("achievements", .rows .achievement achievements)]
    return .page) "Failed to load scenarios." .index

def castAndScenario (characterId scenarioId : Nat) : Act Visit (Fields × Fields) := do
  let character ← found (← ask (·.find .character characterId))
  let scenario ← found (← ask (·.find .scenario scenarioId))
  checkOwner character
  return (character, scenario)

/-- Makes a story for a character in a scenario and puts it into the session. -/
def tellStory (character scenario : Fields) : Act Visit Value := do
  let who ← visitor
  let casting := (← get).host.casting
  let (scene, muses) := Scene.generate who character scenario casting.muses
  onHost fun host => { host with casting := { host.casting with muses } }
  onSession (Fields.set "current_story" scene.document)
  return scene.document

def generateStory (characterId scenarioId : Nat) : Act Visit Response :=
  orElse (do
    let (character, scenario) ← castAndScenario characterId scenarioId
    let _ ← tellStory character scenario
    return .redirect (.story characterId scenarioId)) "Failed to generate story." .scenarios

/-- Shows the story of the session; only if there is none, one is made. -/
def story (characterId scenarioId : Nat) : Act Visit Response :=
  orElse (do
    let (character, scenario) ← castAndScenario characterId scenarioId
    let kept := ((← get).host.session.get? "current_story").getD .null
    let story ← if kept.truthy then pure kept else tellStory character scenario
    display .story [("character", .row .character character), ("scenario", .row .scenario scenario),
      ("story", .document story)]
    return .page) "Failed to load story." .scenarios

/-- Whether a submission may stand before another: it is not older. One without a date comes last. -/
def isNewer (a b : Fields) : Bool :=
  match dateIn a "submitted_at", dateIn b "submitted_at" with
  | _, none => true
  | none, some _ => false
  | some m, some n => n ≤ m

/-- Gathers the visitor's submissions for each task, newest first. Leaving out the submissions of
others detaches them from their task. The next question to the database, if there is one, has to
write that down first, and a submission without a task is refused. -/
def gather (me : Int) : Bool → List Fields → Act Visit (List (Fields × List Fields))
  | _, [] => return []
  | detached, task :: rest => do
    if detached then throw (.database .constraint)
    let ofTask ← ask (·.rowsWith .submission "task_id" (.int (rowId task)))
    let own := ofTask.filter fun row => (cell row "user_id").equal (.int me)
    let others := ofTask.any fun row => !(cell row "user_id").equal (.int me)
    return (task, own.mergeSort isNewer) :: (← gather me others rest)

def hunt (scenarioId : Nat) : Act Visit Response :=
  orElse (do
    let scenario ← found (← ask (·.find .scenario scenarioId))
    let tasks ← ask (·.rowsWith .task "scenario_id" (.int scenarioId))
    let gathered ← gather (rowId (← member)) false tasks
    display .hunt [("scenario", .row .scenario scenario), ("tasks", .tasks gathered)]
    return .page) "Failed to load scavenger hunt." .scenarios

def huntOf (task : Fields) : Act Visit Response :=
  match Page.number? (some (cell task "scenario_id")) with
  | some n => return ⟨302, some ("/scavenger_hunt/" ++ toString n)⟩
  | none => throw (.integer (.noInteger (cell task "scenario_id").asText))

/-- Stores a photo, has it verified, and records the submission. -/
def record (task : Fields) (photo : Photo.Upload) : Act Visit Unit := do
  let host := (← get).host
  let path ← onTree (Photo.save host.now host.tag photo)
  let demand : Photo.Demand :=
    { objects := cell task "required_objects"
      confidence := cell task "object_confidence"
      pose := cell task "required_pose"
      place := cell task "required_location" }
  let (verdict, tree) := Photo.verify host.lens path demand (← get).host.tree
  onHost fun host => { host with tree }
  let _ ← onStore (Store.insert .submission [("task_id", .int (rowId task)),
    ("user_id", .int (rowId (← member))), ("photo_path", .text path),
    ("confidence_score", verdict.confidence), ("is_verified", .bool verdict.confirmed)])
  if verdict.confirmed then notify "success" "Task completed successfully!"
  else notify "warning" "Photo verification failed. Please try again."

/-- What follows once a photo was recorded or was not. Old photos are cleared out. After a statement that
the database refused the task cannot be read again, and the submission fails as a whole. -/
def conclude (task : Fields) (outcome : Except Fault Unit) : Act Visit Response := do
  if !outcome.isOk then notify "error" "Error processing photo submission. Please try again."
  onHost fun host => { host with tree := Photo.cleanUp host.now host.shelf host.tree }
  match outcome with
  | .ok () => huntOf task
  | .error fault => if fault.isDatabase then throw fault else huntOf task

/-- Takes a photo for a task. -/
def submit (taskId : Nat) (posted : Posted) : Act Visit Response :=
  orElse (do
    let task ← found (← ask (·.find .task taskId))
    let some photo := posted.files.lookup "photo"
      | do notify "error" "No photo uploaded"; huntOf task
    if !photo.filename.truthy then
      notify "error" "No photo selected"
      return ← huntOf task
    conclude task (← (record task photo).outcome)) "Failed to submit task." .scenarios

def follow (route : Route) (method : Method) (posted : Posted) : Act Visit Response :=
  match route with
  | .index => index
  | .register => register method posted
  | .login => login method posted
  | .logout => logout
  | .profile => profile
  | .updateProfile => updateProfile posted
  | .createCharacter => createCharacter posted
  | .character id => character id
  | .createTemplate => createTemplate method posted
  | .scenarios => scenarios
  | .generateStory c s => generateStory c s
  | .story c s => story c s
  | .hunt s => hunt s
  | .submitTask t => submit t posted
  | .asset name => if Route.assets.contains name then return .page else throw .noPage

end Views
end Playhouse.Site
