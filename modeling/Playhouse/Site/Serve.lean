import Playhouse.Site.Views

/-!
Requests and their answers. A request is matched with a route, checked for its method, its token and
its login, and then answered by the view of the route. What escapes a view ends on the page for
failures; what escapes that page is the answer's fault, and then the session stays as it was.
-/
namespace Playhouse.Site

/-- Folders in which an absolute path may name a database file. -/
def knownFolders : List (List String) := [[], ["tmp"]]

/-- Whether the database of an address can be opened. -/
def opens (address : String) : Bool :=
  if address == "sqlite://" || address == "sqlite:///:memory:" then true
  else if startsWith "sqlite:////" address then
    let parts := (splitText "/" ((address.drop 11).toString)).filter (· != "")
    !parts.isEmpty && knownFolders.contains parts.dropLast
  else if startsWith "sqlite:///" address then
    !occursIn "/" ((address.drop 10).toString)
  else false

structure Request where
  method : Method
  /-- The path with its query. -/
  target : String
  form : List (String × String) := []
  files : List (String × Photo.Upload) := []
  /-- A token in the headers. -/
  token : Option String := none

/-- What a client gets, and what its session holds afterwards. -/
structure Answer where
  response : Response
  shown : List Rendering
  notices : Value
  account : Value
  /-- The story in the session, if it is another than after the request before. -/
  story : Option Value

namespace Serve
open Visit

/-- The path of a target, decoded, and its query. -/
def readTarget (target : String) : String × List Char :=
  let (address, _) := Address.cutAt '#' target.toList
  let (path, query) := Address.cutAt '?' address
  (String.ofList (Address.unquote path), query.getD [])

/-- A path with single slashes. -/
def merged (path : String) : String := "/" ++ joinTexts "/" (withoutInner (splitText "/" path).tail)
where
  /-- Leaves out the empty parts but the last. -/
  withoutInner : List String → List String
  | [] => []
  | [last] => [last]
  | part :: rest => if part == "" then withoutInner rest else part :: withoutInner rest

/-- The token of a request: that of its form, also under a longer name, or one in its headers. -/
def tokenOf? (request : Request) : Option String :=
  let filled (name : String) := (request.form.lookup name).filter (· ≠ "")
  (filled "csrf_token" <|> request.form.findSome? fun (name, _) =>
    if endsWith "csrf_token" name then filled name else none) <|> request.token.filter (· ≠ "")

/-- Why a form is not taken, if it is not: its token is missing, the session has none, it is not
genuine or no longer good, or it is that of another session. -/
def tokenProblem? (host : Host) (request : Request) : Option String :=
  match tokenOf? request, host.session.get? "csrf_token" with
  | none, _ => some "The CSRF token is missing."
  | some _, none => some "The CSRF session token is missing."
  | some token, some expected =>
    match host.tokenText token with
    | .error problem => some problem
    | .ok held => if held.equal expected then none else some "The CSRF tokens do not match."

/-- Why a request is turned down for its form. -/
def formProblem? (host : Host) (request : Request) : Option String :=
  if host.guarded && request.method = .post then tokenProblem? host request else none

/-- Sends a visitor to the login page, from where they come back. -/
def askToLogIn (route : Route) (path : String) (query : List Char) : Act Visit Response := do
  notify "message" "Please log in to access this page."
  let back := path ++ (if query.isEmpty then "" else "?" ++ String.ofList query)
  let pairs := route.arguments.map fun (name, n) => (name, toString n)
  let sorted := (pairs ++ [("next", back)]).mergeSort fun a b => a.1 ≤ b.1
  return ⟨302, some (Route.login.path ++ "?" ++ Address.query sorted)⟩

/-- Shows the page for failures with a reason. -/
def refuse (status : Nat) (reason : String) : Act Visit Response := do
  display .failure [("error", .document (.text reason))]
  return ⟨status, none⟩

def notFound : Act Visit Response := do
  present .notFound []
  return ⟨404, none⟩

/-- The answer to a request that reaches a route. -/
def reach (route : Route) (request : Request) (path : String) (query : List Char) :
    Act Visit Response := do
  let host := (← get).host
  if !route.rule.methods.contains request.method then
    refuse 405 "405 Method Not Allowed: The method is not allowed for the requested URL."
  else if let some problem := formProblem? host request then
    refuse 400 ("400 Bad Request: " ++ problem)
  else if route.isProtected && (← get).viewer.isNone then askToLogIn route path query
  else
    let pairs := (Address.queryPairs query).map fun (name, value) =>
      (String.ofList name, String.ofList value)
    let posted : Posted := { form := request.form, files := request.files, query := pairs }
    match ← (Views.follow route request.method posted).outcome with
    | .ok response => return response
    | .error .noPage => notFound
    | .error fault => throw fault

def dispatch (request : Request) : Act Visit Response := do
  let (path, query) := readTarget request.target
  match Route.ofPath? path with
  | some route => reach route request path query
  | none =>
    if merged path != path && (Route.ofPath? (merged path)).isSome then
      return ⟨308, some (merged path ++ (if query.isEmpty then "" else "?" ++ String.ofList query))⟩
    else notFound

/-- The answer to a request, with the page for failures as the last resort. -/
def respond (request : Request) : Act Visit Response := do
  match ← (dispatch request).outcome with
  | .ok response => return response
  | .error _ =>
    present .failure []
    return ⟨500, none⟩

end Serve

namespace Host

def start (host : Host) : Visit :=
  { host, viewer := account? host.store host.session }

def serve (request : Request) : Act Host Answer := do
  let before ← get
  let (outcome, visit) := (Serve.respond request).runFrom before.start
  match outcome with
  | .error fault =>
    set { visit.host with session := before.session }
    throw fault
  | .ok response =>
    let session := visit.host.session
    let story := (session.get? "current_story").getD .null
    set { visit.host with told := story }
    return {
      response
      shown := visit.shown
      notices := (session.get? "_flashes").getD (.list [])
      account := (session.get? "_user_id").getD .null
      story := if story.equal before.told then none else some story }

/-- Shows a page outside any session. -/
def showPage (name : String) (context : Context) : Act Host (List Rendering) := do
  let host ← get
  let (outcome, visit) := (Visit.displayNamed name context).runFrom { host := { host with session := [] } }
  match outcome with
  | .error fault => throw fault
  | .ok () => return visit.shown

/-- Starts the site once more: tables that are missing are made. -/
def restart : Act Host Unit := modify fun host => { host with store := host.store.complete }

/-- Adds a scenario with its task, both or none of them, and says whether it could. -/
def addExamples : Act Host Bool := do
  restart
  let work : Act Store Unit := Store.wholly do
    let scenario ← Store.insert .scenario [("title", .text "Office Adventure Hunt"),
      ("description", .text "Find and photograph these objects in your environment!"),
      ("setting", .text "Office or Home"), ("challenge", .text "Complete various photo tasks"),
      ("goal", .text "Complete all photo challenges"), ("points", .int 500)]
    let _ ← Store.insert .task [("scenario_id", .int scenario),
      ("description", .text "Find a workspace setup with both a computer and a coffee mug"),
      ("required_objects", .ofTexts ["laptop", "cup"]), ("object_confidence", .float 0.6),
      ("points", .int 100)]
  match ← (work.on Host.store fun store host => { host with store }).outcome with
  | .ok () => return true
  | .error _ => return false

/-- Tries the database of an address, the site's own if none is given. -/
def tryDatabase (address : Option String) : Act Host Bool := do
  match address with
  | some address => if opens address then return true else throw (.missingMember "NoneType" "app_context")
  | none => restart; return true

/-- Adding the tables of the hunt by hand always fails, after the site has been started. -/
def migrate : Act Host Unit := do
  restart
  throw .noApplication

def checkPassword (id : Int) (password : String) : Act Host Bool := do
  match ← liftM ((← get).store.find .user id) with
  | some row => return (cell row "password_hash").equal (sealed password)
  | none => throw (.missingMember "NoneType" "check_password")

end Host
end Playhouse.Site
