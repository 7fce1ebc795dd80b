import Playhouse.Character.Casting
import Playhouse.Photo.Upload
import Playhouse.Photo.Verification
import Playhouse.Scene.Basic
import Playhouse.Site.Page
import Playhouse.Site.Route

/-!
A visit: one request on its way through the site. The host is what stays between visits; a visit
adds who is looking, the notices it has taken out of the session, and the pages shown so far.
-/
namespace Playhouse.Site

/-- The running site with the session of its one client. -/
structure Host where
  store : Store := .fresh
  casting : Casting := {}
  lens : Photo.Lens := {}
  tree : FileTree := {}
  now : Moment
  /-- The tag in the names of stored photos. -/
  tag : String
  /-- The number that error notices refer to. -/
  reference : String
  /-- Whether forms need a token. -/
  guarded : Bool := false
  /-- What a token holds, or why it is not taken. -/
  tokenText : String → Except String Value := fun _ => .error "The CSRF token is invalid."
  /-- How the address is written that a client is sent to, if it can be. -/
  located : String → Except Fault String := Address.located
  /-- What the file system tells of the upload folder when old photos are cleared out. -/
  shelf : Photo.Shelf := {}
  session : Fields := []
  /-- The story in the session after the last answered request. -/
  told : Value := .null

/-- A page that was asked for, also if it then could not be made. -/
structure Rendering where
  page : Page
  viewer : Option Int
  context : Context

structure Visit where
  host : Host
  viewer : Option Fields := none
  /-- The notices taken out of the session, or nothing. -/
  taken : Value := .null
  shown : List Rendering := []

structure Response where
  status : Nat
  location : Option String := none
  deriving DecidableEq

def Response.page : Response := ⟨200, none⟩

def Response.redirect (route : Route) : Response := ⟨302, some route.path⟩

/-- The number that a session gives for its account. -/
def accountNumber? : Value → Option Int
  | .text s => readInteger? s
  | value => value.number?.bind Number.truncate?

/-- The account that a session is logged in to. -/
def account? (store : Store) (session : Fields) : Option Fields := do
  let id ← accountNumber? (← session.get? "_user_id")
  (store.find .user id).toOption.join

namespace Visit

def onHost (change : Host → Host) : Act Visit Unit := modify fun v => { v with host := change v.host }

def onSession (change : Fields → Fields) : Act Visit Unit :=
  onHost fun host => { host with session := change host.session }

def onStore {α : Type} (work : Act Store α) : Act Visit α :=
  work.on (fun v => v.host.store) fun store v => { v with host := { v.host with store } }

def onCasting {α : Type} (work : Act Casting α) : Act Visit α :=
  work.on (fun v => v.host.casting) fun casting v => { v with host := { v.host with casting } }

def onTree {α : Type} (work : Act FileTree α) : Act Visit α :=
  work.on (fun v => v.host.tree) fun tree v => { v with host := { v.host with tree } }

def ask {α : Type} (question : Store → Except Fault α) : Act Visit α := do
  liftM (question (← get).host.store)

/-- A row that has to be there. -/
def found (row : Option Fields) : Act Visit Fields :=
  match row with
  | some row => return row
  | none => throw .noPage

/-- The account of the visitor; those that are not logged in have none. -/
def member : Act Visit Fields := do
  match (← get).viewer with
  | some row => return row
  | none => throw .denied

/-- Refuses a row that belongs to another account. -/
def checkOwner (row : Fields) : Act Visit Unit := do
  if !(cell row "user_id").equal (.int (rowId (← member))) then throw .denied

/-- Who texts are written for. -/
def visitor : Act Visit Visitor := do
  match (← get).viewer with
  | some row => return .member (row.get? "spiciness_level")
  | none => return .anonymous

def notify (category message : String) : Act Visit Unit := do
  match ((← get).host.session.get? "_flashes").getD (.list []) with
  | .list notices =>
    onSession fun session =>
      session.set "_flashes" (.list (notices ++ [.list [.text category, .text message]]))
  | other => throw (.missingMember other.kind "append")

/-- The notice that the database has refused something. -/
def notifyDatabase : Act Visit Unit := do
  notify "error" ("An error occurred. Reference ID: " ++ (← get).host.reference)

/-- Takes the notices out of the session. Notices once taken are kept for the rest of the visit. -/
def takeNotices : Act Visit Value := do
  match (← get).taken with
  | .null =>
    let notices := ((← get).host.session.get? "_flashes").getD (.list [])
    modify fun v => { v with taken := notices }
    onSession (Fields.erase "_flashes")
    return notices
  | notices => return notices

/-- What the pages see of the visitor. -/
def lookingOn (v : Visit) : Option Viewer :=
  v.viewer.map fun row =>
    { row
      characters := (v.host.store.rowsWith .character "user_id" (.int (rowId row))).toOption
      templates := (v.host.store.rowsWith .template "user_id" (.int (rowId row))).toOption }

/-- Shows a page: first the waiting notices, then its content. -/
def present (page : Page) (context : Context) : Act Visit Unit := do
  modify fun v => { v with shown := v.shown ++ [⟨page, v.viewer.map rowId, context⟩] }
  liftM (checkNotices (← takeNotices))
  let look (name : String) : Page.Seen := (context.lookup name).map Exhibit.view
  match page.content? look (lookingOn (← get)) with
  | none => throw .unrendered
  | some () =>
    if page.hasToken then
      onSession fun session =>
        if session.contains "csrf_token" then session else session.set "csrf_token" (.text "")

/-- Shows a page by its name with a context laid over the base, the page for failures if there is none
of that name. When that goes wrong the page for failures is to be shown, with a number for the error. -/
def displayNamed (name : String) (context : Context) : Act Visit Unit := do
  let all := context.overBase
  let work : Act Visit Unit := do
    match Page.ofName? name with
    | some page => present page all.own
    | none =>
      let all ← liftM (Context.called [("error_message", .document (.text "Template not found"))] all)
      present .failure all.own
  match ← work.outcome with
  | .ok () => return ()
  | .error fault =>
    let all ← liftM (Context.called [("error_id", .document (.text (← get).host.reference)),
      ("error_message", .document (.text fault.message))] all)
    present .failure all.own

def display (page : Page) (context : Context) : Act Visit Unit := displayNamed page.name context

end Visit
end Playhouse.Site
