import Playhouse.Data.Access
import Playhouse.Site.Store

/-!
The pages of the site. A page is shown with a context; here it is said which pages there are, what
a page looks at in its context, and which contexts a page cannot be made from.
-/
namespace Playhouse.Site

/-- What a context holds under a name: a document, rows of a table, tasks with submissions, or
something of the framework's. -/
inductive Exhibit where
  | document (value : Value)
  | fixture
  | row (model : Model) (row : Fields)
  | rows (model : Model) (rows : List Fields)
  | tasks (tasks : List (Fields × List Fields))

abbrev Context := List (String × Exhibit)

namespace Exhibit

/-- How a row is reported: by its model and its number. -/
def reported (model : Model) (row : Fields) : Fields :=
  [("model", .text model.name), ("id", .int (rowId row))]

def report : Exhibit → Value
  | document value => value
  | fixture => .null
  | row model fields => .record (reported model fields)
  | rows model list => .list (list.map fun fields => .record (reported model fields))
  | tasks list => .list (list.map fun (task, submissions) => .record ((reported .task task).set
      "submissions" (.list (submissions.map fun row => .int (rowId row)))))

def view : Exhibit → Value
  | document value => value
  | fixture => .null
  | row _ fields => .record fields
  | rows _ list => .list (list.map .record)
  | tasks list => .list (list.map fun (task, submissions) =>
      .record (task.set "submissions" (.list (submissions.map .record))))

end Exhibit

namespace Context

/-- The names that every page shown by its name is given a value for. -/
def baseNames : List String :=
  ["get_flashed_messages", "url_for", "current_user", "config", "error_id", "error_path", "error_referrer",
    "timestamp"]

/-- A context without the names of the base. -/
def own (context : Context) : Context := context.filter fun (name, _) => !baseNames.contains name

/-- A context laid over the base: its values take the place of the base's. -/
def overBase (context : Context) : Context :=
  baseNames.map (fun name => (name, (context.lookup name).getD .fixture)) ++ context.own

/-- A call with some arguments by name and further ones from a context. No name may be given twice. -/
def called (named rest : Context) : Except Fault Context :=
  match rest.find? fun (name, _) => (named.lookup name).isSome with
  | some (name, _) => .error (.missingKey (.text name))
  | none => .ok (named ++ rest)

end Context

/-- Who looks at a page: the account and what belongs to it, as far as it can be found. -/
structure Viewer where
  row : Fields
  characters : Option (List Fields)
  templates : Option (List Fields)

inductive Page where
  | base | index | character | newTemplate | debug | hunt | scenarios | story
  | login | profile | register | forbidden | notFound | failure
  deriving DecidableEq

namespace Page

def all : List Page :=
  [.base, .index, .character, .newTemplate, .debug, .hunt, .scenarios, .story, .login, .profile,
    .register, .forbidden, .notFound, .failure]

def name : Page → String
  | base => "base.html"
  | index => "index.html"
  | character => "character.html"
  | newTemplate => "create_template.html"
  | debug => "debug.html"
  | hunt => "scavenger_hunt.html"
  | scenarios => "scenario.html"
  | story => "story.html"
  | login => "auth/login.html"
  | profile => "auth/profile.html"
  | register => "auth/register.html"
  | forbidden => "403.html"
  | notFound => "404.html"
  | failure => "500.html"

/-- The page of a name. Empty parts and single points of a name mean nothing. -/
def ofName? (text : String) : Option Page :=
  let plain := joinTexts "/" ((splitText "/" text).filter fun part => part != "" && part != ".")
  all.find? (·.name == plain)

/-- Whether a page holds a form with a token. -/
def hasToken : Page → Bool
  | index | login => true
  | _ => false

/-- What a page looks at: a value, or nothing where the context has none. -/
abbrev Seen := Option Value

/-- A member of something seen. Only what is there has members; a member that is missing is
nothing. -/
def member (seen : Seen) (key : String) : Option Seen := seen.map fun value => value.field? key

/-- The items of something seen; nothing has none. -/
def items (seen : Seen) : Option (List Value) :=
  match seen with
  | none => some []
  | some value => value.elements.toOption

def isTrue (seen : Seen) : Bool := (seen.map Value.truthy).getD false

def number? (seen : Seen) : Option Int :=
  match seen with
  | some (.text s) => readInteger? s
  | some value => value.number?.bind Number.truncate?
  | none => none

/-- Whether a share of a whole can be written as a percentage. -/
def percentage? (seen : Seen) : Option Unit :=
  match seen.bind Value.number? with
  | some (.int n) => if (Float.ofInt (n * 100)).isInf then none else some ()
  | some (.float _) => some ()
  | none => none

/-- A photo that is linked to needs a text as its path. -/
def link? (seen : Seen) : Option Unit :=
  if isTrue seen then (seen.bind Value.text?).map fun _ => () else some ()

def submission? (value : Value) : Option Unit := do
  if isTrue (value.field? "is_verified") then percentage? (value.field? "confidence_score")
  link? (value.field? "photo_path")

def task? (value : Value) : Option Unit := do
  let submissions := value.field? "submissions"
  if isTrue submissions then (← items submissions).forM submission?
  else let _ ← number? (value.field? "id")

def hunt? (look : String → Seen) : Option Unit := do
  let _ ← member (look "scenario") "title"
  if isTrue (look "tasks") then (← items (look "tasks")).forM task?

def consequence? (consequences : Seen) (choice : Value) : Option Unit :=
  match consequences with
  | none => some ()
  | some container => (choice.isIn container).toOption.map fun _ => ()

def story? (look : String → Seen) : Option Unit := do
  let _ ← member (look "scenario") "title"
  let consequences ← member (look "story") "consequences"
  (← items (← member (look "story") "choices")).forM (consequence? consequences)
  let _ ← number? (← member (look "character") "id")
  let _ ← number? (← member (look "scenario") "id")

/-- Each scenario is linked to, and so is the account's every character. -/
def scenarios? (look : String → Seen) (viewer : Option Viewer) : Option Unit := do
  if isTrue (look "scenarios") then
    (← items (look "scenarios")).forM fun scenario => do
      if let some viewer := viewer then let _ ← viewer.characters
      let _ ← number? (scenario.field? "id")

/-- The profile says since when the account has been there. -/
def profile? (viewer : Option Viewer) : Option Unit := do
  let viewer ← viewer
  let _ ← dateIn viewer.row "created_at"
  let _ ← viewer.characters
  let _ ← viewer.templates

/-- Whether the content of a page can be made from a context for a viewer. -/
def content? (page : Page) (look : String → Seen) (viewer : Option Viewer) : Option Unit :=
  match page with
  | index => if isTrue (look "templates") then (items (look "templates")).map fun _ => () else some ()
  | character => (look "character").map fun _ => ()
  | hunt => hunt? look
  | story => story? look
  | scenarios => scenarios? look viewer
  | profile => profile? viewer
  | _ => some ()

end Page

/-- A notice has to be a pair with a category that can be looked up. -/
def checkNotice (notice : Value) : Except Fault Unit := do
  match notice.elements with
  | .error _ => throw (.mismatch (.notUnpackable notice.kind))
  | .ok [category, _] =>
    if category.isKey then return () else throw (.mismatch (.notKey category.kind))
  | .ok items => if items.length < 2 then throw (.tooFew items.length) else throw .tooMany

/-- The waiting notices as a page goes through them. -/
def checkNotices (notices : Value) : Except Fault Unit := do
  if notices.truthy then (← notices.elements).forM checkNotice

end Playhouse.Site
