import Playhouse.Template.Basic

/-!
Responses to a player. A response has a type, a content filled from the template of that type, and
the time; it may carry metadata. Templates come from a file, and those that the file lacks from the
standard ones. A response that cannot be filled becomes an error response that says why.
-/
namespace Playhouse

inductive ResponseType where
  | success | error | story | choice | system | prompt
  deriving DecidableEq

namespace ResponseType

def all : List ResponseType := [success, error, story, choice, system, prompt]

def word : ResponseType → String
  | success => "success"
  | error => "error"
  | story => "story"
  | choice => "choice"
  | system => "system"
  | prompt => "prompt"

def label : ResponseType → String
  | success => "SUCCESS"
  | error => "ERROR"
  | story => "STORY"
  | choice => "CHOICE"
  | system => "SYSTEM"
  | prompt => "PROMPT"

def ofLabel? (text : String) : Option ResponseType := all.find? fun type => type.label == text

def ofValue (value : Value) : Except Fault ResponseType :=
  match all.find? fun type => value.equal (.text type.word) with
  | some type => .ok type
  | none => .error (.noResponseType value)

/-- The template of a type when the file has none. -/
def standard : ResponseType → String
  | success => "\x7bmessage\x7d"
  | error => "An error occurred: \x7bmessage\x7d"
  | story => "\x7bcontent\x7d\n\nChoices:\n\x7bchoices\x7d"
  | choice => "You chose: \x7bchoice\x7d"
  | system => "System: \x7bmessage\x7d"
  | prompt => "What would you like to do?\n\x7boptions\x7d"

end ResponseType

def Responder.standards : Fields := ResponseType.all.map fun type => (type.word, .text type.standard)

/-- A responder: the templates as its file gives them, and those it falls back on. -/
structure Responder where
  templates : Value
  fallbacks : Fields := Responder.standards
  /-- How a template is filled with named data. -/
  fill : String → Fields → Except Fault String := Template.fill
  /-- How many answers deep an answer may go; where calls become too many depends on who asks. -/
  depth : Nat := 490

namespace Responder

/-- The templates of a file's content, or else those to fall back on, if they are set by then. -/
def loadTemplates (fallbacks? : Option Fields) : Option Value → Except Fault Value
  | some templates => .ok templates
  | none =>
    match fallbacks? with
    | some fallbacks => .ok (.record fallbacks)
    | none => .error (.missingMember "ResponseHandler" "fallback_templates")

/-- The responder of a template file's content: its templates are loaded first, and those to fall back on are
set after that. -/
def load (file : Option Value) : Except Fault Responder := do
  let templates ← loadTemplates none file
  return { templates, fallbacks := standards }

/-- The value under a key that may be of any kind. -/
def valueUnder (fields : Fields) (key : Value) : Except Fault Value :=
  match key.key? with
  | some key => .ok ((fields.get? key).getD .null)
  | none => .error (.mismatch (.notKey key.kind))

/-- The template of a response type: the file's, or else the one to fall back on. -/
def template (responder : Responder) (type : Value) : Except Fault Value := do
  let given ← responder.templates.needRecord "get"
  let standard ← valueUnder responder.fallbacks type
  let found := (type.key?.bind given.get?).getD standard
  if found.truthy then return found else throw (.unknownResponse type)

/-- The content of a response: its template filled with named data. -/
def content (responder : Responder) (template data : Value) : Except Fault String := do
  let text ← template.needText "format"
  match data with
  | .record fields => responder.fill text fields
  | other => throw (.mismatch (.notMapping other.kind))

/-- Why a response could not be filled, as the error response says it. -/
def explanation (fault : Fault) : String :=
  if fault.family == .key then "Missing required data field: " ++ fault.message
  else "Error formatting response: " ++ fault.message

/-- A response with its time, and metadata if there is any. When the template cannot be filled the
answer is an error response, which is tried in the same way. -/
def respondWithin (responder : Responder) (now : Moment) : Nat → Value → Value → Value → Except Fault Fields
  | 0, _, _, _ => .error .tooDeep
  | fuel + 1, type, data, metadata => do
    let template ← responder.template type
    match responder.content template data with
    | .ok text =>
      let response : Fields := [("type", type), ("content", .text text), ("timestamp", .text now.iso)]
      return if metadata.truthy then response.set "metadata" metadata else response
    | .error fault =>
      respondWithin responder now fuel (.text ResponseType.error.word)
        (.record [("message", .text (explanation fault))]) .null

def respond (responder : Responder) (now : Moment) (type data metadata : Value) : Except Fault Fields :=
  responder.respondWithin now responder.depth type data metadata

def respondAs (responder : Responder) (now : Moment) (type : ResponseType) (data : Fields)
    (metadata : Value) : Except Fault Fields :=
  responder.respond now (.text type.word) (.record data) metadata

/-- Adds a field if its value says something. -/
def withField (key : String) (value : Value) (fields : Fields) : Fields :=
  if value.truthy then fields.set key value else fields

def error (responder : Responder) (now : Moment) (message details : Value) : Except Fault Fields := do
  return withField "error_details" details
    (← responder.respondAs now .error [("message", message)] .null)

def success (responder : Responder) (now : Moment) (message data : Value) : Except Fault Fields := do
  return withField "data" data (← responder.respondAs now .success [("message", message)] .null)

def system (responder : Responder) (now : Moment) (message level : Value) : Except Fault Fields :=
  responder.respondAs now .system [("message", message)] (.record [("level", level)])

/-- A piece of story with its choices numbered from one. -/
def story (responder : Responder) (now : Moment) (content choices : Value) : Except Fault Fields := do
  let items ← choices.elements
  let texts ← items.mapM fun choice => choice.entry "text"
  let ids ← items.mapM fun choice => choice.lookup "id" .null
  let lines := texts.mapIdx fun place text => toString (place + 1) ++ ". " ++ text.asText
  responder.respondAs now .story [("content", content), ("choices", .text (joinTexts "\n" lines))]
    (.record [("choice_count", .int items.length), ("choice_ids", .list ids)])

/-- A question with its options, one on a line. -/
def prompt (responder : Responder) (now : Moment) (text options context : Value) : Except Fault Fields := do
  let lines := (← options.elements).map fun option => "- " ++ option.asText
  responder.respondAs now .prompt [("options", .text (joinTexts "\n" lines))]
    (.record [("prompt_text", text), ("context", context)])

end Responder

namespace Response

/-- Whether a value has all that a response needs. -/
def isValid (response : Value) : Except Fault Bool := do
  let present ← ["type", "content", "timestamp"].mapM fun key => (Value.text key).isIn response
  return present.all id

/-- A response with more metadata, and what becomes of the response itself: metadata that it has is
extended in place. -/
def enrich (response extra : Value) : Except Fault (Value × Value) := do
  match response with
  | .record fields =>
    let old ← ((Fields.get? fields "metadata").getD .empty).needRecord "update"
    let changed := Value.record (← old.merge extra)
    let enriched := Value.record (Fields.set "metadata" changed fields)
    return (enriched, if Fields.contains fields "metadata" then enriched else response)
  | .list _ => throw (.mismatch (.listIndex "str"))
  | other => throw (.missingMember other.kind "copy")

end Response
end Playhouse
