import Playhouse.Json.Reader
import Playhouse.Template.Problem
import Playhouse.Time.Reading

/-!
How operations fail. A fault is a cause; its wording is `Fault.message`, and its family is what a
caller may guard against.
-/
namespace Playhouse

/-- An operation that does not fit the kind of its operands. -/
inductive Mismatch where
  | notIterable (kind : String)
  | notContainer (kind : String)
  | notPart (kind : String)
  | notIndexable (kind : String)
  | listIndex (kind : String)
  | textIndex (kind : String)
  | notKey (kind : String)
  | unordered (sign left right : String)
  | unsupported (sign left right : String)
  | repeatedBy (kind : String)
  | unknownColumn (column model : String)
  | noLength (kind : String)
  | integerNeeded
  | fileName (value : Value)
  | noDateText
  | mixedDates
  | notMapping (kind : String)
  | notPair (place : Nat)
  | noAssignment (kind : String)
  | notInteger (kind : String)
  | notUnpackable (kind : String)
  | numberNeeded (kind : String)

def Mismatch.message : Mismatch → String
  | notIterable kind => "'" ++ kind ++ "' object is not iterable"
  | notContainer kind => "argument of type '" ++ kind ++ "' is not iterable"
  | notPart kind => "'in <string>' requires string as left operand, not " ++ kind
  | notIndexable kind => "'" ++ kind ++ "' object is not subscriptable"
  | listIndex kind => "list indices must be integers or slices, not " ++ kind
  | textIndex kind => "string indices must be integers, not '" ++ kind ++ "'"
  | notKey kind => "unhashable type: '" ++ kind ++ "'"
  | unordered sign left right =>
    "'" ++ sign ++ "' not supported between instances of '" ++ left ++ "' and '" ++ right ++ "'"
  | unsupported sign left right =>
    "unsupported operand type(s) for " ++ sign ++ ": '" ++ left ++ "' and '" ++ right ++ "'"
  | repeatedBy kind => "can't multiply sequence by non-int of type '" ++ kind ++ "'"
  | unknownColumn column model => "'" ++ column ++ "' is an invalid keyword argument for " ++ model
  | noLength kind => "object of type '" ++ kind ++ "' has no len()"
  | integerNeeded => "an integer is required"
  | fileName value => "normalize() argument 2 must be str, not "
      ++ (match value with
        | .null => "None"
        | other => other.kind)
  | noDateText => "fromisoformat: argument must be str"
  | mixedDates => "can't subtract offset-naive and offset-aware datetimes"
  | notMapping kind => "str.format() argument after ** must be a mapping, not " ++ kind
  | notPair place =>
    "cannot convert dictionary update sequence element #" ++ toString place ++ " to a sequence"
  | noAssignment kind => "'" ++ kind ++ "' object does not support item assignment"
  | notInteger kind =>
    "int() argument must be a string, a bytes-like object or a real number, not '" ++ kind ++ "'"
  | notUnpackable kind => "cannot unpack non-iterable " ++ kind ++ " object"
  | numberNeeded kind => "%d format: a real number is required, not " ++ kind

/-- Why a database refuses a statement: a rule of the table, a missing table, or a value that the
column or the statement cannot hold. -/
inductive DatabaseProblem where
  | constraint | noTable | badValue | unbindable | tooLarge
  deriving DecidableEq

def DatabaseProblem.message : DatabaseProblem → String
  | constraint => "constraint failed"
  | noTable => "no such table"
  | badValue => "the column does not take this value"
  | unbindable => "the value cannot be stored"
  | tooLarge => "the number is too large"

inductive Fault where
  | missingKey (key : Value)
  | missingMember (kind name : String)
  | mismatch (why : Mismatch)
  | negativeLength
  | emptyChoice
  | divisionByZero
  | tooDeep
  | uploadFolder
  | notSaved (path : String)
  | storage (reason : String)
  | longName (path : String)
  | notFinite (isNumber : Bool)
  | hugeNumber
  | hugeQuotient
  | noStory
  | storyFailed (cause : Fault)
  | pastEnd
  | pastTextEnd
  | template (problem : Template.Problem)
  | date (problem : DateProblem)
  | document (problem : Json.Fault)
  | pairLength (place length : Nat)
  | noResponseType (value : Value)
  | unknownResponse (type : Value)
  | invalidChoice (choice : Value)
  | noChoice
  | wrongTurn (choice last : Value)
  | sessionLimit (limit : Int)
  | noSession (id : Value)
  | closed
  | noPlayer
  | integer (problem : IntegerProblem)
  | rateLimited
  | retriesExceeded
  | httpStatus (status : Int)
  | remote (reason : String)
  | brokenHeader
  | badPattern (reason : String)
  | noFile (path : String)
  | directoryThere (path : String)
  | fileThere (path : String)
  | noPage
  | denied
  | exit (code : Nat)
  | database (problem : DatabaseProblem)
  | tooFew (count : Nat)
  | tooMany
  | unrendered
  | routeRefused (endpoint : String)
  | noApplication

/-- What a caller may guard against. -/
inductive Fault.Family where
  | key | member | kind | value | range | arithmetic | depth | operation | storage | overflow
  | document | general | file | directory | taken | page | exit | constraint | table | statement | binding
  deriving DecidableEq

/-- What a mistake in a template counts as. -/
def Template.Problem.family : Template.Problem → Fault.Family
  | .noPosition _ | .pastTupleEnd => .range
  | .noLayout _ | .notApplicable _ | .notGeneric _ | .tupleKey => .kind
  | .noKindMember _ _ => .member
  | .notCharacter | .hugeCharacter | .hugeNumber => .overflow
  | _ => .value

namespace Fault

def family : Fault → Family
  | missingKey _ => .key
  | missingMember _ _ => .member
  | mismatch _ => .kind
  | negativeLength => .value
  | emptyChoice => .range
  | divisionByZero => .arithmetic
  | tooDeep => .depth
  | uploadFolder | notSaved _ => .operation
  | storage _ | longName _ => .storage
  | notFinite isNumber => if isNumber then .overflow else .value
  | hugeNumber | hugeQuotient => .overflow
  | noStory | storyFailed _ => .value
  | pastEnd | pastTextEnd => .range
  | template problem => problem.family
  | document problem =>
    match problem.problem with
    | .longInteger _ => .value
    | .tooDeep _ => .depth
    | _ => .document
  | date _ | pairLength _ _ | noResponseType _ | unknownResponse _ | invalidChoice _ | noChoice
  | wrongTurn _ _ | sessionLimit _ | noSession _ | closed | noPlayer
  | integer _ | brokenHeader => .value
  | rateLimited | retriesExceeded | httpStatus _ | remote _ | badPattern _ => .general
  | noFile _ => .file
  | directoryThere _ => .directory
  | fileThere _ => .taken
  | noPage | denied => .page
  | exit _ => .exit
  | database problem =>
    match problem with
    | .constraint => .constraint
    | .noTable => .table
    | .badValue => .statement
    | .unbindable => .binding
    | .tooLarge => .overflow
  | tooFew _ | tooMany => .value
  | unrendered | routeRefused _ | noApplication => .operation

def message : Fault → String
  | missingKey key => key.shown
  | missingMember kind name => "'" ++ kind ++ "' object has no attribute '" ++ name ++ "'"
  | mismatch why => why.message
  | negativeLength => "maxlen must be non-negative"
  | emptyChoice => "Cannot choose from an empty sequence"
  | divisionByZero => "division by zero"
  | tooDeep => "maximum recursion depth exceeded"
  | uploadFolder => "Failed to setup upload folder"
  | notSaved path => "Failed to save file: " ++ path
  | storage reason => reason
  | longName path => "[Errno 36] File name too long: " ++ quotedText path
  | notFinite isNumber =>
    if isNumber then "cannot convert float infinity to integer"
    else "cannot convert float NaN to integer"
  | hugeNumber => "int too large to convert to float"
  | hugeQuotient => "integer division result too large for a float"
  | noStory => "No suitable stories found for given preferences"
  | storyFailed cause => "Failed to generate story: " ++ cause.message
  | pastEnd => "list index out of range"
  | pastTextEnd => "string index out of range"
  | template problem => problem.message
  | date problem => problem.message
  | document problem => problem.message
  | pairLength place length => "dictionary update sequence element #" ++ toString place ++ " has length "
      ++ toString length ++ "; 2 is required"
  | noResponseType value => value.shown ++ " is not a valid ResponseType"
  | unknownResponse type => "Unknown response type: " ++ type.asText
  | invalidChoice choice => "Invalid choice: " ++ choice.asText
  | noChoice => "No choice provided for story continuation"
  | wrongTurn choice last => "Invalid choice: " ++ choice.asText ++ " after " ++ last.asText
  | sessionLimit limit => "User has reached maximum session limit of " ++ toString limit
  | noSession id => "Session " ++ id.asText ++ " not found or expired"
  | closed => "Engine is closed."
  | noPlayer => "Invalid session ID"
  | integer problem => problem.message
  | rateLimited => "Rate limit exceeded"
  | retriesExceeded => "Max retries exceeded"
  | httpStatus status => "HTTP " ++ toString status
  | remote reason | badPattern reason => reason
  | brokenHeader => "Header values must not contain newline characters."
  | noFile path => "[Errno 2] No such file or directory: " ++ quotedText path
  | directoryThere path => "[Errno 21] Is a directory: " ++ quotedText path
  | fileThere path => "[Errno 17] File exists: " ++ quotedText path
  | noPage => "404 Not Found: The requested URL was not found on the server. "
      ++ "If you entered the URL manually please check your spelling and try again."
  | denied => "the row belongs to someone else"
  | exit code => toString code
  | database problem => problem.message
  | tooFew count => "not enough values to unpack (expected 2, got " ++ toString count ++ ")"
  | tooMany => "too many values to unpack (expected 2)"
  | unrendered => "the page cannot be rendered"
  | routeRefused endpoint =>
    "Failed to register routes: Route registration failed for " ++ endpoint
  | noApplication => "No application found. Either work inside a view function or push an "
      ++ "application context. See http://flask-sqlalchemy.pocoo.org/contexts/."

def isDatabase (fault : Fault) : Bool :=
  match fault.family with
  | .constraint | .table | .statement | .binding => true
  | _ => false

end Fault

/-- A computation on a state that can fail. What it changed before failing stays changed. -/
abbrev Act (σ : Type) := ExceptT Fault (StateM σ)

namespace Act

/-- Runs an action from a state: its outcome and the state it leaves. -/
def runFrom {σ α : Type} (act : Act σ α) (state : σ) : Except Fault α × σ := act.run.run state

/-- The outcome of an action as a value, a fault included. -/
def outcome {σ α : Type} (act : Act σ α) : Act σ (Except Fault α) :=
  ExceptT.mk do return .ok (← act.run)

/-- An action on a part of a state. -/
def on {σ τ α : Type} (part : τ → σ) (put : σ → τ → τ) (act : Act σ α) : Act τ α := do
  let (result, changed) := act.runFrom (part (← get))
  modify (put changed)
  ExceptT.mk (pure result)

end Act

namespace Value

def need (fields : Fields) (key : Key) : Except Fault Value :=
  match fields.get? key with
  | some value => .ok value
  | none => .error (.missingKey key.value)

/-- A text, for an operation that only texts have. -/
def needText (operation : String) : Value → Except Fault String
  | text s => .ok s
  | value => .error (.missingMember value.kind operation)

/-- The characters or items of a value that can be gone through, in order; for a record its keys. -/
def elements : Value → Except Fault (List Value)
  | list items => .ok items
  | text s => .ok (s.toList.map fun c => .text (String.singleton c))
  | record fields => .ok (fields.map fun (key, _) => key.value)
  | value => .error (.mismatch (.notIterable value.kind))

end Value
end Playhouse
