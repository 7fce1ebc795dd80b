import Playhouse.Data.Access
import Playhouse.Json.Writer
import Playhouse.World.FileTree

/-!
Feedback on texts: thumbs up is 1 and thumbs down is -1. It can be counted, sorted into training
data, and handed to a fine-tuning service.
-/
namespace Playhouse.Feedback

def thumbsUp : Value := .int 1

def thumbsDown : Value := .int (-1)

/-- How often each mark was given, in order of its first occurrence. -/
abbrev Summary := List (Value × Nat)

/-- Whether two marks are one key. What is no number is the same thing wherever it stands in a document: one key,
though it is not equal to itself. -/
def isOneKey (a b : Value) : Bool := a.equal b || (!a.equal a && !b.equal b)

def Summary.count (summary : Summary) (mark : Value) : Nat :=
  ((summary.find? fun entry => isOneKey entry.1 mark).map (·.2)).getD 0

def Summary.add (mark : Value) : Summary → Summary
  | [] => [(mark, 1)]
  | (key, n) :: rest => if isOneKey key mark then (key, n + 1) :: rest else (key, n) :: add mark rest

def summarize (entries : Value) : Except Fault Summary := do
  (← entries.elements).foldlM (fun summary entry => do
    let mark ← entry.entry "feedback"
    if mark.isKey then return summary.add mark else throw (.mismatch (.notKey mark.kind))) []

def contextsOf (entries : List Value) (mark : Value) : Except Fault (List Value) := do
  let chosen ← entries.mapM fun entry => do
    if (← entry.entry "feedback").equal mark then return some (← entry.entry "context") else return none
  return chosen.filterMap id

/-- The contexts with thumbs up, and those with thumbs down. -/
def trainingData (entries : Value) : Except Fault (List Value × List Value) := do
  let items ← entries.elements
  return (← contextsOf items thumbsUp, ← contextsOf items thumbsDown)

/-! ### Files -/

def feedbackFile : String := "path/src/api/models/Feedback.json"

def positiveFile : String := "path/data/positive.json"

def negativeFile : String := "path/data/negative.json"

def trainingFile : String := "path/data/training_data.jsonl"

/-- A desk with the files, what was printed, and the number of fine-tuning jobs begun. -/
structure Desk where
  tree : FileTree := {}
  printed : List String := []
  jobs : List Fields := []

def print (line : String) : Act Desk Unit := modify fun d => { d with printed := d.printed ++ [line] }

def readDocument (path : String) : Act Desk Value := do
  match (← get).tree.text? path with
  | none => throw (.noFile path)
  | some text => liftM ((Json.read (unifiedLines text)).mapError Fault.document)

def writeText (path text : String) : Act Desk Unit := do
  match (← get).tree.write? path text with
  | none => throw (.noFile path)
  | some tree => modify fun d => { d with tree }

/-- Sorts the feedback into the two training files. -/
def prepare : Act Desk Unit := do
  let (positive, negative) ← liftM (trainingData (← readDocument feedbackFile))
  writeText positiveFile (Json.spread 2 (.list positive))
  writeText negativeFile (Json.spread 2 (.list negative))
  print ("Saved " ++ toString positive.length ++ " positive and " ++ toString negative.length
    ++ " negative examples.")

def report : Act Desk Unit := do
  let summary ← liftM (summarize (← readDocument feedbackFile))
  print "Feedback Summary:"
  print ("Thumbs Up: " ++ toString (summary.count thumbsUp))
  print ("Thumbs Down: " ++ toString (summary.count thumbsDown))

def trainingLine (example_ : Value) : String :=
  Json.plain (.record [("prompt", .text ("User input: " ++ example_.asText ++ "\nResponse:")),
    ("completion", .text " ")]) ++ "\n"

def job : Fields := [("training_file", .text trainingFile), ("model", .text "text-davinci-003"),
  ("n_epochs", .int 4), ("batch_size", .int 8), ("learning_rate_multiplier", .float 0.1)]

/-- Writes the training file and begins a fine-tuning job, which the service names. -/
def train (name : String) : Act Desk Unit := do
  let examples ← liftM (← readDocument positiveFile).elements
  writeText trainingFile (String.join (examples.map trainingLine))
  modify fun d => { d with jobs := d.jobs ++ [job] }
  print ("Fine-tuning started: " ++ name)

end Playhouse.Feedback
