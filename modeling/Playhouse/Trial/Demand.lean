import Playhouse.Trial.Tools

/-!
What a case asks for before it can run, and which cases are asked for.
-/
namespace Playhouse.Trial
open Text

/-- Whether a demanded feature stands in the way: it is there though it must not be, or it has not been found. A demand
that starts with an exclamation mark is never found. -/
def standsInWay (available : List String) (demand : String) : Bool :=
  let isInverted := startsWith "!" demand
  let found := !isInverted && available.contains demand
  let foundUnexpectedly := isInverted && available.contains (String.ofList (demand.toList.drop 1))
  foundUnexpectedly || !found

/-- The first of the demanded features that stands in the way. -/
def unmetFeature? (available demands : List String) : Option String :=
  demands.find? fun demand => demand != "" && standsInWay available demand

/-- The demands of a case: the feature that its form of output needs, else those of its file. -/
def featureDemands (needed file : Option String) : List String :=
  match needed with
  | some feature => [feature]
  | none => linesOf (unifiedLines (file.getD ""))

/-- The first demanded language that is not available. -/
def unmetLanguage? (available : List String) (file : Option String) : Option String :=
  match file with
  | none => none
  | some text => (linesOf (unifiedLines text)).find? fun language => !available.contains language

def firstLine (text : String) : List Char := text.toList.takeWhile (· ≠ '\n')

/-- A text cut at the last slash that has at least one character on each side. -/
def cutInside? (text : List Char) : Option (List Char × List Char) :=
  ((List.range text.length).reverse.filter fun n =>
    0 < n && text[n]? == some '/' && n + 1 < text.length).head?.map fun n => (text.take n, text.drop (n + 1))

/-- Whether a case is among those asked for; an empty list asks for all. An entry is a name, or a
category and a name. -/
def isWanted (wanted : List String) (name category : String) : Bool :=
  wanted.isEmpty || wanted.any fun entry =>
    match cutInside? (firstLine entry) with
    | some (before, after) => String.ofList before == category && String.ofList after == name
    | none => entry == name

inductive PairProblem where
  | format | noNew | noOld
  deriving DecidableEq

def PairProblem.message : PairProblem → String
  | format => "wrong format of --_pretend option arg"
  | noNew => "newlang part of --_pretend option arg is empty"
  | noOld => "oldlang part of --_pretend option arg is empty"

/-- The option that lets one language pass for another. -/
def pretenseOption (pair : String) : Except PairProblem String :=
  match cutLast? '/' (firstLine pair) with
  | none => .error .format
  | some ([], _) => .error .noNew
  | some (_, []) => .error .noOld
  | some (new, old) => .ok (" --_pretend-" ++ String.ofList new ++ "=" ++ String.ofList old)

def pretenseOptions (pairs : String) : Except PairProblem String := do
  return String.join (← (splitText "," pairs).mapM pretenseOption)

/-- The language that the tag generator gives after the last colon and blank of its answer. -/
def languageIn (answer : String) : String :=
  let text := (replace "\r\n".toList ['\n'] answer.toList).filter (· ≠ '\n')
  String.ofList ((split ": ".toList text).getLastD [])

/-- The text after the last occurrence of a mark that leaves something `good`. -/
def lastAfter? {α : Type} (mark : List Char) (good : List Char → Option α) : List Char → Option α
  | [] => (after? mark []).bind good
  | c :: rest =>
    (lastAfter? mark good rest).orElse fun _ => (after? mark (c :: rest)).bind good

/-- The text up to the last occurrence of a mark that leaves something `good`. -/
def lastBefore? (mark : List Char) (good : List Char → Bool) : List Char → Option (List Char)
  | [] => if ((after? mark []).any good) then some [] else none
  | c :: rest =>
    match lastBefore? mark good rest with
    | some before => some (c :: before)
    | none => if (after? mark (c :: rest)).any good then some [] else none

/-- The language that a line of the log names for an opened file. -/
def openedAs? (line : List Char) : Option (List Char) := do
  let rest ← after? "OPENING".toList line
  lastAfter? " as ".toList (lastBefore? " language ".toList (occurs "file ".toList)) rest

/-- The language of the first file that a log opens. -/
def languageInLog (log : String) : String :=
  String.ofList (((fullLines (unified log.toList)).findSome? openedAs?).getD [])

/-- A file that is no back-up copy. -/
def isAccepted (path : String) : Bool := !endsWith "~" path

end Playhouse.Trial
