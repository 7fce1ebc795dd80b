import Playhouse.Fault
import Playhouse.Text.Case
import Playhouse.World.FileTree

/-!
Photo verification: a photo is confirmed when every required object is detected, the pose matches
and the place is recognised. The services that look at a photo are described by what they see. A pose is a record of
named landmarks; two can be asked for, hands above the nose and arms held level with the shoulders.
-/
namespace Playhouse.Photo

/-- Whether something was confirmed, and how sure that is. -/
structure Verdict where
  confirmed : Bool
  confidence : Value

def Verdict.refused : Verdict := ⟨false, .float 0.0⟩

def entry? (landmark : Value) (key : String) : Option Value := landmark.field? key

def bothVisible (left right : Value) : Option Value := do
  Value.least? (← entry? left "visibility") [← entry? right "visibility"]

/-- Both wrists are above the nose; heights grow downwards. -/
def handsUp? (pose : Fields) : Option Verdict := do
  let landmark (key : String) := (pose.get? key).getD .null
  let left := landmark "landmark_15"
  let right := landmark "landmark_16"
  let nose := landmark "landmark_0"
  if left.truthy && right.truthy && nose.truthy then
    if ← Value.less? (← entry? left "y") (← entry? nose "y") then
      if ← Value.less? (← entry? right "y") (← entry? nose "y") then
        return ⟨true, ← bothVisible left right⟩
  return .refused

def height? (landmark : Value) : Option Number := do (← entry? landmark "y").number?

def distance? (a b : Number) : Option Number := do
  match ← a.sub? b with
  | .int n => return .int n.natAbs
  | .float x => return .float x.abs

/-- The wrists are level with each other and the left one with the middle of the shoulders. -/
def armsLevel? (pose : Fields) : Option Verdict := do
  let landmark (key : String) := (pose.get? key).getD .null
  let leftShoulder := landmark "landmark_11"
  let rightShoulder := landmark "landmark_12"
  let left := landmark "landmark_15"
  let right := landmark "landmark_16"
  let near := Number.float 0.1
  if leftShoulder.truthy && rightShoulder.truthy && left.truthy && right.truthy then
    let middle ← (← (← height? leftShoulder).add? (← height? rightShoulder)).half?
    let apart ← distance? (← height? left) (← height? right)
    if apart.less near then
      if (← distance? (← height? left) (.float middle)).less near then
        return ⟨true, ← bothVisible left right⟩
  return .refused

/-- Checks a pose. What does not have the form of a pose is refused. -/
def checkPose (pose required : Value) : Verdict :=
  let verdict? : Option Verdict :=
    if required.equal (.text "hands_up") then pose.fields?.bind handsUp?
    else if required.equal (.text "t_pose") then pose.fields?.bind armsLevel?
    else none
  if pose.truthy then verdict?.getD .refused else .refused

/-- What reading and writing an image does. -/
inductive Image where
  | readable | unreadable | broken | unwritable
  deriving DecidableEq

/-- Something seen in a photo, as far as it is described. -/
structure Sighting where
  label : Option Value
  score : Option Value

/-- What the pose service finds: nobody, landmarks, or it fails. -/
inductive Posture where
  | nobody
  | landmarks (points : List Fields)
  | failure

structure Lens where
  image : Image := .unreadable
  visionStarts : Bool := true
  objects : List Sighting := []
  places : List Sighting := []
  posture : Posture := .nobody
  poseReady : Bool := true

/-- The path of the enhanced form of a photo; a name without a point has none. -/
def enhancedPath? (path : String) : Option String :=
  (Text.cutLast? '.' path.toList).map fun (stem, extension) =>
    String.ofList stem ++ "_enhanced." ++ String.ofList extension

/-- Writes an enhanced copy of a photo beside it, if it can be read and written. -/
def enhance (lens : Lens) (path : String) (tree : FileTree) : Option String × FileTree :=
  match lens.image with
  | .readable =>
    match enhancedPath? path with
    | none => (none, tree)
    | some better =>
      match tree.write? better "" with
      | some tree => (some better, tree)
      | none => (none, tree)
  | _ => (none, tree)

/-- The landmarks of a pose by name; nothing if one is not fully described. -/
def namedLandmarks? (points : List Fields) : Option Fields :=
  points.zipIdx.mapM fun (point, k) => do
    let keys : List Key := ["x", "y", "z", "visibility"]
    let entries ← keys.mapM fun key => do return (key, ← point.get? key)
    return ("landmark_" ++ toString k, .record entries)

def detectPose (lens : Lens) : Value :=
  if lens.poseReady && (lens.image == .readable || lens.image == .unwritable) then
    match lens.posture with
    | .landmarks points => ((namedLandmarks? points).map .record).getD .null
    | _ => .null
  else .null

/-- Whether a sighting's label holds a wanted text in any case; both have to be texts. -/
def matches? (wanted : Value) (sighting : Sighting) : Option Bool := do
  return occursIn (lowered (← wanted.text?)) (lowered (← (← sighting.label).text?))

/-- Whether one of the wanted texts is in the label; those after the first match are not looked
at. -/
def anyMatches? : List Value → Sighting → Option Bool
  | [], _ => some false
  | wanted :: rest, sighting => do
    if ← matches? wanted sighting then return true else anyMatches? rest sighting

/-- Looks for one wanted object among the sightings. The scores of its matches have to be
comparable. -/
def found? (wanted : Value) (best : Value) : List Sighting → Option Bool
  | [] => some false
  | sighting :: rest => do
    if ← matches? wanted sighting then
      let best ← Value.greatest? best [← sighting.score]
      let _ ← found? wanted best rest
      return true
    else found? wanted best rest

/-- Whether every wanted object is found, and the least score among all matching sightings. -/
def objects? (required : List Value) (sightings : List Sighting) : Option (Bool × Value) := do
  let all ← required.mapM fun wanted =>
    if wanted.isKey then found? wanted (.float 0.0) sightings else none
  let hits ← sightings.filterMapM fun sighting => do
    if ← anyMatches? required sighting then return some (← sighting.score) else return none
  let confidence ← match hits with
    | [] => some (.float 0.0)
    | score :: rest => Value.least? score rest
  return (all.all id, confidence)

/-- Whether a sighting is of the required place, the first match deciding. -/
def placeSeen? (required : Value) : List Sighting → Option Bool
  | [] => some false
  | sighting :: rest => do
    if ← matches? required sighting then return true else placeSeen? required rest

def place? (required : Value) (places : List Sighting) : Option Verdict := do
  let seen ← placeSeen? required places
  let scores ← places.filterMapM fun sighting => do
    if ← matches? required sighting then return some (← sighting.score) else return none
  let confidence ← match scores with
    | [] => some (.float 0.0)
    | score :: rest => Value.greatest? score rest
  return ⟨seen, confidence⟩

/-- What is asked of a photo. The least confidence is noted with the demand; the verdict reports how
sure the sightings are and leaves the comparison to its reader. -/
structure Demand where
  objects : Value
  confidence : Value := .float 0.7
  pose : Value := .null
  place : Value := .null

/-- The wanted objects; a single text stands for itself. -/
def Demand.wanted? (demand : Demand) : Option (List Value) :=
  match demand.objects with
  | .text s => some [.text s]
  | other => other.elements.toOption

def judge? (lens : Lens) (demand : Demand) : Option Verdict := do
  if !lens.visionStarts then none
  let (allFound, sureness) ← objects? (← demand.wanted?) lens.objects
  let pose := if demand.pose.truthy then checkPose (detectPose lens) demand.pose
    else ⟨true, .float 1.0⟩
  let place ← if demand.place.truthy then place? demand.place lens.places
    else some ⟨true, .float 1.0⟩
  let confidence ← Value.least? sureness [pose.confidence, place.confidence]
  return ⟨allFound && pose.confirmed && place.confirmed, confidence⟩

/-- Verifies a stored photo. A missing photo and whatever cannot be judged are refused. -/
def verify (lens : Lens) (path : String) (demand : Demand) (tree : FileTree) : Verdict × FileTree :=
  if tree.exists? path then
    let (_, tree) := enhance lens path tree
    ((judge? lens demand).getD .refused, tree)
  else (.refused, tree)

end Playhouse.Photo
