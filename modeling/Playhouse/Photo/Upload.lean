import Playhouse.Data.Access
import Playhouse.Text.Ascii
import Playhouse.Text.Case
import Playhouse.World.FileTree

/-!
The folder of uploaded photos: which files are photos, storing an upload under a safe, stamped name, and clearing out
old photos.
-/
namespace Playhouse.Photo

def extensions : List String := ["jpeg", "jpg", "png"]

/-- Whether a file name ends in an extension of a photo, in any case. -/
def isPhotoName (name : String) : Bool :=
  match Text.cutLast? '.' name.toList with
  | some (_, extension) => extensions.contains (String.ofList (Text.lower extension))
  | none => false

/-- Letters, digits, `_`, `.` and `-`. -/
def isSafe (c : Char) : Bool :=
  let n := c.toNat
  (48 ≤ n && n ≤ 57) || (65 ≤ n && n ≤ 90) || (97 ≤ n && n ≤ 122) || c == '_' || c == '.' || c == '-'

def isEdge (c : Char) : Bool := c == '.' || c == '_'

/-- A name without points and underlines at its ends. -/
def trimEdges (name : List Char) : List Char :=
  ((name.dropWhile isEdge).reverse.dropWhile isEdge).reverse

/-- The safe form of a file name: its ASCII part, blanks and slashes as underlines, other characters
left out. -/
def safeName (name : List Char) : List Char :=
  let spaced := (Text.toAscii name).map fun c => if c == '/' then ' ' else c
  trimEdges ((Text.join ['_'] (Text.words spaced)).filter isSafe)

def uploadFolder : String := "static/uploads"

/-- The largest photo, in bytes. -/
def maxSize : Nat := 10 * 1024 * 1024

/-- What saving an upload does: it writes the file, fails, fails once a part is written, or writes
nothing. -/
inductive Saving where
  | writes
  | fails (reason : String)
  | tears (part reason : String)
  | loses
  deriving DecidableEq

structure Upload where
  filename : Value
  text : String := ""
  saving : Saving := .writes

/-- Whether a file name that may be of any kind is that of a photo. -/
def accepts (filename : Value) : Except Fault Bool := do
  if ← (Value.text ".").isIn filename then return isPhotoName (← filename.needText "rsplit")
  else return false

/-- The name under which a photo is stored: time stamp, a fixed-width tag, and the safe name. -/
def storedName (now : Moment) (tag : String) (name : String) : String :=
  now.stamp ++ "_" ++ tag ++ "_" ++ String.ofList (safeName name.toList)

/-- Makes the upload folder and tries it out by writing and removing a file. -/
def prepare? (tree : FileTree) : Option FileTree := do
  let probe := uploadFolder ++ "/.test"
  let tree ← (← tree.makeDirectories? uploadFolder).write? probe "test"
  return tree.removeFile probe

def save (now : Moment) (tag : String) (upload : Upload) : Act FileTree String := do
  let some tree := prepare? (← get) | throw .uploadFolder
  set tree
  let name ← match upload.filename with
    | .text s => pure s
    | other => throw (.mismatch (.fileName other))
  let path := uploadFolder ++ "/" ++ storedName now tag name
  let write (text : String) : Act FileTree Unit :=
    match tree.write? path text with
    | some tree => set tree
    | none => throw (if FileTree.isNameable path then .notSaved path else .longName path)
  match upload.saving with
  | .fails reason => throw (.storage reason)
  | .tears part reason => write part; throw (.storage reason)
  | .loses => throw (.notSaved path)
  | .writes => write upload.text; return path

/-! ### Clearing out -/

/-- What the file system tells of the upload folder: the names of its entries, in some order; when an
entry was changed, if it says so; and whether it refuses to remove it. -/
structure Shelf where
  listing : List String := []
  changed? : String → Option Moment := fun _ => none
  isFixed : String → Bool := fun _ => false

/-- What is to be done with an entry: it stays, it goes, or the clean-up breaks off. -/
inductive Ruling where
  | stays | goes | breaksOff
  deriving DecidableEq

/-- An entry goes if its age in whole days, rounded down, is more than the limit. One whose time is not
known stays; a time outside the calendar, or a limit that is no number, breaks the clean-up off. -/
def ruling (now : Moment) (limit : Value) : Option Moment → Ruling
  | none => .stays
  | some changed =>
    if !changed.isDate then .breaksOff
    else
      match limit.number? with
      | none => .breaksOff
      | some most => if most.less (.int ((now.micros - changed.micros) / Moment.day)) then .goes else .stays

/-- Goes through some entries of the upload folder. An entry that cannot be removed, such as a directory,
is passed over. -/
def clear (now : Moment) (limit : Value) (shelf : Shelf) : List String → FileTree → FileTree
  | [], tree => tree
  | name :: rest, tree =>
    match ruling now limit (shelf.changed? name) with
    | .breaksOff => tree
    | .stays => clear now limit shelf rest tree
    | .goes =>
      clear now limit shelf rest
        (if shelf.isFixed name then tree else tree.removeFile (uploadFolder ++ "/" ++ name))

/-- Removes the photos of more than some whole days. -/
def cleanUp (now : Moment) (shelf : Shelf) (tree : FileTree) (limit : Value := .int 7) : FileTree :=
  if tree.exists? uploadFolder then clear now limit shelf shelf.listing tree else tree

end Playhouse.Photo
