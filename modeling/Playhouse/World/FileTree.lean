import Playhouse.Data.Entries
import Playhouse.Text.Search

/-!
A tree of files. Paths are texts with `/` between their parts; an empty part or `.` means nothing
and `..` leads back. Every entry is stored under its plain path from the root.
-/
namespace Playhouse

inductive Entry where
  | file (text : String)
  | directory
  deriving DecidableEq

structure FileTree where
  entries : List (String × Entry) := []

namespace FileTree

/-- The parts passed so far, last first, after one more. -/
def resolve (done : List String) (part : String) : List String :=
  if part == "" || part == "." then done else if part == ".." then done.tail else part :: done

/-- The parts of a path from the root, with `.` and `..` resolved. -/
def parts (path : String) : List String := ((splitText "/" path).foldl resolve []).reverse

def plain (path : String) : String := joinTexts "/" (parts path)

def parent (path : String) : String := joinTexts "/" (parts path).dropLast

def find? (tree : FileTree) (path : String) : Option Entry :=
  let name := plain path
  if name == "" then some .directory else tree.entries.lookup name

def exists? (tree : FileTree) (path : String) : Bool := (tree.find? path).isSome

def isDirectory (tree : FileTree) (path : String) : Bool := tree.find? path == some .directory

def text? (tree : FileTree) (path : String) : Option String :=
  match tree.find? path with
  | some (.file text) => some text
  | _ => none

def isFile (tree : FileTree) (path : String) : Bool := (tree.text? path).isSome

def put (name : String) (entry : Entry) : List (String × Entry) → List (String × Entry) :=
  Entries.put (· == name) name entry

def nameLimit : Nat := 255

/-- Whether every part of a path is short enough for a name. -/
def isNameable (path : String) : Bool := (parts path).all fun name => name.utf8ByteSize ≤ nameLimit

inductive Problem where
  | missing | directory | notDirectory | longName
  deriving DecidableEq

/-- What stands in the way through some parts, from where others have led: each of them has to lead to
a directory. -/
def obstacleFrom? (tree : FileTree) (done : List String) : List String → Option Problem
  | [] => none
  | part :: rest =>
    if nameLimit < part.utf8ByteSize then some .longName
    else match tree.find? (joinTexts "/" (resolve done part).reverse) with
      | some .directory => tree.obstacleFrom? (resolve done part) rest
      | some (.file _) => some .notDirectory
      | none => some .missing

/-- What stands in the way to the last part of a path: also a directory that `..` leaves at once has to
be there. -/
def obstacle? (tree : FileTree) (path : String) : Option Problem :=
  tree.obstacleFrom? [] (splitText "/" path).dropLast

/-- Writes a file; its directory has to be there, and no directory of that name. -/
def write? (path text : String) (tree : FileTree) : Option FileTree :=
  if isNameable path && tree.isDirectory (parent path) && !tree.isDirectory path then
    some ⟨put (plain path) (.file text) tree.entries⟩
  else none

/-- The paths of a directory and the directories above it, outermost first. -/
def ancestry (path : String) : List String :=
  let names := parts path
  (List.range names.length).map fun k => joinTexts "/" (names.take (k + 1))

/-- Makes a directory and those above it; nothing if a file stands in the way. -/
def makeDirectories? (path : String) (tree : FileTree) : Option FileTree :=
  (ancestry path).foldlM (fun tree name =>
    match tree.entries.lookup name with
    | some (.file _) => none
    | some .directory => some tree
    | none => some ⟨tree.entries ++ [(name, .directory)]⟩) tree

def removeFile (path : String) (tree : FileTree) : FileTree :=
  let name := plain path
  ⟨tree.entries.filter fun (n, entry) => !(n == name && entry != .directory)⟩

/-- The names of the entries of a directory, in order. -/
def names (tree : FileTree) (path : String) : List String :=
  let above := plain path
  ((tree.entries.filter fun (n, _) => parent n == above).map fun (n, _) =>
    (parts n).getLastD "").mergeSort fun a b => a ≤ b

def filePaths (tree : FileTree) : List String :=
  ((tree.entries.filter fun (_, entry) => entry != .directory).map (·.1)).mergeSort fun a b => a ≤ b

/-- Adds a file with the directories it needs. -/
def addFile (path text : String) (tree : FileTree) : FileTree :=
  match tree.makeDirectories? (parent path) with
  | none => tree
  | some tree => (tree.write? path text).getD tree

end FileTree
end Playhouse
