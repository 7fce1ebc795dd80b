import Playhouse.Fault
import Playhouse.World.FileTree

/-!
Paths as texts, and a file tree seen from a working directory: a path that does not start at the root starts there.
-/
namespace Playhouse

namespace Path

def isRooted (path : String) : Bool := startsWith "/" path

/-- The text before the last name of a path, without the slashes between them unless it is nothing
but slashes, and the last name. -/
def split (path : String) : String × String :=
  match Text.cutLast? '/' path.toList with
  | none => ("", path)
  | some (head, name) =>
    let above := ((head ++ ['/']).reverse.dropWhile (· == '/')).reverse
    (String.ofList (if above.isEmpty then head ++ ['/'] else above), String.ofList name)

def directory (path : String) : String := (split path).1

def name (path : String) : String := (split path).2

/-- A path from a directory; one that starts at the root stands for itself. -/
def join (above path : String) : String :=
  if isRooted path || above == "" then path
  else if endsWith "/" above then above ++ path
  else above ++ "/" ++ path

end Path

structure Workspace where
  tree : FileTree := {}
  home : String := "/"

namespace Workspace

def full (w : Workspace) (path : String) : String := Path.join w.home path

/-- A path from the root in its plainest form. -/
def real (w : Workspace) (path : String) : String := "/" ++ FileTree.plain (w.full path)

def exists? (w : Workspace) (path : String) : Bool := w.tree.exists? (w.full path)

def isFile (w : Workspace) (path : String) : Bool := w.tree.isFile (w.full path)

def isDirectory (w : Workspace) (path : String) : Bool := w.tree.isDirectory (w.full path)

def text? (w : Workspace) (path : String) : Option String := w.tree.text? (w.full path)

/-- The names in a directory, in order; none if it is no directory. -/
def names (w : Workspace) (path : String) : List String :=
  if w.isDirectory path then w.tree.names (w.full path) else []

def same (w : Workspace) (a b : String) : Bool := w.real a == w.real b

def write (path text : String) : Act Workspace Unit := do
  let w ← get
  match w.tree.write? (w.full path) text with
  | some tree => set { w with tree }
  | none => throw (if w.isDirectory path then .directoryThere path else .noFile path)

/-- Adds to the end of a file, which is made if it is not there. -/
def append (path text : String) : Act Workspace Unit := do
  write path (((← get).text? path).getD "" ++ text)

def read (path : String) : Act Workspace String := do
  let w ← get
  match w.text? path with
  | some text => return text
  | none => throw (if w.isDirectory path then .directoryThere path else .noFile path)

def remove (path : String) : Act Workspace Unit := do
  let w ← get
  if w.isDirectory path then throw (.directoryThere path)
  if !w.isFile path then throw (.noFile path)
  set { w with tree := w.tree.removeFile (w.full path) }

def removeTree (path : String) : Act Workspace Unit := modify fun w =>
  let top := FileTree.parts (w.full path)
  { w with tree := ⟨w.tree.entries.filter fun (name, _) => !top.isPrefixOf (FileTree.parts name)⟩ }

/-- Makes a directory with those above it, unless it is there. -/
def makeDirectory (path : String) : Act Workspace Unit := do
  let w ← get
  match w.tree.makeDirectories? (w.full path) with
  | some tree => set { w with tree }
  | none => throw (.fileThere path)

def rename (old new : String) : Act Workspace Unit := do
  let text ← read old
  remove old
  write new text

/-- The entries below a directory, each by its parts from there. -/
def below (w : Workspace) (path : String) : List (List String × Entry) :=
  let top := FileTree.parts (w.full path)
  w.tree.entries.filterMap fun (name, entry) =>
    let parts := FileTree.parts name
    if top.isPrefixOf parts && top.length < parts.length then some (parts.drop top.length, entry) else none

/-- Copies a directory to a place where nothing is yet. -/
def copyTree (source target : String) : Act Workspace Unit := do
  let w ← get
  if w.exists? target then throw (.fileThere target)
  makeDirectory target
  (w.below source).forM fun (parts, entry) => do
    let place := joinTexts "/" (target :: parts)
    match entry with
    | .directory => makeDirectory place
    | .file text =>
      makeDirectory (Path.directory place)
      write place text

def copyFile (source target : String) : Act Workspace Unit := do write target (← read source)

end Workspace

end Playhouse
