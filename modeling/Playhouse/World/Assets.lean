import Playhouse.World.FileTree

/-!
Files of a folder handed out by name. A name leads to a file only if it stays inside the folder.
-/
namespace Playhouse.Assets

/-- A relative name without empty parts and `.`, with `..` resolved as far as the name allows;
nothing if it leaves the folder or starts at the root. -/
def inside? (name : String) : Option (List String) :=
  if startsWith "/" name then none
  else (splitText "/" name).foldlM (fun done part =>
    if part == "" || part == "." then some done
    else if part == ".." then (if done.isEmpty then none else some done.dropLast)
    else some (done ++ [part])) []

/-- The text of the file that a name leads to. -/
def find? (folder : FileTree) (name : String) : Option String := do
  let parts ← inside? name
  folder.text? (joinTexts "/" parts)

/-- The answer to a request for a name: its status, and the text if there is one. A name that begins
with a slash is sent on to the name without it. -/
def serve (folder : FileTree) (name : String) : Nat × Option String :=
  if startsWith "/" name && (name.toList.any fun c => c != '/') then (308, none)
  else match find? folder name with
    | some text => (200, some text)
    | none => (404, none)

end Playhouse.Assets
