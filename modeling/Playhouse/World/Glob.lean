import Playhouse.World.Workspace

/-!
Finding files by patterns. In a name `*` stands for any text, `?` for any character and brackets
for one of the characters they list; a name that starts with a dot is found only by a pattern that
starts with one. A whole name `**` stands for any number of directories.
-/
namespace Playhouse.Glob

/-- A part of a pattern for a name. -/
inductive Piece where
  | any
  | one
  | char (c : Char)
  | among (isAmong : Bool) (ranges : List (Char × Char))
  deriving DecidableEq

/-- The ranges of characters that stand between brackets. -/
def ranges : List Char → List (Char × Char)
  | low :: '-' :: high :: rest => (low, high) :: ranges rest
  | c :: rest => (c, c) :: ranges rest
  | [] => []

/-- What stands in brackets and what follows them. A bracket right after the opening one closes
nothing. -/
def bracketed? (text : List Char) : Option (Piece × List Char) :=
  let (isAmong, text) := match text with
    | '!' :: rest => (false, rest)
    | _ => (true, text)
  let (first, text) := match text with
    | ']' :: rest => ([']'], rest)
    | _ => ([], text)
  match text.span (· ≠ ']') with
  | (body, _ :: rest) => some (.among isAmong (ranges (first ++ body)), rest)
  | (_, []) => none

/-- The parts of a pattern, at most as many as `limit`. -/
def piecesFrom : (limit : Nat) → List Char → List Piece
  | 0, _ | _, [] => []
  | limit + 1, '*' :: rest => .any :: piecesFrom limit rest
  | limit + 1, '?' :: rest => .one :: piecesFrom limit rest
  | limit + 1, '[' :: rest =>
    match bracketed? rest with
    | some (piece, rest) => piece :: piecesFrom limit rest
    | none => .char '[' :: piecesFrom limit rest
  | limit + 1, c :: rest => .char c :: piecesFrom limit rest

def pieces (pattern : String) : List Piece := piecesFrom pattern.length pattern.toList

def Piece.takes (c : Char) : Piece → Bool
  | .any => false
  | .one => true
  | .char d => c == d
  | .among isAmong ranges => (ranges.any fun (low, high) => low ≤ c && c ≤ high) == isAmong

def fits : List Piece → List Char → Bool
  | [], name => name.isEmpty
  | .any :: rest, [] => fits rest []
  | .any :: rest, c :: name => fits rest (c :: name) || fits (.any :: rest) name
  | _ :: _, [] => false
  | piece :: rest, c :: name => piece.takes c && fits rest name
termination_by parts name => parts.length + name.length

/-- Whether a text is a pattern and not a plain name. -/
def isPattern (text : String) : Bool := text.toList.any fun c => c == '*' || c == '?' || c == '['

def isHidden (name : String) : Bool := startsWith "." name

def named (w : Workspace) (onlyDirectories : Bool) (above pattern : String) : List String :=
  let parts := pieces pattern
  (w.names above).filter fun name =>
    (!onlyDirectories || w.isDirectory (Path.join above name)) && (isHidden pattern || !isHidden name)
      && fits parts name.toList

/-- Order of paths by their names, a directory before what it holds. -/
def before : List String → List String → Bool
  | [], _ => true
  | _ :: _, [] => false
  | a :: p, b :: q => a < b || (a == b && before p q)

/-- The directory itself, as the empty path, and all paths below it without hidden names. -/
def anywhere (w : Workspace) (onlyDirectories : Bool) (above : String) : List String :=
  let found := ((w.below above).filter fun (parts, entry) =>
    parts.all (!isHidden ·) && (!onlyDirectories || entry == .directory)).map (·.1)
  (if w.isDirectory above then [""] else []) ++ (found.mergeSort before).map (joinTexts "/")

/-- The names or paths in a directory that the last part of a pattern finds. -/
def inside (w : Workspace) (deep onlyDirectories : Bool) (above pattern : String) : List String :=
  if !isPattern pattern then
    if pattern == "" then (if w.isDirectory above then [""] else [])
    else if w.exists? (Path.join above pattern) then [pattern] else []
  else if deep && pattern == "**" then anywhere w onlyDirectories above
  else named w onlyDirectories above pattern

/-- The paths that a pattern finds; `limit` is the number of names it may have. -/
def search (w : Workspace) (deep : Bool) : (limit : Nat) → (onlyDirectories : Bool) → String → List String
  | 0, _, _ => []
  | limit + 1, onlyDirectories, pattern =>
    let (above, last) := Path.split pattern
    if !isPattern pattern then
      if last != "" then (if w.exists? pattern then [pattern] else [])
      else if w.isDirectory above then [pattern] else []
    else if above == "" then inside w deep onlyDirectories "" last
    else
      let directories := if above != pattern && isPattern above then search w deep limit true above else [above]
      directories.flatMap fun directory => (inside w deep onlyDirectories directory last).map (Path.join directory)

def find (w : Workspace) (pattern : String) : List String := search w false (pattern.length + 1) false pattern

/-- The paths that a pattern finds when `**` stands for any number of directories. -/
def findDeep (w : Workspace) (pattern : String) : List String := search w true (pattern.length + 1) false pattern

end Playhouse.Glob
