import Playhouse.Template.Layout
import Playhouse.Template.Subject

/-!
Templates: texts with fields in braces that are filled from named values. A doubled brace stands for
itself. A field names a subject, may step into it by `.name` or `[key]`, may ask for its quoted form
by `!r`, and may end in a layout, which can hold fields of its own. Pieces are filled from left to
right, so a fault of an earlier field comes before a mistake further on.
-/
namespace Playhouse.Template

structure Field where
  name : List Char
  conversion : Option Char := none
  layout : List Char := []
  deriving DecidableEq

inductive Piece where
  | literal (text : List Char)
  | field (field : Field)
  | broken (problem : Problem)
  deriving DecidableEq

/-! ### Reading a template into pieces -/

/-- Splits a field's name off: up to a closing brace, a colon or an exclamation mark that is not
inside brackets. The mark that ends it comes with the rest. -/
def splitName : Bool → List Char → Except Problem (List Char × Char × List Char)
  | _, [] => .error .closingExpected
  | true, c :: rest => do
    let (name, mark, rest) ← splitName (c != ']') rest
    return (c :: name, mark, rest)
  | false, c :: rest =>
    if c == '\x7b' then .error .openingInName
    else if c == '\x7d' || c == ':' || c == '!' then .ok ([], c, rest)
    else do
      let (name, mark, rest) ← splitName (c == '[') rest
      return (c :: name, mark, rest)

/-- Splits a layout off: up to the brace that closes its field. -/
def splitLayout : Nat → List Char → Except Problem (List Char × List Char)
  | _, [] => .error .unmatchedOpening
  | depth, c :: rest =>
    if c == '\x7d' && depth == 0 then .ok ([], rest)
    else do
      let depth := if c == '\x7b' then depth + 1 else if c == '\x7d' then depth - 1 else depth
      let (layout, rest) ← splitLayout depth rest
      return (c :: layout, rest)

def readField (text : List Char) : Except Problem (Field × List Char) := do
  let (name, mark, rest) ← splitName false text
  match mark, rest with
  | ':', rest =>
    let (layout, rest) ← splitLayout 0 rest
    return ({ name, layout }, rest)
  | '!', [] => throw .noConversion
  | '!', [_] => throw .unmatchedOpening
  | '!', conversion :: '\x7d' :: rest => return ({ name, conversion }, rest)
  | '!', conversion :: ':' :: rest =>
    let (layout, rest) ← splitLayout 0 rest
    return ({ name, conversion, layout }, rest)
  | '!', _ => throw .colonExpected
  | _, rest => return ({ name }, rest)

def isBrace (c : Char) : Bool := c == '\x7b' || c == '\x7d'

/-- The pieces of a template, the last one broken if the template is; `fuel` bounds their number. -/
def piecesWithin : Nat → List Char → List Piece
  | 0, _ => []
  | fuel + 1, text =>
    let plain := text.takeWhile (!isBrace ·)
    match text.dropWhile (!isBrace ·) with
    | [] => if plain.isEmpty then [] else [.literal plain]
    | brace :: rest =>
      if rest.head? == some brace then .literal (plain ++ [brace]) :: piecesWithin fuel rest.tail
      else if brace == '\x7d' then [.broken .loneClosing]
      else if rest.isEmpty then [.broken .loneOpening]
      else match readField rest with
        | .error problem => [.literal plain, .broken problem]
        | .ok (field, rest) => .literal plain :: .field field :: piecesWithin fuel rest

/-- Every piece takes at least one character. -/
def pieces (text : List Char) : List Piece := piecesWithin (text.length + 1) text

/-! ### The subject of a field -/

/-- A step into a subject. -/
inductive Step where
  | member (name : String)
  | item (place : Subject.Place)
  deriving DecidableEq

/-- The number that a name is, if it has only digits. -/
def numberOf (name : List Char) : Except Problem (Option Nat) := do
  let (number, rest) ← Layout.takeNumber name none
  return if rest.isEmpty then number else none

def readStep (text : List Char) : Except Problem (Step × List Char) := do
  match text with
  | '.' :: rest =>
    let name := rest.takeWhile fun c => c != '.' && c != '['
    if name.isEmpty then throw .emptyAttribute
    return (.member (String.ofList name), rest.drop name.length)
  | '[' :: rest =>
    let name := rest.takeWhile (· != ']')
    if (rest.drop name.length).isEmpty then throw .missingBracket
    let number ← numberOf name
    if name.isEmpty then throw .emptyAttribute
    return (.item (match number with
      | some n => .index n
      | none => .key (String.ofList name)), rest.drop (name.length + 1))
  | _ => throw .afterBracket

def take (subject : Subject) : Step → Except Fault Subject
  | .member name => subject.member name
  | .item place => subject.item place

/-- Follows the steps of a name, at most `fuel` of them. -/
def follow : Nat → Subject → List Char → Except Fault Subject
  | 0, subject, _ => .ok subject
  | fuel + 1, subject, text => do
    if text.isEmpty then return subject
    let (step, rest) ← (readStep text).mapError Fault.template
    follow fuel (← take subject step) rest

/-- The subject that a field names. There are no values without a name, so a number finds none. -/
def find (arguments : Fields) (name : List Char) : Except Fault Subject := do
  let first := name.takeWhile fun c => c != '.' && c != '['
  let number ← (numberOf first).mapError Fault.template
  if first.isEmpty then throw (.template (.noPosition 0))
  match number with
  | some n => throw (.template (.noPosition n))
  | none =>
    follow name.length (.value (← Value.need arguments (String.ofList first))) (name.drop first.length)

/-! ### Filling -/

/-- The form that a conversion mark asks for; the character zero is like no mark. -/
def convert (subject : Subject) : Option Char → Except Fault Subject
  | none | some '\x00' => .ok subject
  | some 's' => .ok (.ofText subject.asText)
  | some 'r' => .ok (.ofText subject.shown)
  | some 'a' => .ok (.ofText (asciiShown subject.shown))
  | some mark => .error (.template (.unknownConversion mark))
where
  /-- Escapes what is not ASCII. -/
  asciiShown (text : String) : String :=
    String.ofList (text.toList.flatMap fun c =>
      if c.toNat < 0x80 then [c] else Text.escaped c.toNat)

/-- A subject in a layout. Without one it is its text; only texts and numbers have layouts. -/
def lay (subject : Subject) (layout : List Char) : Except Fault (List Char) :=
  if layout.isEmpty then .ok subject.asText.toList
  else match subject with
    | .value (.text s) => (layText s layout).mapError .template
    | .value (.int n) => (layInteger "int" n layout).mapError .template
    | .value (.bool b) => (layInteger "bool" (if b then 1 else 0) layout).mapError .template
    | .value (.float x) => (layFloat x layout).mapError .template
    | other => .error (.template (.noLayout other.kindOf.label))

/-- Fills a template whose layouts may hold fields `depth` levels down. -/
def fillWithin (arguments : Fields) : Nat → List Char → Except Fault (List Char)
  | 0, _ => .error (.template .nestedTooDeep)
  | depth + 1, text => do
    let parts ← (pieces text).mapM fun piece =>
      match piece with
      | .literal plain => .ok plain
      | .broken problem => .error (.template problem)
      | .field field => do
        let subject ← convert (← find arguments field.name) field.conversion
        let layout ← if field.layout.contains '\x7b' then fillWithin arguments depth field.layout
          else pure field.layout
        lay subject layout
    return parts.flatten

def fill (text : String) (arguments : Fields) : Except Fault String :=
  (fillWithin arguments 2 text.toList).map String.ofList

end Playhouse.Template
