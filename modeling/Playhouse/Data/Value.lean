import Playhouse.Data.Number
import Playhouse.Text.Search

/-!
Documents: the dynamic values that preferences, contexts, stories, sessions and templates are made
of. A record keeps its fields in the order of first insertion. Numbers are one key if they have the same value,
whatever their kind, and true and false are the keys one and zero. Numbers, texts and lists have an order, each among
themselves.
-/
namespace Playhouse

inductive Key where
  | null
  | bool (b : Bool)
  | int (n : Int)
  | float (x : Float)
  | text (s : String)
  deriving Inhabited

namespace Key

def number? : Key → Option Number
  | bool b => some (.int (if b then 1 else 0))
  | int n => some (.int n)
  | float x => some (.float x)
  | _ => none

def equal : Key → Key → Bool
  | null, null => true
  | text s, text t => s == t
  | a, b =>
    match a.number?, b.number? with
    | some m, some n => m.equal n
    | _, _ => false

instance : BEq Key := ⟨equal⟩

instance : Coe String Key := ⟨text⟩

end Key

inductive Value where
  | null
  | bool (b : Bool)
  | int (n : Int)
  | float (x : Float)
  | text (s : String)
  | list (items : List Value)
  | record (fields : List (Key × Value))
  deriving Inhabited

/-- The fields of a record, in order of insertion. -/
abbrev Fields := List (Key × Value)

namespace Fields

def get? (fields : Fields) (key : Key) : Option Value :=
  (fields.find? (·.1 == key)).map (·.2)

def contains (fields : Fields) (key : Key) : Bool := fields.any (·.1 == key)

/-- Sets a field: in its place and under its old key if the record has it, at the end otherwise. -/
def set (key : Key) (value : Value) : Fields → Fields
  | [] => [(key, value)]
  | (k, v) :: rest => if k == key then (k, value) :: rest else (k, v) :: set key value rest

def update (fields changes : Fields) : Fields :=
  changes.foldl (fun acc (key, value) => set key value acc) fields

def erase (key : Key) (fields : Fields) : Fields := fields.filter (·.1 != key)

/-- The record of a list of pairs: a later pair of one key gives the value, the first one the
place. -/
def ofPairs (pairs : List (String × Value)) : Fields :=
  update [] (pairs.map fun (name, value) => (.text name, value))

end Fields

def Key.value : Key → Value
  | null => .null
  | bool b => .bool b
  | int n => .int n
  | float x => .float x
  | text s => .text s

namespace Value

def ofTexts (items : List String) : Value := .list (items.map .text)

def empty : Value := .record []

def ofNumber : Number → Value
  | .int n => .int n
  | .float x => .float x

def kind : Value → String
  | null => "NoneType"
  | bool _ => "bool"
  | int _ => "int"
  | float _ => "float"
  | text _ => "str"
  | list _ => "list"
  | record _ => "dict"

/-- Whether a value counts as true: nothing, false, zero and everything empty do not. -/
def truthy : Value → Bool
  | null => false
  | bool b => b
  | int n => n != 0
  | float x => x != 0
  | text s => s != ""
  | list items => !items.isEmpty
  | record fields => !fields.isEmpty

/-- The number that a value is, where true and false count as one and zero. -/
def number? : Value → Option Number
  | bool b => some (.int (if b then 1 else 0))
  | int n => some (.int n)
  | float x => some (.float x)
  | _ => none

def text? : Value → Option String
  | text s => some s
  | _ => none

def fields? : Value → Option Fields
  | record fields => some fields
  | _ => none

/-- The key that a value is: lists and records are none. -/
def key? : Value → Option Key
  | null => some .null
  | bool b => some (.bool b)
  | int n => some (.int n)
  | float x => some (.float x)
  | text s => some (.text s)
  | list _ | record _ => none

def isKey (value : Value) : Bool := value.key?.isSome

mutual

/-- Equality of documents: numbers by value whatever their kind, records without regard to the order
of their fields. -/
def equal : Value → Value → Bool
  | null, null => true
  | text s, text t => s == t
  | list xs, list ys => equalItems xs ys
  | record xs, record ys => xs.length == ys.length && equalFields xs ys
  | a, b =>
    match a.number?, b.number? with
    | some m, some n => m.equal n
    | _, _ => false

def equalItems : List Value → List Value → Bool
  | [], [] => true
  | x :: xs, y :: ys => equal x y && equalItems xs ys
  | _, _ => false

def equalFields : List (Key × Value) → List (Key × Value) → Bool
  | [], _ => true
  | (key, x) :: xs, ys =>
    (match Fields.get? ys key with
      | some y => equal x y
      | none => false) && equalFields xs ys

end

def memberOf (x : Value) (items : List Value) : Bool := items.any (equal x)

def field? (value : Value) (key : String) : Option Value := value.fields?.bind (Fields.get? · key)

mutual

/-- Whether one value comes before another. Lists are compared at the first place where they
differ. -/
def less? : Value → Value → Option Bool
  | text s, text t => some (s < t)
  | list xs, list ys => lessItems? xs ys
  | a, b => do return (← a.number?).less (← b.number?)

def lessItems? : List Value → List Value → Option Bool
  | [], ys => some (!ys.isEmpty)
  | _ :: _, [] => some false
  | x :: xs, y :: ys => if equal x y then lessItems? xs ys else less? x y

end

/-- The least of some values, the first of equal ones. -/
def least? : Value → List Value → Option Value
  | best, [] => some best
  | best, x :: rest => do if ← less? x best then least? x rest else least? best rest

/-- The greatest of some values, the first of equal ones. -/
def greatest? : Value → List Value → Option Value
  | best, [] => some best
  | best, x :: rest => do if ← less? best x then greatest? x rest else greatest? best rest

end Value

end Playhouse
