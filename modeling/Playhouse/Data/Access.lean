import Playhouse.Fault

/-!
Operations on documents whose kind is not known beforehand. Each gives the fault that fits the kinds
of its operands.
-/
namespace Playhouse
namespace Value

/-- A record, for an operation that only records have. -/
def needRecord (operation : String) : Value → Except Fault Fields
  | record fields => .ok fields
  | value => .error (.missingMember value.kind operation)

/-- The value under a key of a record, or a substitute; only records can be asked. -/
def lookup (value : Value) (key : String) (substitute : Value) : Except Fault Value := do
  return ((← value.needRecord "get").get? key).getD substitute

def entry (value : Value) (key : String) : Except Fault Value :=
  match value with
  | record fields => need fields (.text key)
  | list _ => .error (.mismatch (.listIndex "str"))
  | text _ => .error (.mismatch (.textIndex "str"))
  | other => .error (.mismatch (.notIndexable other.kind))

/-- The item or character at a place, or the value under a number. -/
def nth (value : Value) (n : Nat) : Except Fault Value :=
  match value with
  | list items =>
    match items[n]? with
    | some item => .ok item
    | none => .error .pastEnd
  | text s =>
    match s.toList[n]? with
    | some c => .ok (.text (String.singleton c))
    | none => .error .pastTextEnd
  | record fields => need fields (.int n)
  | other => .error (.mismatch (.notIndexable other.kind))

/-- The place in a row of `length` that a whole number means; a negative one counts from the end. -/
def placeIn (length : Nat) (n : Int) : Option Nat :=
  if 0 ≤ n then some n.toNat
  else if -(length : Int) ≤ n then some (length - n.natAbs)
  else none

/-- What a value has under a key: a field, an item or a character. -/
def item (value key : Value) : Except Fault Value :=
  let among (length : Nat) (past : Fault) (wrong : String → Mismatch) : Except Fault Value :=
    match key, key.number? with
    | .float _, _ | _, none => .error (.mismatch (wrong key.kind))
    | _, some n =>
      match (n.truncate?).bind (placeIn length) with
      | some place => value.nth place
      | none => .error past
  match value with
  | record fields =>
    match key.key? with
    | some key => need fields key
    | none => .error (.mismatch (.notKey key.kind))
  | list items => among items.length .pastEnd .listIndex
  | text s => among s.length .pastTextEnd .textIndex
  | other => .error (.mismatch (.notIndexable other.kind))

def size : Value → Except Fault Nat
  | text s => .ok s.length
  | list items => .ok items.length
  | record fields => .ok fields.length
  | other => .error (.mismatch (.noLength other.kind))

def isKeyOf (key : Value) (fields : Fields) : Except Fault Bool :=
  match key.key? with
  | some key => .ok (fields.contains key)
  | none => .error (.mismatch (.notKey key.kind))

/-- Whether a value is in another: an item of a list, a part of a text, or a key of a record. -/
def isIn (x container : Value) : Except Fault Bool :=
  match container with
  | list items => .ok (x.memberOf items)
  | record fields => x.isKeyOf fields
  | text s =>
    match x with
    | text part => .ok (occursIn part s)
    | other => .error (.mismatch (.notPart other.kind))
  | other => .error (.mismatch (.notContainer other.kind))

def less (a b : Value) : Except Fault Bool :=
  match less? a b with
  | some answer => .ok answer
  | none => .error (.mismatch (.unordered "<" a.kind b.kind))

def atLeast (a : Value) (n : Int) : Except Fault Bool :=
  match a.number? with
  | some x => .ok ((Number.int n).lessEq x)
  | none => .error (.mismatch (.unordered ">=" a.kind "int"))

/-- A value times a whole number: texts and lists are repeated. -/
def times (value : Value) (n : Nat) : Except Fault Value :=
  match value with
  | text s => .ok (.text (String.join (List.replicate n s)))
  | list items => .ok (.list (List.replicate n items).flatten)
  | other =>
    match other.number? with
    | some x => .ok (.ofNumber (x.mul (.int n)))
    | none => .error (.mismatch (.unsupported "*" other.kind "int"))

/-- A hundredth of a value. For a whole number of any size it is the nearest float, if there is
one. -/
def hundredth (value : Value) : Except Fault Float :=
  match value.number? with
  | some (.int n) =>
    let size := Float.ofScientific n.natAbs true 2
    if size.isInf then .error .hugeQuotient else .ok (if n < 0 then -size else size)
  | some (.float x) => .ok (x / 100)
  | none => .error (.mismatch (.unsupported "/" value.kind "int"))

/-- The float next to a number; there is none for a whole number beyond all floats. -/
def nearest (x : Number) : Except Fault Float :=
  match x.toFloat? with
  | some x => .ok x
  | none => .error .hugeNumber

/-- A pair as lists and texts of two elements give it. -/
def pairAt (place : Nat) (value : Value) : Except Fault (Value × Value) :=
  match value.elements with
  | .error _ => .error (.mismatch (.notPair place))
  | .ok [key, content] => .ok (key, content)
  | .ok items => .error (.pairLength place items.length)

/-- Sets fields from pairs, in order, until one is no pair. -/
def setPairs : Fields → Nat → List Value → Fields × Option Fault
  | fields, _, [] => (fields, none)
  | fields, place, item :: rest =>
    match pairAt place item with
    | .error fault => (fields, some fault)
    | .ok (key, content) =>
      match key.key? with
      | some key => setPairs (fields.set key content) (place + 1) rest
      | none => (fields, some (.mismatch (.notKey key.kind)))

end Value

namespace Fields

/-- Sets fields from another record or from a list of pairs, and the fault that stopped it. -/
def mergeFrom (fields : Fields) (changes : Value) : Fields × Option Fault :=
  match changes with
  | .record other => (fields.update other, none)
  | other =>
    match other.elements with
    | .error fault => (fields, some fault)
    | .ok items => Value.setPairs fields 0 items

def merge (fields : Fields) (changes : Value) : Except Fault Fields :=
  match fields.mergeFrom changes with
  | (merged, none) => .ok merged
  | (_, some fault) => .error fault

end Fields
end Playhouse
