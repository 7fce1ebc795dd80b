import Playhouse.Fault

/-!
Chance as a stream of numbers. Every use takes the next number; a stream that has run out gives
zeros.
-/
namespace Playhouse

structure Chance where
  upcoming : List Nat := []
  used : Nat := 0
  deriving DecidableEq

namespace Chance

def next (chance : Chance) : Nat × Chance :=
  (chance.upcoming.headD 0, ⟨chance.upcoming.tail, chance.used + 1⟩)

/-- One of the options. An empty list takes no number. -/
def pick {α : Type} (options : List α) : Act Chance α := do
  if options.isEmpty then throw .emptyChoice
  let (number, rest) := (← get).next
  set rest
  match options[number % options.length]? with
  | some option => return option
  | none => throw .emptyChoice

def between (low high : Nat) : Act Chance Nat := do
  let (number, rest) := (← get).next
  set rest
  return low + number % (high - low + 1)

/-- A number of hundredths below one. -/
def hundredths : Act Chance Nat := do
  let (number, rest) := (← get).next
  set rest
  return number % 100

end Chance

/-- One of the elements of a document: a list item or a character of a text. -/
def Value.pick (options : Value) : Act Chance Value := do
  match options with
  | .list items => Chance.pick items
  | .text s => Chance.pick (s.toList.map fun c => .text (String.singleton c))
  | .record [] => throw .emptyChoice
  | .record fields =>
    let place ← Chance.between 0 (fields.length - 1)
    throw (.missingKey (.int place))
  | other => throw (.mismatch (.noLength other.kind))

end Playhouse
