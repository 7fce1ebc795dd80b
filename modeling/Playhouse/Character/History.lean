import Playhouse.Data.Access
import Playhouse.World.Chance

/-!
The characters cast most recently. A history remembers at most `limit` of them, the oldest leaving
first; options that one of them has are avoided while others are left.
-/
namespace Playhouse

structure History where
  limit : Option Nat := some 3
  characters : List Value := []

namespace History

/-- An empty history with a limit given as a document: a whole number or nothing. -/
def ofLimit : Value → Except Fault History
  | .null => .ok { limit := none }
  | value =>
    match value with
    | .int n => if n < 0 then .error .negativeLength else .ok { limit := some n.toNat }
    | .bool b => .ok { limit := some (if b then 1 else 0) }
    | _ => .error (.mismatch .integerNeeded)

/-- Remembers a character and forgets the oldest ones beyond the limit. -/
def add (character : Value) (history : History) : History :=
  let all := history.characters ++ [character]
  match history.limit with
  | none => { history with characters := all }
  | some limit => { history with characters := all.drop (all.length - limit) }

def shared (traits : Fields) (old : Value) : Except Fault Nat := do
  let common ← traits.filterM fun (key, value) => do
    if ← key.value.isIn old then return (← old.item key.value).equal value else return false
  return common.length

/-- A number above another, for operands that have an order. -/
def above (left : Float) (right : Value) : Except Fault Bool :=
  match right.number? with
  | some n => .ok (n.less (.float left))
  | none => .error (.mismatch (.unordered ">" "float" right.kind))

/-- Whether traits share more than a part of their entries with one of the characters. -/
def similarTo (traits : Fields) (threshold : Value) : List Value → Except Fault Bool
  | [] => .ok false
  | old :: rest => do
    let count ← shared traits old
    if traits.isEmpty then throw .divisionByZero
    let part := Float.ofNat count / Float.ofNat traits.length
    if ← above part threshold then return true else similarTo traits threshold rest

/-- Whether traits are like those of a remembered character; with none remembered, nothing is. -/
def isSimilar (history : History) (traits threshold : Value) : Except Fault Bool := do
  if history.characters.isEmpty then return false
  similarTo (← traits.needRecord "items") threshold history.characters

def standardThreshold : Value := .float 0.3

/-- The values that the remembered characters have under a key. -/
def used (history : History) (key : Value) : Except Fault (List Value) := do
  let values ← history.characters.mapM fun character => do
    if !(← key.isIn character) then return none
    let value ← character.item key
    if value.isKey then return some value else throw (.mismatch (.notKey value.kind))
  return values.filterMap id

end History

/-- An option that no remembered character has, while there is one; otherwise any. -/
def History.fresh (history : History) (options key : Value) : Act Chance Value := do
  if history.characters.isEmpty then options.pick
  else
    let taken ← liftM (history.used key)
    let items ← liftM options.elements
    for option in items do
      if !option.isKey then throw (.mismatch (.notKey option.kind))
    match items.filter fun option => !option.memberOf taken with
    | [] => options.pick
    | free => Chance.pick free

end Playhouse
