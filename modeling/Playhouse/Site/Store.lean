import Playhouse.Site.Cell

/-!
The database of the site. A table keeps its rows in the order in which they came; a dropped table
refuses every statement until it is made again. A statement that fails changes nothing.
-/
namespace Playhouse.Site

/-- The changes that a table can be told to refuse. -/
inductive Change where
  | insert | update
  deriving DecidableEq

structure Table where
  rows : List Fields := []
  refused : List Change := []
  /-- Whether the declared lengths of texts are insisted on; not every database does. -/
  strict : Bool := false

structure Store where
  tables : List (Model × Table)
  /-- The time with which new rows are stamped. -/
  clock : Moment := ⟨0⟩

/-- A password as it is kept. -/
def sealed (password : String) : Value := .record [("password", .text password)]

def cell (row : Fields) (column : Key) : Value := (row.get? column).getD .null

def rowId (row : Fields) : Int :=
  match cell row "id" with
  | .int n => n
  | _ => 0

/-- The date in a column, if there is one. -/
def dateIn (row : Fields) (column : Key) : Option Int :=
  match cell row column with
  | .int micros => some micros
  | _ => none

namespace Store

/-- The database with all tables and no rows. -/
def fresh : Store := { tables := Model.all.map fun model => (model, {}) }

def table? (store : Store) (model : Model) : Option Table := store.tables.lookup model

def complete (store : Store) : Store :=
  { store with tables := Model.all.map fun model => (model, (store.table? model).getD {}) }

def put (model : Model) (table : Table) (store : Store) : Store :=
  { store with tables := store.tables.map fun (other, old) => if other = model then (other, table) else (other, old) }

def drop (model : Model) (store : Store) : Store :=
  { store with tables := store.tables.filter fun (other, _) => other ≠ model }

/-- Lets a table refuse a change from now on. -/
def refuse (model : Model) (change : Change) (store : Store) : Store :=
  match store.table? model with
  | some table => store.put model { table with refused := change :: table.refused }
  | none => store

/-- The rows of a table, oldest first. -/
def history (store : Store) (model : Model) : Except Fault (List Fields) :=
  match store.table? model with
  | some table => .ok table.rows
  | none => .error (.database .noTable)

/-- The rows of a table, by number. -/
def rows (store : Store) (model : Model) : Except Fault (List Fields) := do
  return (← store.history model).mergeSort fun a b => rowId a ≤ rowId b

/-- The rows with a value in a column, by number. -/
def rowsWith (store : Store) (model : Model) (column : String) (value : Value) :
    Except Fault (List Fields) := do
  return (← store.rows model).filter fun row => (cell row column).equal value

/-- The row of a number; numbers that no column can hold cannot be asked for. -/
def find (store : Store) (model : Model) (id : Int) : Except Fault (Option Fields) :=
  match store.history model with
  | .error fault => .error fault
  | .ok rows =>
    if fits id then .ok (rows.find? fun row => rowId row == id) else .error (.database .tooLarge)

/-- The row of a number that is given as a text. -/
def findWritten (store : Store) (model : Model) (id : String) : Except Fault (Option Fields) := do
  let rows ← store.history model
  return ((Numeral.ofText? id).bind Numeral.integer?).bind fun n =>
    rows.find? fun row => rowId row == n

/-- The value that a new row has in a column. A document that is explicitly nothing counts as a
value; anything else that is nothing gets the standard of the column. -/
def given (values : Fields) (column : Column) : Option Value :=
  match values.get? column.name with
  | some .null => if column.kind = .document then some .null else none
  | given => given

/-- What stands in for a missing value at some time. A date is kept as its microseconds. -/
def standardAt (now : Moment) (column : Column) : Value :=
  if column.stamped then .int now.micros else column.standard

def rowFor (now : Moment) (id : Int) (model : Model) (values : Fields) : Except DatabaseProblem Fields := do
  let cells ← model.columns.mapM fun column => do
    let value := (given values column).getD (standardAt now column)
    return (Key.text column.name, ← column.kind.store value)
  return ("id", .int id) :: cells

/-- Whether every column that needs a value has one. -/
def isFilled (model : Model) (values : Fields) : Bool :=
  model.columns.all fun column =>
    !column.required || (given values column).isSome

/-- Whether a new row shares no value with an old one where rows have to differ. -/
def isDistinct (model : Model) (row : Fields) (rows : List Fields) : Bool :=
  rows.all fun old => rowId old != rowId row &&
    model.columns.all fun column => !column.unique || (cell row column.name).equal .null
      || !(cell old column.name).equal (cell row column.name)

/-- Whether no text of some cells is longer than its column declares. -/
def isShort (model : Model) (cells : Fields) : Bool :=
  model.columns.all fun column =>
    match column.most, cell cells column.name with
    | some most, .text text => text.length ≤ most
    | _, _ => true

/-- The number for the next row: one more than the largest so far. -/
def nextId (rows : List Fields) : Int := rows.foldl (fun n row => max n (rowId row)) 0 + 1

/-- The number that a new row asks for, or the next one. -/
def idFor (values : Fields) (rows : List Fields) : Except DatabaseProblem Int :=
  match values.get? "id" with
  | some (.int n) => .ok n
  | some (.bool b) => .ok (if b then 1 else 0)
  | none | some .null => .ok (nextId rows)
  | some _ => .error .constraint

def insert? (model : Model) (values : Fields) (store : Store) :
    Except DatabaseProblem (Int × Store) := do
  if !(model.columns.all fun column => column.kind.admits ((given values column).getD .null)) then
    throw .badValue
  let some table := store.table? model | throw .noTable
  let id ← idFor values table.rows
  let row ← rowFor store.clock id model values
  if table.refused.contains .insert || !isFilled model values || !isDistinct model row table.rows then
    throw .constraint
  if table.strict && !isShort model row then throw .badValue
  return (id, store.put model { table with rows := table.rows ++ [row] })

/-- Changes columns of a row. Values that the row has already change nothing and need no
statement. -/
def update? (model : Model) (id : Int) (changes : Fields) (store : Store) :
    Except DatabaseProblem Store := do
  let some table := store.table? model | throw .noTable
  let some row := table.rows.find? fun row => rowId row == id | return store
  if changes.all fun (column, value) => (cell row column).equal value then return store
  if table.refused.contains .update then throw .constraint
  if table.strict && !isShort model changes then throw .badValue
  return store.put model { table with
    rows := table.rows.map fun row => if rowId row == id then row.update changes else row }

/-- Adds a row, as a step of work on a database. -/
def insert (model : Model) (values : Fields) : Act Store Int := do
  match insert? model values (← get) with
  | .error problem => throw (.database problem)
  | .ok (id, store) => set store; return id

def update (model : Model) (id : Int) (changes : Fields) : Act Store Unit := do
  match update? model id changes (← get) with
  | .error problem => throw (.database problem)
  | .ok store => set store

/-- Work that is undone when it fails. -/
def wholly {α : Type} (work : Act Store α) : Act Store α := do
  let before ← get
  match ← work.outcome with
  | .ok result => return result
  | .error fault => set before; throw fault

/-- What is shown of a table: its rows by number, without passwords and dates. -/
def listing (store : Store) (model : Model) : Except Fault (List Fields) := do
  let hidden := model.columns.filter fun column => column.kind = .secret || column.kind = .date
  return (← store.rows model).map fun row => hidden.foldl (fun row column => row.erase column.name) row

end Store
end Playhouse.Site
