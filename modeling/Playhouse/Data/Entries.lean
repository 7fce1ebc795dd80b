/-!
Entries by key, in the order in which the keys first came.
-/
namespace Playhouse.Entries

/-- Sets the value of a key: in the place of the first entry under the same key, or at the end if there is none. -/
def put {α β : Type} (same : α → Bool) (key : α) (value : β) : List (α × β) → List (α × β)
  | [] => [(key, value)]
  | (held, old) :: rest => if same held then (held, value) :: rest else (held, old) :: put same key value rest

end Playhouse.Entries
