import Playhouse.Data.Value

/-!
Reading and setting the named fields of a record. Names are texts, on which equality of keys is
equality.
-/
namespace Playhouse
open Value

@[simp] theorem Key.beq_text (key : Key) (name : String) : ((key == .text name) = true) = (key = .text name) := by
  change (Key.equal key (.text name) = true) = _
  cases key <;> simp [Key.equal, Key.number?]

theorem Key.text_beq (name : String) (key : Key) : ((Key.text name == key) = true) = (key = .text name) := by
  change (Key.equal (.text name) key = true) = _
  cases key with
  | text other => simpa [Key.equal] using eq_comm
  | _ => simp [Key.equal, Key.number?]

namespace Fields

@[simp] theorem get?_nil (key : Key) : get? [] key = none := rfl

@[simp] theorem get?_cons (key other : Key) (value : Value) (rest : Fields) :
    get? ((other, value) :: rest) key = if other == key then some value else get? rest key := by
  simp only [get?, List.find?_cons]
  split <;> simp_all

theorem contains_eq_isSome (fields : Fields) (key : Key) : fields.contains key = (fields.get? key).isSome := by
  rw [get?, Option.isSome_map, List.isSome_find?, contains]

@[simp] theorem get?_set_self (name : String) (value : Value) (fields : Fields) :
    get? (set (.text name) value fields) (.text name) = some value := by
  induction fields with
  | nil => simp [set]
  | cons field rest ih =>
    obtain ⟨key, old⟩ := field
    by_cases same : key = .text name <;> simp [set, same, ih]

theorem get?_set_of_key_ne {name : String} {other : Key} (differs : other ≠ .text name) (value : Value)
    (fields : Fields) : get? (set (.text name) value fields) other = get? fields other := by
  have apart : ¬(Key.text name == other) = true := by
    rw [Key.text_beq]
    exact differs
  induction fields with
  | nil => simp [set, apart]
  | cons field rest ih =>
    obtain ⟨key, old⟩ := field
    by_cases same : key = .text name
    · subst same
      simp [set, apart]
    · simp [set, same, ih]

@[simp] theorem get?_set_of_ne {name other : String} (differs : other ≠ name) (value : Value) (fields : Fields) :
    get? (set (.text name) value fields) (.text other) = get? fields (.text other) :=
  get?_set_of_key_ne (fun same => differs (Key.text.inj same)) value fields

theorem erase_cons (key other : Key) (value : Value) (rest : Fields) :
    erase key ((other, value) :: rest) = if other == key then erase key rest else (other, value) :: erase key rest := by
  cases same : other == key <;> simp [erase, bne, same]

theorem get?_erase_self (name : String) (fields : Fields) : get? (erase (.text name) fields) (.text name) = none := by
  induction fields with
  | nil => rfl
  | cons field rest ih =>
    obtain ⟨key, value⟩ := field
    by_cases same : key = .text name <;> simp [erase_cons, same, ih]

theorem get?_erase_of_ne {name other : String} (differs : other ≠ name) (fields : Fields) :
    get? (erase (.text name) fields) (.text other) = get? fields (.text other) := by
  induction fields with
  | nil => rfl
  | cons field rest ih =>
    obtain ⟨key, value⟩ := field
    by_cases same : key = .text name
    · subst same
      simp [erase_cons, differs.symm, ih]
    · simp [erase_cons, same, ih]

theorem set_of_get? {key : Key} {value : Value} {fields : Fields} (held : get? fields key = some value) :
    set key value fields = fields := by
  induction fields with
  | nil => cases held
  | cons field rest ih =>
    obtain ⟨other, old⟩ := field
    rw [get?_cons] at held
    by_cases same : (other == key) = true
    · rw [if_pos same, Option.some.injEq] at held
      simp [set, same, held]
    · rw [if_neg same] at held
      simp [set, same, ih held]

end Fields

@[simp] theorem Value.equal_text (value : Value) (name : String) :
    (value.equal (.text name) = true) = (value = .text name) := by
  cases value <;> simp [equal, number?]

@[simp] theorem Value.equal_text_false (value : Value) (name : String) :
    (value.equal (.text name) = false) = (value ≠ .text name) := by
  rw [← Bool.not_eq_true, equal_text]

@[simp] theorem Value.text_equal (name : String) (value : Value) :
    ((Value.text name).equal value = true) = (value = .text name) := by
  cases value with
  | text other => simpa using eq_comm
  | _ => simp [equal, number?]

@[simp] theorem Value.field?_record (fields : Fields) (name : String) :
    (record fields).field? name = fields.get? (.text name) := rfl

end Playhouse
