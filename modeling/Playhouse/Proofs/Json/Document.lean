import Playhouse.Proofs.Data.Fields
import Playhouse.Proofs.Json.Text

/-!
The documents that JSON keeps as they are. The names of fields are texts, each there once; texts hold
no pair of units as two halves; whole numbers are short enough to be read. Setting fields and adding
items keeps a document one of these, and its nesting grows no more than what is put in. Other documents
are read as something else, if at all.
-/
open List

namespace Playhouse

namespace Value

mutual

/-- The documents that JSON keeps as they are. -/
def IsJson : Value → Prop
  | int n => (Decimal.natDigits n.natAbs).length ≤ IntegerProblem.digitLimit
  | text s => Text.Paired s.toList
  | list items => ItemsJson items
  | record fields => FieldsJson fields
  | null | bool _ | float _ => True

def ItemsJson : List Value → Prop
  | [] => True
  | item :: items => IsJson item ∧ ItemsJson items

def FieldsJson : List (Key × Value) → Prop
  | [] => True
  | (key, value) :: fields => (∃ name, key = .text name ∧ Text.Paired name.toList) ∧ IsJson value ∧
      (∀ field ∈ fields, field.1 ≠ key) ∧ FieldsJson fields

end

mutual

/-- How many lists and records are open at once inside a document. -/
def nesting : Value → Nat
  | list items => nestingItems items + 1
  | record fields => nestingFields fields + 1
  | null | bool _ | int _ | float _ | text _ => 0

def nestingItems : List Value → Nat
  | [] => 0
  | item :: items => max (nesting item) (nestingItems items)

def nestingFields : List (Key × Value) → Nat
  | [] => 0
  | (_, value) :: fields => max (nesting value) (nestingFields fields)

end

/-! ### Items -/

theorem itemsJson_append {items more : List Value} (json : ItemsJson items) (json_more : ItemsJson more) :
    ItemsJson (items ++ more) := by
  induction items with
  | nil => exact json_more
  | cons item items ih => exact ⟨json.1, ih json.2⟩

theorem nestingItems_append (items more : List Value) :
    nestingItems (items ++ more) = max (nestingItems items) (nestingItems more) := by
  induction items with
  | nil => simp [nestingItems]
  | cons item items ih =>
    simp only [cons_append, nestingItems, ih]
    omega

/-! ### Fields -/

section
variable {fields : Fields} {name : String} {value : Value}

theorem mem_set {field : Key × Value} (member : field ∈ fields.set (.text name) value) :
    field.1 = .text name ∨ field ∈ fields := by
  induction fields with
  | nil =>
    left
    rw [mem_singleton.1 member]
  | cons first rest ih =>
    obtain ⟨key, old⟩ := first
    unfold Fields.set at member
    split at member
    · rename_i same
      rw [Key.beq_text] at same
      rcases mem_cons.1 member with rfl | member
      · exact .inl same
      · exact .inr (mem_cons_of_mem _ member)
    · rcases mem_cons.1 member with rfl | member
      · exact .inr mem_cons_self
      · exact (ih member).imp_right (mem_cons_of_mem _)

theorem fieldsJson_set (json : FieldsJson fields) (paired : Text.Paired name.toList) (json_value : IsJson value) :
    FieldsJson (fields.set (.text name) value) := by
  induction fields with
  | nil => exact ⟨⟨name, rfl, paired⟩, json_value, forall_mem_nil _, trivial⟩
  | cons first rest ih =>
    obtain ⟨key, old⟩ := first
    obtain ⟨named, json_old, once, json_rest⟩ := json
    unfold Fields.set
    split
    · exact ⟨named, json_value, once, json_rest⟩
    · rename_i differs
      rw [Key.beq_text] at differs
      refine ⟨named, json_old, fun field member => ?_, ih json_rest⟩
      rcases mem_set member with same | member
      · rw [same]
        exact Ne.symm differs
      · exact once field member

theorem nestingFields_set_le (fields : Fields) (name : String) (value : Value) :
    nestingFields (fields.set (.text name) value) ≤ max (nestingFields fields) (nesting value) := by
  induction fields with
  | nil => simp [Fields.set, nestingFields]
  | cons first rest ih =>
    obtain ⟨key, old⟩ := first
    unfold Fields.set
    split <;> simp only [nestingFields] <;> omega

theorem fieldsJson_update {changes : Fields} (json : FieldsJson fields) (json_changes : FieldsJson changes) :
    FieldsJson (fields.update changes) := by
  unfold Fields.update
  induction changes generalizing fields with
  | nil => exact json
  | cons change changes ih =>
    obtain ⟨key, value⟩ := change
    obtain ⟨⟨name, rfl, paired⟩, json_value, -, json_rest⟩ := json_changes
    exact ih (fieldsJson_set json paired json_value) json_rest

theorem nestingFields_update_le {changes : Fields} (json_changes : FieldsJson changes) :
    nestingFields (fields.update changes) ≤ max (nestingFields fields) (nestingFields changes) := by
  unfold Fields.update
  induction changes generalizing fields with
  | nil => exact Nat.le_max_left _ _
  | cons change changes ih =>
    obtain ⟨key, value⟩ := change
    obtain ⟨⟨name, rfl, -⟩, -, -, json_rest⟩ := json_changes
    have step := nestingFields_set_le fields name value
    have rest := @ih (fields.set (.text name) value) json_rest
    refine Nat.le_trans rest ?_
    simp only [nestingFields]
    omega

theorem FieldsJson.get? (json : FieldsJson fields) {key : Key} (found : fields.get? key = some value) :
    IsJson value ∧ nesting value ≤ nestingFields fields := by
  induction fields with
  | nil => cases found
  | cons first rest ih =>
    obtain ⟨other, held⟩ := first
    obtain ⟨-, json_held, -, json_rest⟩ := json
    rw [Fields.get?_cons] at found
    split at found
    · cases found
      exact ⟨json_held, Nat.le_max_left _ _⟩
    · obtain ⟨json_value, below⟩ := ih json_rest found
      exact ⟨json_value, Nat.le_trans below (Nat.le_max_right _ _)⟩

end

/-! ### Fields as the pairs of a text -/

/-- The fields of a record with their names as texts. -/
def pairsOf : List (Key × Value) → List (String × Value)
  | [] => []
  | (.text name, value) :: fields => (name, value) :: pairsOf fields
  | _ :: fields => pairsOf fields

theorem foldl_set_append {before fields : Fields}
    (json : FieldsJson fields) (apart : ∀ field ∈ fields, ∀ other ∈ before, other.1 ≠ field.1) :
    ((pairsOf fields).map fun (name, value) => ((Key.text name, value) : Key × Value)).foldl
      (fun acc (key, value) => Fields.set key value acc) before = before ++ fields := by
  induction fields generalizing before with
  | nil => exact (append_nil before).symm
  | cons first rest ih =>
    obtain ⟨key, value⟩ := first
    obtain ⟨⟨name, rfl, -⟩, -, once, json_rest⟩ := json
    have appended : ∀ fields : Fields, (∀ other ∈ fields, other.1 ≠ .text name) →
        Fields.set (.text name) value fields = fields ++ [(.text name, value)] := by
      intro fields others
      induction fields with
      | nil => rfl
      | cons other fields step =>
        have differs : ¬ (other.1 == Key.text name) = true := by
          rw [Key.beq_text]
          exact others other mem_cons_self
        rw [Fields.set, if_neg differs, step (forall_mem_cons.1 others).2]
        rfl
    simp only [pairsOf, map_cons, foldl_cons]
    rw [appended before (apart _ mem_cons_self), ih json_rest, append_assoc, singleton_append]
    intro field member other held
    rcases mem_append.1 held with held | held
    · exact apart field (mem_cons_of_mem _ member) other held
    · rw [mem_singleton.1 held]
      exact Ne.symm (once field member)

theorem ofPairs_pairsOf {fields : Fields} (json : FieldsJson fields) : Fields.ofPairs (pairsOf fields) = fields :=
  foldl_set_append json fun _ _ _ held => absurd held not_mem_nil

end Value

namespace Json

/-! ### What a document is read as -/

mutual

/-- A document as it is read from its text: the halves in its texts are joined, and the names in it are texts. -/
def reread : Value → Value
  | .text s => .text (joinedText s)
  | .list items => .list (rereadItems items)
  | .record fields => .record (Fields.ofPairs (rereadFields fields))
  | .null => .null
  | .bool b => .bool b
  | .int n => .int n
  | .float x => .float x

def rereadItems : List Value → List Value
  | [] => []
  | item :: items => reread item :: rereadItems items

def rereadFields : List (Key × Value) → List (String × Value)
  | [] => []
  | (key, value) :: fields => (joinedText (keyName key), reread value) :: rereadFields fields

end

mutual

/-- What JSON keeps as it is, is reread so. -/
theorem reread_of_json : ∀ v : Value, v.IsJson → reread v = v
  | .text s, json => congrArg Value.text (joinedText_of_paired json)
  | .list items, json => congrArg Value.list (rereadItems_of_json items json)
  | .record fields, json => by
    rw [reread, rereadFields_of_json fields json, Value.ofPairs_pairsOf json]
  | .null, _ | .bool _, _ | .int _, _ | .float _, _ => rfl

theorem rereadItems_of_json : ∀ items : List Value, Value.ItemsJson items → rereadItems items = items
  | [], _ => rfl
  | item :: items, json => by
    rw [rereadItems, reread_of_json item json.1, rereadItems_of_json items json.2]

theorem rereadFields_of_json : ∀ fields : List (Key × Value), Value.FieldsJson fields →
    rereadFields fields = Value.pairsOf fields
  | [], _ => rfl
  | (key, value) :: fields, json => by
    obtain ⟨⟨name, rfl, paired⟩, json_value, -, json_rest⟩ := json
    rw [rereadFields, reread_of_json value json_value, rereadFields_of_json fields json_rest, keyName,
      joinedText_of_paired paired]
    rfl

end

end Json
end Playhouse
