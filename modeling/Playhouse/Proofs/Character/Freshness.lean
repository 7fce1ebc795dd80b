import Playhouse.Character.History
import Playhouse.Proofs.Data.Measure
import Playhouse.Proofs.Act

/-!
Options that are fresh. What is picked is one of the options, and no remembered character has it as long as that can be
had. A history forgets, so it can be had whenever there are more options than the history keeps characters.
-/
namespace Playhouse
open List Act Value

variable {value : Value}

namespace History

/-- What the remembered characters have under a key. -/
def values (history : History) (key : Key) : List Value :=
  history.characters.filterMap fun old => old.fields?.bind (·.get? key)

/-- The remembered characters are records, and what they have under a key can be a key itself. -/
def Hashable (history : History) (key : Key) : Prop :=
  ∀ old ∈ history.characters, ∃ fields : Fields, old = .record fields ∧
    ∀ value, fields.get? key = some value → value.isKey = true

/-- No remembered character has an option under a key. -/
def Lacks (history : History) (key : Key) (option : Value) : Prop :=
  ∀ value ∈ history.values key, option.equal value = false

variable {history : History} {key : Key} {options : List Value}

theorem key?_value (key : Key) : key.value.key? = some key := by cases key <;> rfl

theorem isIn_record (fields : Fields) (key : Key) : key.value.isIn (.record fields) = .ok (fields.get? key).isSome := by
  simp only [isIn, isKeyOf, key?_value, Fields.contains, Fields.get?, Option.isSome_map, isSome_find?]

theorem used_eq (hashable : history.Hashable key) : history.used key.value = .ok (history.values key) := by
  have each : ∀ old ∈ history.characters, (do
      if !(← key.value.isIn old) then return none
      let value ← old.item key.value
      if value.isKey then return some value else throw (.mismatch (.notKey value.kind)) : Except Fault (Option Value)) =
        .ok (old.fields?.bind (·.get? key)) := by
    intro old member
    obtain ⟨fields, rfl, keys⟩ := hashable old member
    rw [isIn_record]
    cases found : fields.get? key with
    | none => simp [found, fields?]
    | some value =>
      simp [item, need, key?_value, keys value found, found, fields?]
  unfold used
  rw [mapM_eq_map each]
  simp [values, filterMap_map]

theorem lacks_iff (option : Value) : history.Lacks key option ↔ option.memberOf (history.values key) = false := by
  simp [Lacks, memberOf]

/-- The options that are not taken, or all of them if there is none. -/
def choices (options taken : List Value) : List Value :=
  match options.filter fun option => !option.memberOf taken with
  | [] => options
  | free => free

theorem mem_choices {taken : List Value} {choice : Value} (member : choice ∈ choices options taken) :
    choice ∈ options ∧ ((∃ option ∈ options, option.memberOf taken = false) → choice.memberOf taken = false) := by
  unfold choices at member
  split at member
  · rename_i none_free
    refine ⟨member, fun ⟨option, among, free⟩ => ?_⟩
    simpa [free] using filter_eq_nil_iff.1 none_free option among
  · obtain ⟨among, free⟩ := mem_filter.1 member
    exact ⟨among, fun _ => by simpa using free⟩

theorem choices_ne_nil (some_ : options ≠ []) (taken : List Value) : choices options taken ≠ [] := by
  unfold choices
  split <;> assumption

section
variable (hashable : history.Hashable key)
include hashable

theorem fresh_eq (keys : ∀ option ∈ options, option.isKey = true) (chance : Chance) :
    (history.fresh (.list options) key.value).runFrom chance =
      (Chance.pick (choices options (history.values key))).runFrom chance := by
  unfold fresh
  split
  · rename_i empty
    have all : choices options [] = options := by
      unfold choices
      split <;> simp_all [memberOf]
    rw [List.isEmpty_iff] at empty
    simp [values, empty, all, Value.pick]
  · -- every option can be a key, so the check of the options passes
    have checks : (forIn options PUnit.unit fun option _ =>
        if (!option.isKey) = true then do
          let _ ← (throw (.mismatch (.notKey option.kind)) : Act Chance PUnit)
          pure (ForInStep.yield PUnit.unit)
        else pure (ForInStep.yield PUnit.unit) : Act Chance PUnit).runFrom chance = (.ok ⟨⟩, chance) := by
      clear hashable
      induction options with
      | nil => rfl
      | cons option rest ih =>
        rw [forall_mem_cons] at keys
        rw [forIn_cons, runFrom_bind, keys.1]
        exact ih keys.2
    simp only [runFrom_bind, used_eq hashable, runFrom_liftM, Value.elements, checks, choices]
    generalize filter _ options = free
    cases free <;> rfl

/-- What is picked is an option, and a fresh one if there is any. -/
theorem fresh_run (keys : ∀ option ∈ options, option.isKey = true)
    (some_ : options ≠ []) (chance : Chance) :
    ∃ choice ∈ options, (history.fresh (.list options) key.value).runFrom chance = (.ok choice, chance.next.2) ∧
      ((∃ option ∈ options, history.Lacks key option) → history.Lacks key choice) := by
  obtain ⟨choice, among, picks⟩ := Chance.pick_run (choices_ne_nil some_ (history.values key)) chance
  obtain ⟨member, free⟩ := mem_choices among
  refine ⟨choice, member, (fresh_eq hashable keys chance).trans picks, ?_⟩
  simpa only [lacks_iff] using free

theorem isKey_of_mem_values (member : value ∈ history.values key) :
    value.isKey = true := by
  obtain ⟨old, remembered, has⟩ := mem_filterMap.1 member
  obtain ⟨fields, rfl, keys⟩ := hashable old remembered
  exact keys value has

/-- Among options that differ from each other, more than there are remembered characters, one is fresh. -/
theorem exists_lacks (apart : options.Pairwise fun a b => a.equal b = false)
    (more : history.characters.length < options.length) : ∃ option ∈ options, history.Lacks key option := by
  by_contra none
  -- otherwise each option equals a value that is held, and no value equals two of them
  have held : ∀ option ∈ options, ∃ value ∈ history.values key, option.equal value = true := by
    simpa [lacks_iff, memberOf] using none
  choose! partner inside same using held
  have once : (options.map partner).Nodup := by
    refine pairwise_map.2 (apart.imp_of_mem fun {a b} first second differ shared => ?_)
    have key_b := isKey_of_mem_values hashable (inside b second)
    have equal := same a first
    rw [shared, ← equal_congr key_b (same b second)] at equal
    rw [equal] at differ
    cases differ
  have fits := (subperm_of_subset once fun _ => forall_mem_map.2 inside _).length_le
  rw [length_map] at fits
  have few : (history.values key).length ≤ history.characters.length := length_filterMap_le _ _
  omega

end

/-! ### What is remembered -/

/-- The history of characters that were added one after another. -/
def remembering (limit : Option Nat) (added : List Value) : History :=
  added.foldl (fun history character => history.add character) { limit }

theorem limit_add (character : Value) (history : History) : (history.add character).limit = history.limit := by
  unfold add
  split <;> simp_all

theorem length_add_le {limit : Nat} (character : Value) (limited : history.limit = some limit) :
    (history.add character).characters.length ≤ limit := by
  simp only [add, limited, length_drop]
  omega

theorem length_remembering_le (limit : Nat) (added : List Value) :
    (remembering limit added).characters.length ≤ limit := by
  have kept : ∀ history : History, history.limit = some limit ∧ history.characters.length ≤ limit →
      (added.foldl (fun history character => history.add character) history).characters.length ≤ limit := by
    induction added with
    | nil => exact fun _ few => few.2
    | cons character rest ih =>
      intro history few
      exact ih _ ⟨(limit_add _ _).trans few.1, length_add_le _ few.1⟩
  exact kept _ ⟨rfl, Nat.zero_le _⟩

/-- Whatever the history and whatever chance brings, one of the options is picked. None of the remembered characters has
it under the key, if that holds of any option; and it holds of one whenever, however many characters were added, more
options differ from each other than the history keeps. -/
theorem fresh_avoids_remembered (history : History) (key : Key) (options : List Value) (chance : Chance)
    (hashable : history.Hashable key) (keys : ∀ option ∈ options, option.isKey = true) (some_ : options ≠ []) :
    (∃ choice ∈ options, (history.fresh (.list options) key.value).runFrom chance = (.ok choice, chance.next.2) ∧
      ((∃ option ∈ options, history.Lacks key option) → history.Lacks key choice)) ∧
    ∀ (limit : Nat) (added distinct : List Value), history = remembering limit added → distinct ⊆ options →
      distinct.Pairwise (fun a b => a.equal b = false) → limit < distinct.length →
      ∃ option ∈ options, history.Lacks key option := by
  refine ⟨fresh_run hashable keys some_ chance, ?_⟩
  rintro limit added distinct rfl among apart more
  obtain ⟨option, member, lacks⟩ := exists_lacks hashable apart ((length_remembering_le limit added).trans_lt more)
  exact ⟨option, among member, lacks⟩

/-- Of three options, one name is taken and another is the number that true counts as. -/
theorem third_option_is_fresh :
    let named (name : Value) : Value := .record [("name", name)]
    let history := remembering (some 2) [named (.text "Bo"), named (.bool true), named (.text "Ann")]
    let options : List Value := [.int 1, .text "Ann", .text "Bo"]
    ∃ choice ∈ options, ((history.fresh (.list options) (.text "name")).runFrom {}).1 = .ok choice ∧
      history.Lacks "name" choice := by
  intro named history options
  have hashable : history.Hashable "name" := by
    intro old member
    have among : old ∈ [named (.bool true), named (.text "Ann")] := member
    simp only [named, mem_cons, not_mem_nil, or_false] at among
    obtain rfl | rfl := among <;> exact ⟨_, rfl, by simp [isKey, key?]⟩
  obtain ⟨⟨choice, member, picks, fresh⟩, found⟩ := fresh_avoids_remembered history "name" options {} hashable
    (by simp [options, isKey, key?]) (by simp [options])
  refine ⟨choice, member, congrArg (·.1) picks, fresh (found 2 _ options rfl (fun _ => id) ?_ (by decide))⟩
  simp [options]

end History
end Playhouse
