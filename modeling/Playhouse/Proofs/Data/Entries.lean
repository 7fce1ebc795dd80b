import Mathlib.Data.List.Nodup
import Playhouse.Data.Entries

/-!
Setting the value of a key changes the entry of that key and no other. What it does to the entries follows from where
the key stands among them.
-/
namespace Playhouse.Entries
open List Prod

variable {α β : Type} {same : α → Bool} {key held : α} {old : β} {entries before after : List (α × β)}

theorem put_of_absent (absent : ∀ entry ∈ entries, same entry.1 = false) (value : β) :
    put same key value entries = entries ++ [(key, value)] := by
  induction entries with
  | nil => rfl
  | cons first rest ih =>
    rw [forall_mem_cons] at absent
    simp [put, absent.1, ih absent.2]

theorem put_append (absent : ∀ entry ∈ before, same entry.1 = false) (here : same held = true) (value : β) :
    put same key value (before ++ (held, old) :: after) = before ++ (held, value) :: after := by
  induction before with
  | nil => simp [put, here]
  | cons first rest ih =>
    rw [forall_mem_cons] at absent
    simp [put, absent.1, ih absent.2]

/-- No entry has the key, and the new one comes at the end, or there is a first one that has it. -/
theorem absent_or_place (same : α → Bool) (key : α) (entries : List (α × β)) :
    ((∀ entry ∈ entries, same entry.1 = false) ∧ ∀ value, put same key value entries = entries ++ [(key, value)]) ∨
    ∃ before held old after, entries = before ++ (held, old) :: after ∧ same held = true ∧
      (∀ entry ∈ before, same entry.1 = false) ∧ ∀ value, put same key value entries = before ++ (held, value) :: after := by
  cases found : entries.find? fun entry => same entry.1 with
  | none =>
    have absent : ∀ entry ∈ entries, same entry.1 = false := by simpa using found
    exact .inl ⟨absent, put_of_absent absent⟩
  | some entry =>
    obtain ⟨here, before, after, rfl, absent⟩ := find?_eq_some_iff_append.1 found
    replace absent : ∀ entry ∈ before, same entry.1 = false := by simpa using absent
    exact .inr ⟨before, entry.1, entry.2, after, rfl, here, absent, put_append absent here⟩

/-- The test for a key holds of that key only. -/
def Tests (same : α → Bool) (key : α) : Prop := ∀ held, same held = true ↔ held = key

theorem tests_beq [BEq α] [LawfulBEq α] (key : α) : Tests (· == key) key := fun _ => beq_iff_eq

section
variable (tests : Tests same key)
include tests

theorem Tests.absent_iff : (∀ entry ∈ entries, same entry.1 = false) ↔ key ∉ entries.map fst := by
  simp only [← Bool.not_eq_true, tests _, mem_map, not_exists, not_and]

theorem Tests.place (entries : List (α × β)) :
    (key ∉ entries.map fst ∧ ∀ value, put same key value entries = entries ++ [(key, value)]) ∨
    ∃ before old after, entries = before ++ (key, old) :: after ∧ key ∉ before.map fst ∧
      ∀ value, put same key value entries = before ++ (key, value) :: after := by
  rcases absent_or_place same key entries with ⟨absent, puts⟩ | ⟨before, held, old, after, split, here, absent, puts⟩
  · exact .inl ⟨tests.absent_iff.1 absent, puts⟩
  · obtain rfl := (tests held).1 here
    exact .inr ⟨before, old, after, split, tests.absent_iff.1 absent, puts⟩

theorem put_put (value later : β) (entries : List (α × β)) :
    put same key later (put same key value entries) = put same key later entries := by
  have here : same key = true := (tests key).2 rfl
  rcases tests.place entries with ⟨absent, puts⟩ | ⟨before, old, after, -, absent, puts⟩ <;>
    rw [puts, puts, put_append (tests.absent_iff.2 absent) here]

theorem filter_put (value : β) (entries : List (α × β)) :
    ((put same key value entries).filter fun entry => !same entry.1) = entries.filter fun entry => !same entry.1 := by
  have here : same key = true := (tests key).2 rfl
  rcases tests.place entries with ⟨-, puts⟩ | ⟨before, old, after, rfl, -, puts⟩ <;> simp [puts, here]

theorem mem_keys_put (other : α) (value : β) (entries : List (α × β)) :
    other ∈ (put same key value entries).map fst ↔ other = key ∨ other ∈ entries.map fst := by
  rcases tests.place entries with ⟨-, puts⟩ | ⟨before, old, after, rfl, -, puts⟩
  · simp [puts, or_comm]
  · simp only [puts, map_append, map_cons, mem_append, mem_cons]
    tauto

theorem nodup_put (once : (entries.map fst).Nodup) (value : β) : ((put same key value entries).map fst).Nodup := by
  rcases tests.place entries with ⟨absent, puts⟩ | ⟨before, old, after, rfl, -, puts⟩
  · rw [puts, map_append, nodup_append_comm]
    exact nodup_cons.2 ⟨absent, once⟩
  · simpa [puts] using once

theorem mem_put (once : (entries.map fst).Nodup) (value : β) (entry : α × β) :
    entry ∈ put same key value entries ↔ entry = (key, value) ∨ entry ∈ entries ∧ entry.1 ≠ key := by
  have other {part : List (α × β)} (absent : key ∉ part.map fst) (member : entry ∈ part) : entry.1 ≠ key :=
    fun this => absent (mem_map.2 ⟨entry, member, this⟩)
  rcases tests.place entries with ⟨absent, puts⟩ | ⟨before, old, after, rfl, absent, puts⟩
  · have apart := other absent
    simp only [puts, mem_append, mem_singleton]
    tauto
  · rw [map_append, map_cons, nodup_middle, nodup_cons, mem_append, not_or] at once
    have apart := other absent
    have later := other once.1.2
    have here : entry = (key, old) → entry.1 = key := fun this => this ▸ rfl
    simp only [puts, mem_append, mem_cons]
    tauto

theorem countP_put_le (counts : α × β → Bool) (value : β) (entries : List (α × β)) :
    (put same key value entries).countP counts ≤ entries.countP counts + if counts (key, value) then 1 else 0 := by
  rcases tests.place entries with ⟨-, puts⟩ | ⟨before, old, after, rfl, -, puts⟩
  · rw [puts]
    exact Nat.le_of_eq (by rw [countP_append, countP_singleton])
  · rw [puts, countP_append, countP_append, countP_cons, countP_cons]
    omega

/-- What is found under a key, once the value of a key has been set. -/
theorem find?_put {test : α → Bool} {other : α} (tests_other : Tests test other) (value : β) (entries : List (α × β)) :
    ((put same key value entries).find? fun entry => test entry.1).map snd =
      if test key then some value else (entries.find? fun entry => test entry.1).map snd := by
  have unfound {part : List (α × β)} (hit : test key = true) (absent : key ∉ part.map fst) :
      (part.find? fun entry => test entry.1) = none := by
    rw [find?_eq_none]
    exact fun entry member found => absent (mem_map.2 ⟨entry, member, by simp_all [Tests]⟩)
  rcases tests.place entries with ⟨absent, puts⟩ | ⟨before, old, after, rfl, absent, puts⟩ <;> cases hit : test key
  · simp [puts, find?_append, hit]
  · simp [puts, find?_append, hit, unfound hit absent]
  · simp [puts, find?_append, hit]
  · simp [puts, find?_append, hit, unfound hit absent]

end

/-- Setting the values of new keys one after the other adds them at the end. -/
theorem foldl_put {test : α → α → Bool} (tests : ∀ key, Tests (test key) key) {more : List (α × β)}
    (once : ((entries ++ more).map fst).Nodup) :
    more.foldl (fun entries entry => put (test entry.1) entry.1 entry.2 entries) entries = entries ++ more := by
  induction more generalizing entries with
  | nil => exact (append_nil entries).symm
  | cons entry more ih =>
    have absent : entry.1 ∉ entries.map fst := by
      rw [map_append, map_cons] at once
      exact fun member => (nodup_append.1 once).2.2 _ member _ mem_cons_self rfl
    rw [append_cons] at once ⊢
    rw [foldl_cons, put_of_absent ((tests _).absent_iff.2 absent)]
    exact ih once

end Playhouse.Entries
