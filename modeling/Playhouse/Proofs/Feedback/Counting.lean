import Playhouse.Feedback.Basic
import Playhouse.Proofs.Act
import Playhouse.Proofs.Data.Measure

/-!
Counting feedback and sorting it into training data. Counting files a mark under its key, and sorting compares each
mark with thumbs up and with thumbs down. Equality of keys is an equivalence whatever their kinds, but for what is no
number, and that is a key of its own, so the two agree.
-/
namespace Playhouse.Feedback
open Value List Summary

/-! ### Keys -/

section
variable {a b c : Value}

theorem isOneKey_of_self (self : b.equal b = true) (a : Value) : isOneKey a b = a.equal b := by simp [isOneKey, self]

theorem isOneKey_congr (key_a : a.isKey = true) (key_b : b.isKey = true) (same : isOneKey a b = true) (c : Value) :
    isOneKey c a = isOneKey c b := by
  rcases (Bool.or_eq_true _ _).mp same with equal | strange
  · have self : a.equal a = b.equal b := by rw [equal_left_congr key_b equal, equal_congr key_b equal]
    rw [isOneKey, isOneKey, equal_congr key_b equal, self]
  · have strange : a.equal a = false ∧ b.equal b = false := by simpa using strange
    have apart {d : Value} (key : d.isKey = true) (other : d.equal d = false) : c.equal d = false := by
      rw [Bool.eq_false_iff]
      intro equal
      cases (equal_left_congr key equal d ▸ equal).symm.trans other
    rw [isOneKey, isOneKey, apart key_a strange.1, apart key_b strange.2, strange.1, strange.2]

theorem isOneKey_left_congr (key_b : b.isKey = true) (key_c : c.isKey = true) (same : isOneKey a b = true) :
    isOneKey a c = isOneKey b c := by
  rcases (Bool.or_eq_true _ _).mp same with equal | strange
  · have self : a.equal a = b.equal b := by rw [equal_left_congr key_b equal, equal_congr key_b equal]
    rw [isOneKey, isOneKey, equal_left_congr key_b equal, self]
  · have strange : a.equal a = false ∧ b.equal b = false := by simpa using strange
    have apart {d : Value} (other : d.equal d = false) : d.equal c = false := by
      rw [Bool.eq_false_iff]
      intro equal
      cases (((equal_congr key_c equal d).trans equal).symm.trans other)
    rw [isOneKey, isOneKey, apart strange.1, apart strange.2, strange.1, strange.2]

end

/-! ### One more mark -/

namespace Summary
variable {mark other : Value}

def keys (summary : Summary) : List Value := summary.map Prod.fst

def total (summary : Summary) : Nat := (summary.map Prod.snd).sum

theorem keys_cons (key : Value) (n : Nat) (summary : Summary) : keys ((key, n) :: summary) = key :: keys summary := rfl

theorem count_cons (key mark : Value) (n : Nat) (summary : Summary) :
    count ((key, n) :: summary) mark = if isOneKey key mark then n else count summary mark := by
  rw [count, find?_cons]
  cases isOneKey key mark <;> rfl

/-- A mark is counted for all that are one key with it, and for nothing else. -/
theorem count_add (key : mark.isKey = true) (key_other : other.isKey = true) (summary : Summary) :
    (summary.add mark).count other = summary.count other + if isOneKey mark other then 1 else 0 := by
  induction summary with
  | nil =>
    rw [add, count_cons]
    exact (Nat.zero_add _).symm
  | cons first rest ih =>
    obtain ⟨held, n⟩ := first
    cases same : isOneKey held mark with
    | true =>
      rw [add, if_pos same, count_cons, count_cons, isOneKey_left_congr key key_other same]
      split <;> rfl
    | false =>
      rw [add, if_neg (Bool.eq_false_iff.1 same), count_cons, count_cons, ih]
      cases here : isOneKey held other with
      | false => rfl
      | true =>
        have apart : isOneKey mark other = false := by
          rw [Bool.eq_false_iff]
          intro equal
          rw [isOneKey_congr key key_other equal, here] at same
          cases same
        simp [apart]

theorem total_add (mark : Value) (summary : Summary) : (summary.add mark).total = summary.total + 1 := by
  induction summary with
  | nil => rfl
  | cons first rest ih =>
    obtain ⟨held, n⟩ := first
    rw [add]
    split
    · simp only [total, map_cons, sum_cons]
      omega
    · simp only [total, map_cons, sum_cons] at ih ⊢
      omega

theorem keys_add (mark : Value) (summary : Summary) :
    (summary.add mark).keys =
      if summary.keys.any fun key => isOneKey key mark then summary.keys else summary.keys ++ [mark] := by
  induction summary with
  | nil => rfl
  | cons first rest ih =>
    obtain ⟨held, n⟩ := first
    cases same : isOneKey held mark with
    | true => simp [add, keys, same]
    | false =>
      rw [add, if_neg (Bool.eq_false_iff.1 same), keys_cons, keys_cons, ih, any_cons, same, Bool.false_or]
      exact apply_ite (List.cons held) _ _ _

end Summary

/-! ### All marks -/

/-- The counts of some marks. -/
def tally (marks : List Value) : Summary := marks.foldl (fun summary mark => summary.add mark) []

section
variable {marks : List Value}

theorem tally_concat (marks : List Value) (mark : Value) : tally (marks ++ [mark]) = (tally marks).add mark := by
  rw [tally, foldl_append]
  rfl

theorem total_tally (marks : List Value) : (tally marks).total = marks.length := by
  induction marks using reverseRecOn with
  | nil => rfl
  | append_singleton marks mark ih => rw [tally_concat, total_add, ih, length_append, length_singleton]

theorem count_tally {other : Value} (key_other : other.isKey = true) (keys : ∀ mark ∈ marks, mark.isKey = true) :
    (tally marks).count other = marks.countP fun mark => isOneKey mark other := by
  induction marks using reverseRecOn with
  | nil => rfl
  | append_singleton marks mark ih =>
    have earlier : ∀ mark ∈ marks, mark.isKey = true := (forall_mem_append.1 keys).1
    have last : mark.isKey = true := keys mark (mem_append_right _ mem_cons_self)
    rw [tally_concat, count_add last key_other, ih earlier, countP_append, countP_singleton]

theorem pairwise_tally (keys : ∀ mark ∈ marks, mark.isKey = true) :
    (tally marks).keys.Pairwise fun a b => a.equal b = false ∧ b.equal a = false := by
  induction marks using reverseRecOn with
  | nil => exact .nil
  | append_singleton marks mark ih =>
    have apart := ih (forall_mem_append.1 keys).1
    have last : mark.isKey = true := keys mark (mem_append_right _ mem_cons_self)
    rw [tally_concat, keys_add]
    split
    · exact apart
    · rename_i fresh
      refine pairwise_append.2 ⟨apart, pairwise_singleton _ _, fun key member other here => ?_⟩
      rw [mem_singleton.1 here, ← equal_comm last, and_self]
      rw [any_eq_true] at fresh
      exact Bool.eq_false_iff.2 fun same => fresh ⟨key, member, by rw [isOneKey, same, Bool.true_or]⟩

theorem keys_tally (marks : List Value) : (tally marks).keys = marks.eraseDupsBy fun mark key => isOneKey key mark := by
  -- with some counts to begin with, the marks that are new to them come after their keys
  suffices general : ∀ summary : Summary, (marks.foldl (fun summary mark => summary.add mark) summary).keys =
      summary.keys ++ (marks.filter fun mark => !summary.keys.any fun key => isOneKey key mark).eraseDupsBy
        fun mark key => isOneKey key mark by
    have all : (marks.filter fun mark => !(Summary.keys []).any fun key => isOneKey key mark) = marks :=
      filter_eq_self.2 fun _ _ => rfl
    rw [tally, general, all]
    rfl
  induction marks with
  | nil => exact fun summary => (append_nil _).symm
  | cons mark marks ih =>
    intro summary
    rw [foldl_cons, ih, keys_add]
    cases held : summary.keys.any fun key => isOneKey key mark with
    | true => rw [if_pos rfl, filter_cons_of_neg (by simp [held])]
    | false =>
      rw [if_neg Bool.false_ne_true, filter_cons_of_pos (by simp [held]), eraseDupsBy_cons, filter_filter, append_assoc]
      simp [Bool.and_comm]

end

/-! ### Entries -/

/-- Feedback as it comes in: a mark that can be counted and a context, in a record that may hold more. -/
structure Note where
  fields : Fields
  mark : Value
  context : Value
  marked : fields.get? "feedback" = some mark
  placed : fields.get? "context" = some context
  countable : mark.isKey = true

namespace Note

def entry (note : Note) : Value := .record note.fields

/-- The contexts of the notes with a mark. -/
def chosen (mark : Value) (notes : List Note) : List Value :=
  (notes.filter fun note => note.mark.equal mark).map context

theorem entry_feedback (note : Note) : note.entry.entry "feedback" = .ok note.mark := by
  simp [Note.entry, Value.entry, need, note.marked]

theorem entry_context (note : Note) : note.entry.entry "context" = .ok note.context := by
  simp [Note.entry, Value.entry, need, note.placed]

theorem summarize_notes (notes : List Note) : summarize (.list (notes.map entry)) = .ok (tally (notes.map mark)) := by
  suffices general : ∀ summary : Summary, (notes.map entry).foldlM (fun (summary : Summary) entry => do
      let mark ← entry.entry "feedback"
      if mark.isKey then return summary.add mark else throw (Fault.mismatch (.notKey mark.kind))) summary =
        (.ok ((notes.map mark).foldl (fun summary mark => summary.add mark) summary) : Except Fault Summary) from
    general []
  induction notes with
  | nil => exact fun summary => rfl
  | cons note notes ih =>
    intro summary
    rw [map_cons, foldlM_cons, entry_feedback, map_cons, foldl_cons, ← ih]
    simp only [bind, Except.bind, note.countable, if_true]
    rfl

theorem contextsOf_notes (mark : Value) (notes : List Note) :
    contextsOf (notes.map entry) mark = .ok (chosen mark notes) := by
  have selects : (notes.map entry).mapM (fun entry => do
      if (← entry.entry "feedback").equal mark then return some (← entry.entry "context") else return none) =
        (.ok (notes.map fun note => if note.mark.equal mark then some note.context else none) :
          Except Fault (List (Option Value))) := by
    rw [mapM_map]
    refine mapM_eq_map fun note _ => ?_
    simp only [Function.comp_apply, entry_feedback, entry_context, bind, Except.bind]
    split <;> rfl
  have kept : (notes.map fun note => if note.mark.equal mark then some note.context else none).filterMap id =
      chosen mark notes := by
    rw [filterMap_map, chosen, ← filterMap_eq_map, filterMap_filter]
    rfl
  rw [contextsOf, selects, ← kept]
  rfl

end Note

theorem length_chosen {mark : Value} (self : mark.equal mark = true) (notes : List Note) :
    (Note.chosen mark notes).length = notes.countP fun note => isOneKey note.mark mark := by
  simp only [isOneKey_of_self self]
  rw [Note.chosen, length_map, countP_eq_length_filter]

theorem not_up_and_down (mark : Value) : ¬(mark.equal thumbsUp = true ∧ mark.equal thumbsDown = true) := by
  rintro ⟨up, down⟩
  rw [equal_left_congr rfl up] at down
  exact absurd down (by decide)

/-- **Counts and training data agree**, for notes whose marks are of any kinds: all notes are counted, under pairwise
different keys in order of first occurrence, and each mark as often as it stands in the notes; the counts of thumbs up
and thumbs down are the numbers of positive and negative examples; and these are the contexts of notes in their order,
no note giving one to both. True, 1 and 1.0 are one mark. -/
theorem counts_agree_with_training_data (notes : List Note) :
    ∃ summary, summarize (.list (notes.map Note.entry)) = .ok summary ∧
      trainingData (.list (notes.map Note.entry)) = .ok (Note.chosen thumbsUp notes, Note.chosen thumbsDown notes) ∧
      summary.total = notes.length ∧
      summary.keys = (notes.map Note.mark).eraseDupsBy (fun mark key => isOneKey key mark) ∧
      (summary.keys.Pairwise fun a b => a.equal b = false ∧ b.equal a = false) ∧
      (∀ mark : Value, mark.isKey = true → summary.count mark = notes.countP fun note => isOneKey note.mark mark) ∧
      summary.count thumbsUp = (Note.chosen thumbsUp notes).length ∧
      summary.count thumbsDown = (Note.chosen thumbsDown notes).length ∧
      (∀ mark : Value, ¬(mark.equal thumbsUp = true ∧ mark.equal thumbsDown = true)) ∧
      (Value.bool true).equal thumbsUp = true ∧ (Value.float 1.0).equal thumbsUp = true := by
  have countable : ∀ mark ∈ notes.map Note.mark, mark.isKey = true := by
    intro mark member
    obtain ⟨note, -, rfl⟩ := List.mem_map.1 member
    exact note.countable
  have counted (mark : Value) (key : mark.isKey = true) :
      (tally (notes.map Note.mark)).count mark = notes.countP fun note => isOneKey note.mark mark := by
    rw [count_tally key countable, List.countP_map]
    rfl
  refine ⟨tally (notes.map Note.mark), Note.summarize_notes notes, ?_, ?_, keys_tally _, pairwise_tally countable,
    counted, ?_, ?_, not_up_and_down, rfl, by decide +kernel⟩
  · simp only [trainingData, elements, bind, Except.bind, Note.contextsOf_notes]
    rfl
  · rw [total_tally, List.length_map]
  · rw [counted _ rfl, length_chosen rfl]
  · rw [counted _ rfl, length_chosen rfl]

end Playhouse.Feedback
