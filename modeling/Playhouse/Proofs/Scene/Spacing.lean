import Playhouse.Proofs.Character.Filing
import Playhouse.Scene.Basic
import Mathlib.Data.List.SplitBy

/-!
Empty lines between sections. However many there are, an answer holds the same texts and a content the same scene: cut
at pairs of line breaks, a longer run leaves empty pieces and pieces with one line break at their front, and neither
matters to what is read.
-/
namespace Playhouse
open List Text

namespace Text

/-! ### Runs of line breaks -/

/-- Every run of more than two line breaks cut down to two: the text falls into its runs of line breaks and its other
characters one by one. -/
def closeUp (text : List Char) : List Char :=
  (text.splitBy fun a b => a == '\n' && b == '\n').flatMap (take 2)

theorem closeUp_cons {c : Char} (other : c ≠ '\n') (rest : List Char) : closeUp (c :: rest) = c :: closeUp rest := by
  have apart : ∀ a ∈ [c].getLast?, ∀ b ∈ rest.head?, (a == '\n' && b == '\n') = false := by
    intro a last b _
    cases last
    simp [other]
  rw [closeUp, ← singleton_append, splitBy_append apart, flatMap_append]
  rfl

theorem closeUp_run (count : Nat) {rest : List Char} (ends : rest.head? ≠ some '\n') :
    closeUp (replicate (count + 1) '\n' ++ rest) = (replicate (count + 1) '\n').take 2 ++ closeUp rest := by
  have apart : ∀ a ∈ (replicate (count + 1) '\n').getLast?, ∀ b ∈ rest.head?, (a == '\n' && b == '\n') = false := by
    intro a _ b first
    have other : b ≠ '\n' := fun same => ends (same ▸ first)
    simp [other]
  have run : (replicate (count + 1) '\n').splitBy (fun a b => a == '\n' && b == '\n') =
      [replicate (count + 1) '\n'] := by
    refine splitBy_of_isChain (by simp) (List.Pairwise.isChain ?_)
    exact pairwise_replicate.2 (.inr rfl)
  rw [closeUp, splitBy_append apart, run, flatMap_append, flatMap_singleton]
  rfl

theorem head?_closeUp {text : List Char} (starts : text.head? ≠ some '\n') : (closeUp text).head? = text.head? := by
  cases text with
  | nil => rfl
  | cons c rest =>
    have other : c ≠ '\n' := fun same => starts (congrArg some same)
    rw [closeUp_cons other]
    rfl

/-- What holds of the empty text and is kept by a character and by a run of line breaks holds of every text. -/
theorem run_induction {motive : List Char → Prop} (nil : motive [])
    (other : ∀ c rest, c ≠ '\n' → motive rest → motive (c :: rest))
    (run : ∀ count rest, rest.head? ≠ some '\n' → motive rest → motive (replicate (count + 1) '\n' ++ rest))
    (text : List Char) : motive text := by
  -- the run that has been passed so far is kept before the text that is left
  have passed : ∀ count, motive (replicate count '\n' ++ text) := by
    induction text with
    | nil =>
      intro count
      cases count with
      | zero => exact nil
      | succ count => exact run count [] (by decide) nil
    | cons c rest ih =>
      intro count
      by_cases same : c = '\n'
      · have longer : replicate count '\n' ++ c :: rest = replicate (count + 1) '\n' ++ rest := by
          rw [same, replicate_succ', append_assoc]
          rfl
        rw [longer]
        exact ih (count + 1)
      · have behind : motive (c :: rest) := other c rest same (ih 0)
        cases count with
        | zero => exact behind
        | succ count => exact run count (c :: rest) (by simpa using same) behind
  exact passed 0

/-! ### Pieces between pairs of line breaks -/

theorem split_of_head {c : Char} {rest : List Char} (apart : c ≠ '\n' ∨ rest.head? ≠ some '\n') :
    split ['\n', '\n'] (c :: rest) = pushFirst c (split ['\n', '\n'] rest) := by
  refine split_cons_of_not_prefix ?_
  rintro ⟨behind, same⟩
  cases same
  simp at apart

theorem split_pair (rest : List Char) :
    split ['\n', '\n'] ('\n' :: '\n' :: rest) = [] :: split ['\n', '\n'] rest :=
  split_separator (cons_ne_nil _ _) rest

/-- A piece without the line breaks at its front. -/
def shed (piece : List Char) : List Char := piece.dropWhile (· == '\n')

/-- The pieces that are more than line breaks, without those at their front. -/
def filled (pieces : List (List Char)) : List (List Char) := (pieces.map shed).filter (· ≠ [])

theorem shed_newline (piece : List Char) : shed ('\n' :: piece) = shed piece := rfl

theorem apply_shed {β : Type} {f : List Char → β} (blind : ∀ piece, f ('\n' :: piece) = f piece) (piece : List Char) :
    f (shed piece) = f piece := by
  induction piece with
  | nil => rfl
  | cons c piece ih =>
    by_cases same : c = '\n'
    · rw [same, shed_newline, ih, blind]
    · rw [shed, dropWhile_cons_of_neg (by simpa using same)]

theorem filled_append (pieces more : List (List Char)) : filled (pieces ++ more) = filled pieces ++ filled more := by
  rw [filled, filled, filled, map_append, filter_append]

theorem filled_cons (piece : List Char) (pieces : List (List Char)) :
    filled (piece :: pieces) = filled [piece] ++ filled pieces := filled_append [piece] pieces

theorem filled_split_newline (rest : List Char) :
    filled (split ['\n', '\n'] ('\n' :: rest)) = filled (split ['\n', '\n'] rest) := by
  induction rest with
  | nil => rfl
  | cons c rest ih =>
    by_cases same : c = '\n'
    · rw [same, split_pair, filled_cons, ih]
      rfl
    · rw [split_of_head (.inr (by simpa using same))]
      cases cut : split ['\n', '\n'] (c :: rest) with
      | nil => exact absurd cut (splitFrom_ne_nil _ _ _)
      | cons first more => rfl

theorem filled_split_run (count : Nat) (rest : List Char) :
    filled (split ['\n', '\n'] (replicate count '\n' ++ rest)) = filled (split ['\n', '\n'] rest) := by
  induction count with
  | zero => rfl
  | succ count ih =>
    rw [replicate_succ, cons_append, filled_split_newline, ih]

/-- Closing up leaves the first piece, and what is filled of the others. -/
theorem split_closeUp (text : List Char) : ∃ first more more',
    split ['\n', '\n'] (closeUp text) = first :: more' ∧ split ['\n', '\n'] text = first :: more ∧
      filled more' = filled more := by
  induction text using run_induction with
  | nil => exact ⟨[], [], [], rfl, rfl, rfl⟩
  | other c rest other ih =>
    obtain ⟨first, more, more', cut', cut, same⟩ := ih
    refine ⟨c :: first, more, more', ?_, ?_, same⟩
    · rw [closeUp_cons other, split_of_head (.inl other), cut']
      rfl
    · rw [split_of_head (.inl other), cut]
      rfl
  | run count rest ends ih =>
    obtain ⟨first, more, more', cut', cut, same⟩ := ih
    rw [closeUp_run count ends]
    cases count with
    | zero =>
      refine ⟨'\n' :: first, more, more', ?_, ?_, same⟩
      · change split ['\n', '\n'] ('\n' :: closeUp rest) = _
        rw [split_of_head (.inr (head?_closeUp ends ▸ ends)), cut']
        rfl
      · change split ['\n', '\n'] ('\n' :: rest) = _
        rw [split_of_head (.inr ends), cut]
        rfl
    | succ count =>
      -- the pair at the front ends an empty piece; behind it the longer text has line breaks more
      refine ⟨[], split ['\n', '\n'] (replicate count '\n' ++ rest), split ['\n', '\n'] (closeUp rest), ?_, ?_, ?_⟩
      · exact split_pair (closeUp rest)
      · exact split_pair _
      · rw [filled_split_run, cut', cut, filled_cons, same, ← filled_cons]

theorem filled_split_closeUp (text : List Char) :
    filled (split ['\n', '\n'] (closeUp text)) = filled (split ['\n', '\n'] text) := by
  obtain ⟨first, more, more', cut', cut, same⟩ := split_closeUp text
  rw [cut', cut, filled_cons, same, ← filled_cons]

end Text

/-- A text in which no more than two line breaks follow one another. -/
def closedUp (text : String) : String := String.ofList (closeUp text.toList)

/-! ### Texts of an answer -/

namespace Narrative

theorem topic?_newline (section_ : List Char) : topic? ('\n' :: section_) = topic? section_ := by
  rw [topic?_eq_find, topic?_eq_find]
  refine congrArg (Topic.all.find? ·) (funext fun topic => ?_)
  rw [decide_eq_decide]
  exact mentions_cons_newline (words_keywords topic) section_

theorem body_newline (section_ : List Char) : body ('\n' :: section_) = body section_ := by
  have cut : cut? [':'] ('\n' :: section_) = (cut? [':'] section_).map fun found => ('\n' :: found.1, found.2) := rfl
  rw [body, body, cut]
  cases cut? [':'] section_ with
  | some found => rfl
  | none => exact congrArg tidy (trim_cons_blank (by decide) section_)

theorem ofSections_filled (sections : List (List Char)) : ofSections (filled sections) = ofSections sections := by
  induction sections using reverseRecOn with
  | nil => rfl
  | append_singleton sections section_ ih =>
    have topic := apply_shed topic?_newline section_
    have text := apply_shed body_newline section_
    by_cases empty : shed section_ = []
    · have none_ : topic? section_ = none := by
        rw [← topic, empty]
        decide +kernel
      have nothing : filled [section_] = [] := by simp [filled, empty]
      rw [filled_append, nothing, append_nil, ih, ofSections_concat_of_none none_]
    · have something : filled [section_] = [shed section_] := by simp [filled, empty]
      rw [filled_append, something]
      cases found : topic? section_ with
      | none => rw [ofSections_concat_of_none (topic.trans found), ofSections_concat_of_none found, ih]
      | some other => rw [ofSections_concat (topic.trans found), ofSections_concat found, ih, text]

theorem ofAnswer_closedUp (content : String) : ofAnswer (closedUp content) = ofAnswer content := by
  rw [ofAnswer, ofAnswer, closedUp, String.toList_ofList, ← ofSections_filled, filled_split_closeUp, ofSections_filled]

end Narrative

/-! ### Scenes -/

namespace Scene

theorem filter_trim_filled (pieces : List (List Char)) :
    ((filled pieces).map trim).filter (· ≠ []) = (pieces.map trim).filter (· ≠ []) := by
  induction pieces with
  | nil => rfl
  | cons piece pieces ih =>
    have trims : trim (shed piece) = trim piece :=
      apply_shed (trim_cons_blank (by decide)) piece
    rw [filled_cons, map_append, filter_append, ih, map_cons, ← trims]
    by_cases empty : shed piece = []
    · simp [filled, empty, trim, trimStart, trimEnd]
    · by_cases blank : trim (shed piece) = [] <;> simp [filled, empty, blank]

theorem parts_closeUp (content : List Char) : parts (closeUp content) = parts content := by
  rw [parts, parts, ← filter_trim_filled, filled_split_closeUp, filter_trim_filled]

end Scene

/-- The number of empty lines between sections changes neither the texts of an answer nor the scene of a content. -/
theorem closedUp_read_alike (content : String) :
    Narrative.ofContent (.text (closedUp content)) = Narrative.ofContent (.text content) ∧
      Scene.ofContent (.text (closedUp content)) = Scene.ofContent (.text content) := by
  constructor
  · exact congrArg Except.ok (Narrative.ofAnswer_closedUp content)
  · change Scene.ofText (closedUp content).toList = Scene.ofText content.toList
    rw [closedUp, String.toList_ofList, Scene.ofText, Scene.ofText, Scene.parts_closeUp]

end Playhouse
