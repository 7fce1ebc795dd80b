import Mathlib.Data.List.Infix
import Mathlib.Data.List.TakeDrop
import Mathlib.Data.List.TakeWhile
import Playhouse.Text.Case
import Playhouse.Text.Search

/-!
Trimming, cutting and searching texts. A trimmed text has no blank at either end, and a text without blanks at its ends
is left as it is. Pieces that leave their separator alone are cut apart as they were put together; this holds of parts
of a path and of paragraphs with empty lines between them. A text is cut at its first mark or at its last one. Behind a
label the keywords of a text are those of the label and those of the text.
-/
namespace Playhouse.Text
open List

variable {text : List Char}

/-! ### Trimming -/

/-- No blank stands at either end of a text. -/
def IsBare (text : List Char) : Prop :=
  (∀ c ∈ text.head?, isBlank c = false) ∧ ∀ c ∈ text.getLast?, isBlank c = false

instance (text : List Char) : Decidable (IsBare text) :=
  decidable_of_iff (text.head?.all (!isBlank ·) = true ∧ text.getLast?.all (!isBlank ·) = true)
    (by simp [IsBare, Option.all_eq_true])

theorem head_dropWhile_isBlank (text : List Char) {c : Char} (first : c ∈ (text.dropWhile isBlank).head?) :
    isBlank c = false := by
  have filled := head?_dropWhile_not isBlank text
  rw [Option.mem_def.1 first] at filled
  exact filled

theorem trimEnd_append (text : List Char) : ∃ back, text = trimEnd text ++ back ∧ ∀ c ∈ back, isBlank c = true := by
  refine ⟨(text.reverse.takeWhile isBlank).reverse, ?_, fun c member => ?_⟩
  · rw [trimEnd, ← reverse_append, takeWhile_append_dropWhile, reverse_reverse]
  · exact mem_takeWhile_imp (mem_reverse.mp member)

theorem isBare_trim (text : List Char) : IsBare (trim text) := by
  constructor
  · intro c first
    obtain ⟨back, whole, -⟩ := trimEnd_append (trimStart text)
    apply head_dropWhile_isBlank text
    change c ∈ (trimStart text).head?
    rw [whole, head?_append_of_ne_nil]
    · exact first
    · intro empty
      rw [trim, empty] at first
      cases first
  · intro c last
    rw [trim, trimEnd, getLast?_reverse] at last
    exact head_dropWhile_isBlank _ last

/-- Trimming takes blanks from the two ends. -/
theorem trim_between (text : List Char) : ∃ front back, text = front ++ trim text ++ back ∧
    (∀ c ∈ front, isBlank c = true) ∧ ∀ c ∈ back, isBlank c = true := by
  obtain ⟨back, whole, blank⟩ := trimEnd_append (trimStart text)
  refine ⟨text.takeWhile isBlank, back, ?_, fun c member => mem_takeWhile_imp member, blank⟩
  rw [append_assoc, trim, ← whole, trimStart, takeWhile_append_dropWhile]

theorem dropWhile_isBlank (starts : ∀ c ∈ text.head?, isBlank c = false) : text.dropWhile isBlank = text := by
  cases text with
  | nil => rfl
  | cons c text => rw [dropWhile_cons_of_neg (by simp [starts c rfl])]

theorem trim_of_isBare (bare : IsBare text) : trim text = text := by
  have ends : ∀ c ∈ text.reverse.head?, isBlank c = false := by
    rw [head?_reverse]
    exact bare.2
  rw [trim, trimStart, dropWhile_isBlank bare.1, trimEnd, dropWhile_isBlank ends, reverse_reverse]

theorem trim_cons_blank {c : Char} (blank : isBlank c = true) (text : List Char) : trim (c :: text) = trim text := by
  rw [trim, trimStart, dropWhile_cons_of_pos blank]
  rfl

/-- A text with a label before it is bare if the text is and the label starts with no blank. -/
theorem IsBare.append {label : List Char} (bare : IsBare text) (filled : text ≠ [])
    (starts : label.head?.any (!isBlank ·) = true) : IsBare (label ++ text) := by
  cases label with
  | nil => exact bare
  | cons first label =>
    refine ⟨fun c is_first => ?_, ?_⟩
    · cases is_first
      simpa using starts
    · rw [getLast?_append_of_ne_nil _ filled]
      exact bare.2

variable {pieces : List (List Char)} {separator front : List Char}

/-! ### Cutting at a separator -/

/-- No occurrence of a separator starts in a front, whatever follows it. -/
def Clear (separator front : List Char) : Prop :=
  ∀ tail ∈ front.tails, tail ≠ [] → ¬ separator <+: tail ∧ ¬ tail <+: separator

instance (separator front : List Char) : Decidable (Clear separator front) :=
  inferInstanceAs (Decidable (∀ tail ∈ front.tails, tail ≠ [] → ¬ separator <+: tail ∧ ¬ tail <+: separator))

theorem splitFrom_ne_nil (separator : List Char) (skip : Nat) (text : List Char) :
    splitFrom separator skip text ≠ [] := by
  induction text generalizing skip with
  | nil => exact cons_ne_nil _ _
  | cons c text ih =>
    cases skip with
    | succ skip => exact ih skip
    | zero =>
      rw [splitFrom]
      split
      · exact cons_ne_nil _ _
      · cases splitFrom separator 0 text <;> exact cons_ne_nil _ _

theorem splitFrom_front (clear : Clear separator front) {rest first : List Char}
    {more : List (List Char)} (cut : splitFrom separator 0 rest = first :: more) :
    splitFrom separator 0 (front ++ rest) = (front ++ first) :: more := by
  induction front with
  | nil => exact cut
  | cons c front ih =>
    have apart := clear (c :: front) (mem_cons_self) (cons_ne_nil _ _)
    have elsewhere : ¬ separator.isPrefixOf (c :: (front ++ rest)) = true := by
      rw [ isPrefixOf_iff_prefix]
      intro starts
      -- both the separator and the front are at the start of one text
      rcases prefix_or_prefix_of_prefix starts (prefix_append (c :: front) rest) with within | beyond
      · exact apart.1 within
      · exact apart.2 beyond
    have clear_rest : Clear separator front := (forall_mem_cons.1 clear).2
    rw [cons_append, splitFrom, if_neg elsewhere, ih clear_rest]
    rfl

theorem splitFrom_skip (separator passed rest : List Char) :
    splitFrom separator passed.length (passed ++ rest) = splitFrom separator 0 rest := by
  induction passed with
  | nil => rfl
  | cons c passed ih => exact ih

theorem split_separator (some_ : separator ≠ []) (rest : List Char) :
    split separator (separator ++ rest) = [] :: split separator rest := by
  cases separator with
  | nil => exact absurd rfl some_
  | cons c separator =>
    have starts : (c :: separator).isPrefixOf (c :: (separator ++ rest)) = true :=
      isPrefixOf_iff_prefix.2 (prefix_append (c :: separator) rest)
    rw [split, cons_append, splitFrom, if_pos starts]
    exact congrArg _ (splitFrom_skip (c :: separator) separator rest)

theorem split_clear {piece : List Char} (clear : Clear separator piece) : split separator piece = [piece] := by
  have alone : splitFrom separator 0 [] = [[]] := rfl
  have cut := splitFrom_front clear alone
  rwa [append_nil] at cut

/-- Pieces that are clear of the separator are cut apart as they were joined. -/
theorem split_join_clear (some_ : separator ≠ [])
    (any : pieces ≠ []) (clear : ∀ piece ∈ pieces, Clear separator piece) :
    split separator (join separator pieces) = pieces := by
  induction pieces with
  | nil => exact absurd rfl any
  | cons piece rest ih =>
    obtain ⟨clear_piece, clear_rest⟩ := forall_mem_cons.1 clear
    cases rest with
    | nil => exact split_clear clear_piece
    | cons second rest =>
      have later := ih (cons_ne_nil _ _) clear_rest
      have cut := splitFrom_front clear_piece (split_separator some_ (join separator (second :: rest)))
      have joined : join separator (piece :: second :: rest) =
          piece ++ (separator ++ join separator (second :: rest)) := by
        rw [join, append_assoc]
        exact cons_ne_nil _ _
      rw [joined, split, cut, later, append_nil]

theorem join_front (between front first : List Char) (more : List (List Char)) :
    join between ((front ++ first) :: more) = front ++ join between (first :: more) := by
  cases more with
  | nil => rfl
  | cons second more => simp only [join, append_assoc]

theorem split_cons_of_not_prefix {c : Char} (elsewhere : ¬ separator <+: c :: text) :
    split separator (c :: text) = pushFirst c (split separator text) := by
  rw [split, splitFrom, if_neg (mt isPrefixOf_iff_prefix.1 elsewhere)]
  rfl

/-! ### Replacing -/

theorem replace_separator (some_ : separator ≠ []) (new rest : List Char) :
    replace separator new (separator ++ rest) = new ++ replace separator new rest := by
  rw [replace, split_separator some_, replace]
  cases cut : split separator rest with
  | nil => exact absurd cut (splitFrom_ne_nil separator 0 rest)
  | cons first more => rfl

theorem replace_cons {c : Char} (elsewhere : ¬ separator <+: c :: text) (new : List Char) :
    replace separator new (c :: text) = c :: replace separator new text := by
  rw [replace, split_cons_of_not_prefix elsewhere, replace]
  cases cut : split separator text with
  | nil => exact absurd cut (splitFrom_ne_nil separator 0 text)
  | cons first more => exact join_front new [c] first more

/-! ### Cutting at a mark -/

section
variable {mark : Char}

theorem split_cons (c : Char) (text : List Char) :
    split [mark] (c :: text) =
      if c = mark then [] :: split [mark] text else pushFirst c (split [mark] text) := by
  by_cases same : c = mark
  · simp [split, splitFrom, isPrefixOf, same]
  · simp [split, splitFrom, isPrefixOf, same, Ne.symm same]

theorem split_ne_nil (text : List Char) : split [mark] text ≠ [] := splitFrom_ne_nil [mark] 0 text

theorem split_append (front rest : List Char) :
    split [mark] (front ++ mark :: rest) = split [mark] front ++ split [mark] rest := by
  induction front with
  | nil =>
    rw [nil_append, split_cons, if_pos rfl]
    rfl
  | cons c front ih =>
    rw [cons_append, split_cons, split_cons, ih]
    split
    · rfl
    · cases cut : split [mark] front with
      | nil => exact absurd cut (split_ne_nil front)
      | cons piece pieces => rfl

theorem clear_of_notMem {text : List Char} (whole : mark ∉ text) : Clear [mark] text := by
  intro tail suffix filled
  have within : mark ∉ tail := fun member => whole (((mem_tails _ _).1 suffix).subset member)
  refine ⟨fun starts => within (starts.subset mem_cons_self), fun starts => ?_⟩
  rcases prefix_cons_iff.1 starts with empty | ⟨rest, rfl, -⟩
  · exact filled empty
  · exact within mem_cons_self

theorem split_of_notMem {text : List Char} (whole : mark ∉ text) : split [mark] text = [text] :=
  split_clear (clear_of_notMem whole)

theorem notMem_of_mem_split {text piece : List Char} (member : piece ∈ split [mark] text) : mark ∉ piece := by
  induction text generalizing piece with
  | nil =>
    rw [mem_singleton.1 member]
    exact not_mem_nil
  | cons c text ih =>
    rw [split_cons] at member
    split at member
    · rcases mem_cons.1 member with rfl | member
      · exact not_mem_nil
      · exact ih member
    · rename_i other
      cases cut : split [mark] text with
      | nil => exact absurd cut (split_ne_nil text)
      | cons first pieces =>
        rw [cut] at member
        rcases mem_cons.1 member with rfl | member
        · rw [mem_cons, not_or]
          exact ⟨Ne.symm other, ih (cut ▸ mem_cons_self)⟩
        · exact ih (cut ▸ mem_cons_of_mem _ member)

theorem split_join (some_ : pieces ≠ []) (whole : ∀ piece ∈ pieces, mark ∉ piece) :
    split [mark] (join [mark] pieces) = pieces :=
  split_join_clear (cons_ne_nil _ _) some_ fun piece member => clear_of_notMem (whole piece member)

/-- An ending without the mark stays with the last piece. -/
theorem split_append_ending (text : List Char) {ending : List Char} (whole : mark ∉ ending) :
    ∃ front last, split [mark] text = front ++ [last] ∧ split [mark] (text ++ ending) = front ++ [last ++ ending] := by
  induction text with
  | nil => exact ⟨[], [], rfl, split_of_notMem whole⟩
  | cons c text ih =>
    obtain ⟨front, last, cut, cut_ending⟩ := ih
    rw [cons_append, split_cons, split_cons, cut, cut_ending]
    split
    · exact ⟨[] :: front, last, rfl, rfl⟩
    · cases front with
      | nil => exact ⟨[], c :: last, rfl, rfl⟩
      | cons piece front => exact ⟨(c :: piece) :: front, last, rfl, rfl⟩

theorem cut?_of_append (first : mark ∉ front) (rest : List Char) :
    cut? [mark] (front ++ mark :: rest) = some (front, rest) := by
  induction front with
  | nil => simp [cut?, after?]
  | cons c front ih =>
    obtain ⟨other, later⟩ := not_or.1 (mt mem_cons.2 first)
    simp [cut?, after?, other, ih later]

end

/-! ### Cutting at the last mark -/

section
variable {mark : Char} {text head tail : List Char}

theorem exists_last (member : mark ∈ text) : ∃ head tail, text = head ++ mark :: tail ∧ mark ∉ tail := by
  obtain ⟨after, before, split, last⟩ := eq_append_cons_of_mem (mem_reverse.2 member)
  refine ⟨before.reverse, after.reverse, ?_, mt mem_reverse.1 last⟩
  rw [← reverse_reverse text, split]
  simp

theorem cutLast?_of_append (last : mark ∉ tail) : cutLast? mark (head ++ mark :: tail) = some (head, tail) := by
  have others : ∀ c ∈ tail.reverse, decide (c ≠ mark) = true := by
    intro c member
    rw [decide_eq_true_iff]
    exact fun same => last (same ▸ mem_reverse.1 member)
  have reversed : (head ++ mark :: tail).reverse = tail.reverse ++ mark :: head.reverse := by simp
  unfold cutLast?
  rw [span_eq_takeWhile_dropWhile, reversed, takeWhile_append_of_pos others, dropWhile_append_of_pos others]
  simp

theorem cutLast?_of_notMem (whole : mark ∉ text) : cutLast? mark text = none := by
  have others : text.reverse.dropWhile (fun c => decide (c ≠ mark)) = [] := by
    rw [dropWhile_eq_nil_iff]
    intro c member
    rw [decide_eq_true_iff]
    exact fun same => whole (same ▸ mem_reverse.1 member)
  unfold cutLast?
  rw [span_eq_takeWhile_dropWhile, others]

theorem cutLast?_eq_some_iff : cutLast? mark text = some (head, tail) ↔ text = head ++ mark :: tail ∧ mark ∉ tail := by
  constructor
  · intro cut
    by_cases member : mark ∈ text
    · obtain ⟨before, after, rfl, last⟩ := exists_last member
      rw [cutLast?_of_append last] at cut
      cases cut
      exact ⟨rfl, last⟩
    · rw [cutLast?_of_notMem member] at cut
      cases cut
  · rintro ⟨rfl, last⟩
    exact cutLast?_of_append last

/-- What stands before a text without the mark stays before the cut. -/
theorem cutLast?_append (whole : mark ∉ front) (text : List Char) :
    cutLast? mark (front ++ text) = (cutLast? mark text).map fun (head, tail) => (front ++ head, tail) := by
  by_cases member : mark ∈ text
  · obtain ⟨head, tail, rfl, last⟩ := exists_last member
    rw [cutLast?_of_append last, ← append_assoc, cutLast?_of_append last]
    rfl
  · rw [cutLast?_of_notMem member, cutLast?_of_notMem (by simp [whole, member])]
    rfl

end

/-! ### Paragraphs -/

/-- A text that can stand between empty lines: it is not empty, no blank stands at its ends, and no line in it is
empty. -/
structure IsParagraph (text : List Char) : Prop where
  filled : text ≠ []
  bare : IsBare text
  whole : ¬ ['\n', '\n'] <:+: text

instance (text : List Char) : Decidable (IsParagraph text) :=
  decidable_of_iff (text ≠ [] ∧ IsBare text ∧ ¬ ['\n', '\n'] <:+: text)
    ⟨fun ⟨filled, bare, whole⟩ => ⟨filled, bare, whole⟩,
      fun paragraph => ⟨paragraph.filled, paragraph.bare, paragraph.whole⟩⟩

theorem IsParagraph.clear {text : List Char} (paragraph : IsParagraph text) : Clear ['\n', '\n'] text := by
  intro tail suffix filled
  have ends : tail <:+ text := (mem_tails _ _).1 suffix
  refine ⟨fun starts => paragraph.whole (starts.isInfix.trans ends.isInfix), fun starts => ?_⟩
  -- a tail within the separator would end the text with a line break
  obtain ⟨last, is_last⟩ := Option.ne_none_iff_exists'.1 (mt getLast?_eq_none_iff.1 filled)
  have text_last : last ∈ text.getLast? := by
    obtain ⟨front, rfl⟩ := ends
    rwa [getLast?_append_of_ne_nil _ filled]
  have line_break : last = '\n' := by
    simpa using starts.subset (mem_of_getLast? is_last)
  have filled_last := paragraph.bare.2 last text_last
  rw [line_break] at filled_last
  exact absurd filled_last (by decide)

/-- Paragraphs with empty lines between them are cut apart. -/
theorem split_paragraphs (some_ : pieces ≠ []) (paragraphs : ∀ piece ∈ pieces, IsParagraph piece) :
    split ['\n', '\n'] (join ['\n', '\n'] pieces) = pieces :=
  split_join_clear (cons_ne_nil _ _) some_ fun piece member => (paragraphs piece member).clear

/-- A paragraph with a label before it is one, if the label is of one line and starts with no blank. -/
theorem IsParagraph.append {label text : List Char} (paragraph : IsParagraph text)
    (starts : label.head?.any (!isBlank ·) = true) (line : '\n' ∉ label) : IsParagraph (label ++ text) := by
  refine ⟨by simp [paragraph.filled], paragraph.bare.append paragraph.filled starts, fun found => ?_⟩
  rcases infix_append_iff.1 found with within | within | ⟨front, back, cut, ends, goes_on⟩
  · exact line (within.subset mem_cons_self)
  · exact paragraph.whole within
  · cases front with
    | nil =>
      rw [nil_append] at cut
      exact paragraph.whole (cut ▸ goes_on.isInfix)
    | cons c front =>
      obtain ⟨rfl, -⟩ := cons_eq_cons.1 cut
      exact line (ends.subset mem_cons_self)

/-! ### Searching -/

theorem occurs_iff {needle text : List Char} : occurs needle text = true ↔ needle <:+: text := by
  induction text with
  | nil => rw [occurs, List.isEmpty_iff, infix_nil]
  | cons c text ih => rw [occurs, Bool.or_eq_true, isPrefixOf_iff_prefix, ih, infix_cons_iff]

/-- A word without the mark stands before the mark or behind it. -/
theorem infix_append_mark {word : List Char} {mark : Char} (other : mark ∉ word) (front rest : List Char) :
    word <:+: front ++ mark :: rest ↔ word <:+: front ∨ word <:+: rest := by
  constructor
  · intro found
    rcases infix_append_iff.1 found with before | behind | ⟨start, ending, rfl, ends, starts⟩
    · exact .inl before
    · rcases infix_cons_iff.1 behind with starts | behind
      · rcases prefix_cons_iff.1 starts with rfl | ⟨_, rfl, -⟩
        · exact .inl nil_infix
        · exact absurd mem_cons_self other
      · exact .inr behind
    · rcases prefix_cons_iff.1 starts with rfl | ⟨_, rfl, -⟩
      · rw [append_nil]
        exact .inl ends.isInfix
      · exact absurd (mem_append_right _ mem_cons_self) other
  · rintro (before | behind)
    · exact before.trans (prefix_append ..).isInfix
    · exact behind.trans ((suffix_cons ..).trans (suffix_append ..)).isInfix

/-! ### Lower case, character by character -/

/-- A sigma in its common form. -/
def unfinal (c : Char) : Char := if c = 'ς' then 'σ' else c

theorem map_unfinal_lowerAfter (before text : List Char) :
    (lowerAfter before text).map unfinal = (text.flatMap lowerChar).map unfinal := by
  induction text generalizing before with
  | nil => rfl
  | cons c text ih =>
    rw [lowerAfter, flatMap_cons, map_append, map_append, ih]
    congr 1
    split
    · rename_i final
      simp only [Bool.and_eq_true, beq_iff_eq] at final
      rw [final.1.1]
      decide +kernel
    · rfl

/-- A word of small letters and blanks that starts with a letter. -/
def IsKeyword (word : List Char) : Prop :=
  word.head?.any Char.isLower = true ∧ word.all (fun c => c.isLower || c == ' ') = true

instance (word : List Char) : Decidable (IsKeyword word) := inferInstanceAs (Decidable (_ ∧ _))

section
variable {word : List Char}

section
variable (keyword : IsKeyword word)
include keyword

theorem IsKeyword.notMem {c : Char} (capital : c.isLower = false) (filled : c ≠ ' ') : c ∉ word := by
  intro member
  have letter := all_eq_true.1 keyword.2 c member
  simp [capital, filled] at letter

theorem IsKeyword.ne_nil : word ≠ [] := by
  rintro rfl
  exact absurd keyword.1 (by decide)

/-- The form of a sigma does not matter to a keyword. -/
theorem IsKeyword.infix_map_unfinal (text : List Char) : word <:+: text.map unfinal ↔ word <:+: text := by
  have no_final : 'ς' ∉ word := keyword.notMem (by decide) (by decide)
  have no_common : 'σ' ∉ word := keyword.notMem (by decide) (by decide)
  have fixed : ∀ part : List Char, 'ς' ∉ part → part.map unfinal = part := by
    intro part absent
    have kept : ∀ c ∈ part, unfinal c = id c := fun c member => if_neg fun same : c = 'ς' => absent (same ▸ member)
    exact (map_congr_left kept).trans (map_id part)
  constructor
  · intro found
    obtain ⟨part, within, rfl⟩ := infix_map_iff.1 found
    have absent : 'ς' ∉ part := fun member => no_common (mem_map.2 ⟨_, member, rfl⟩)
    rwa [fixed part absent]
  · intro found
    have mapped := found.map unfinal
    rwa [fixed word no_final] at mapped

theorem IsKeyword.infix_lower (text : List Char) : word <:+: lower text ↔ word <:+: text.flatMap lowerChar := by
  rw [← keyword.infix_map_unfinal, lower, map_unfinal_lowerAfter, keyword.infix_map_unfinal]

theorem IsKeyword.infix_lower_append {mark : Char} (other : mark ∉ word) (caseless : lowerChar mark = [mark])
    (front rest : List Char) :
    word <:+: lower (front ++ mark :: rest) ↔ word <:+: lower front ∨ word <:+: lower rest := by
  rw [keyword.infix_lower, keyword.infix_lower, keyword.infix_lower, flatMap_append, flatMap_cons, caseless]
  exact infix_append_mark other _ _

/-- A blank at the front of a text is part of no keyword. -/
theorem IsKeyword.infix_lower_blank (text : List Char) : word <:+: lower (' ' :: text) ↔ word <:+: lower text := by
  rw [keyword.infix_lower, keyword.infix_lower]
  change word <:+: ' ' :: text.flatMap lowerChar ↔ _
  rw [infix_cons_iff]
  refine or_iff_right fun starts => ?_
  rcases prefix_cons_iff.1 starts with rfl | ⟨_, rfl, -⟩
  · exact keyword.ne_nil rfl
  · have starts_blank : ¬ Char.isLower ' ' = true := by decide
    exact starts_blank keyword.1

end
end

/-! ### Mentioning -/

/-- One of the words occurs in a text, in whatever case. -/
def Mentions (words : List String) (text : List Char) : Prop := ∃ word ∈ words, word.toList <:+: lower text

instance (words : List String) (text : List Char) : Decidable (Mentions words text) :=
  inferInstanceAs (Decidable (∃ word ∈ words, word.toList <:+: lower text))

section
variable {words : List String}

theorem any_occurs_iff (words : List String) (text : List Char) :
    (words.any fun word => occurs word.toList (lower text)) = true ↔ Mentions words text := by
  rw [any_eq_true]
  simp only [occurs_iff, Mentions]

theorem mentions_append (words more : List String) (text : List Char) :
    Mentions (words ++ more) text ↔ Mentions words text ∨ Mentions more text := by
  simp only [Mentions, mem_append, or_and_right, exists_or]

/-- What a labelled text mentions is mentioned by the label or by the text. -/
theorem mentions_labelled (keywords : ∀ word ∈ words, IsKeyword word.toList) (label text : List Char) :
    Mentions words (label ++ ':' :: ' ' :: text) ↔ Mentions words label ∨ Mentions words text := by
  simp only [Mentions, ← exists_or, ← and_or_left]
  refine exists_congr fun word => and_congr_right fun member => ?_
  have keyword := keywords word member
  rw [keyword.infix_lower_append (keyword.notMem (by decide) (by decide)) (by decide), keyword.infix_lower_blank]

/-- Line breaks at the front of a text mention nothing. -/
theorem mentions_cons_newline (keywords : ∀ word ∈ words, IsKeyword word.toList) (text : List Char) :
    Mentions words ('\n' :: text) ↔ Mentions words text := by
  refine exists_congr fun word => and_congr_right fun member => ?_
  have keyword := keywords word member
  rw [← nil_append ('\n' :: text), keyword.infix_lower_append (keyword.notMem (by decide) (by decide)) (by decide)]
  exact or_iff_right fun found => keyword.ne_nil (infix_nil.1 found)

end

end Playhouse.Text
