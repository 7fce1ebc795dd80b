import Playhouse.Manual.Example
import Mathlib.Data.List.DropRight
import Mathlib.Data.List.TakeWhile

/-!
Blocks of indented lines. A block is meant to be read without the indentation that its lines have in common, with the
lines joined that a backslash ends, and without the empty lines at its end. The reader takes the indentation of the
first line instead, and stops at the first line that has less: it reads a block as it is meant exactly if the first
line is indented like the whole.
-/
open List Option Playhouse.Manual.Block

namespace Playhouse.Text

theorem after?_eq_some {head text rest : List Char} : after? head text = some rest ↔ text = head ++ rest := by
  induction head generalizing text with
  | nil => simp [after?, eq_comm]
  | cons h head ih =>
    cases text with
    | nil => simp [after?]
    | cons c text =>
      by_cases same : h = c
      · simp [after?, same, ih]
      · simp [after?, same, Ne.symm same]

theorem after?_append (head text : List Char) : after? head (head ++ text) = some text := after?_eq_some.mpr rfl

theorem after?_append_append (head other text : List Char) :
    after? (head ++ other) (head ++ text) = after? other text := by
  induction head with
  | nil => rfl
  | cons h head ih => simp [after?, ih]

theorem after?_nil {head : List Char} (some_head : head ≠ []) : after? head [] = none := by
  cases head with
  | nil => exact (some_head rfl).elim
  | cons h head => rfl

theorem withoutEnd_concat (text : List Char) (c : Char) :
    withoutEnd (text ++ [c]) = if c = '\r' ∨ c = '\n' then withoutEnd text else text ++ [c] := by
  unfold withoutEnd
  rw [reverse_append, reverse_singleton, singleton_append, dropWhile_cons]
  by_cases ends : c = '\r' ∨ c = '\n' <;> simp [ends]

/-- Where a line is ended in one way only, that is what is left out. -/
theorem withoutEnd_eq_rdropWhile {text : List Char} (clean : '\r' ∉ text) :
    withoutEnd text = text.rdropWhile (· == '\n') := by
  induction text using reverseRecOn with
  | nil => rfl
  | append_singleton text c ih =>
    rw [mem_append, mem_singleton, not_or] at clean
    rw [withoutEnd_concat, rdropWhile_concat, ih clean.1]
    simp [Ne.symm clean.2]

end Playhouse.Text

namespace Playhouse.Manual

/-! ### Lines that go on -/

/-- A text without the line ends that follow a backslash, and without those backslashes. -/
def continued : Line → Line
  | '\\' :: '\n' :: rest => continued rest
  | c :: rest => c :: continued rest
  | [] => []

theorem continued_cons_cons {c d : Char} (plain : d ≠ '\n') (rest : Line) :
    continued (c :: d :: rest) = c :: continued (d :: rest) := by
  rw [continued]
  intro other _ same
  exact plain (cons.inj same).1

theorem segment_cons_cons (c d : Char) (rest : Line) : segment (c :: d :: rest) = c :: segment (d :: rest) := by
  unfold segment
  rw [getLast?_cons_cons]
  split <;> rfl

theorem continued_line {line : Line} (clean : '\n' ∉ line) (rest : Line) :
    continued (line ++ '\n' :: rest) = segment line ++ continued rest := by
  induction line with
  | nil => simp [continued, segment]
  | cons c line ih =>
    cases line with
    | nil =>
      by_cases goesOn : c = '\\' <;> simp [goesOn, continued, segment]
    | cons d line =>
      have plain : d ≠ '\n' := fun same => clean (by simp [same])
      rw [cons_append, cons_append, continued_cons_cons plain, segment_cons_cons, cons_append,
        ← ih (fun member => clean (mem_cons_of_mem c member)), cons_append]

theorem continued_lines {lines : List Line} (clean : ∀ line ∈ lines, '\n' ∉ line) :
    continued (lines.flatMap (· ++ ['\n'])) = lines.flatMap segment := by
  induction lines with
  | nil => rfl
  | cons line lines ih =>
    rw [flatMap_cons, flatMap_cons, append_assoc, singleton_append, continued_line (clean line mem_cons_self),
      ih (forall_mem_cons.1 clean).2]

/-! ### Listings -/

/-- An indented block. Each line is empty, or has a text after the margin. The margin is all the indentation that the
texts have in common, and the first line is one with something to read. -/
structure Listing where
  margin : Line
  lines : List (Option Line)
  margin_ne_nil : margin ≠ []
  margin_indents : ∀ c ∈ margin, isIndent c = true
  starts : ∀ line ∈ lines.head?, ∃ text, line = some text ∧ ∃ c ∈ text, isIndent c = false
  common : lines ≠ [] → ∀ c, isIndent c = true → ∃ text, some text ∈ lines ∧ text.head? ≠ some c

namespace Listing

variable (listing : Listing)

/-- A line as it is written. -/
def write (line : Option Line) : Line :=
  match line with
  | some text => listing.margin ++ text
  | none => []

def written : List Line := listing.lines.map listing.write

/-- What a block stands for: its texts without the margin, line by line, with those that go on joined, and without
empty lines at the end. -/
def meant : Line :=
  (continued ((listing.lines.map (·.getD [])).flatMap (· ++ ['\n']))).rdropWhile (· == '\n') ++ ['\n']

/-- The indentation of the first line beyond the margin. -/
def extra : Line :=
  match listing.lines with
  | some text :: _ => text.takeWhile isIndent
  | _ => []

/-- The first line is indented by the margin only. -/
def IsFlush : Prop := listing.extra = []

/-- Whether a line goes with the indentation of the first one. -/
def goesAlong (line : Option Line) : Bool :=
  match line with
  | some text => (Text.after? listing.extra text).isSome
  | none => true

/-- The lines that the reader takes. -/
def taken : List (Option Line) := listing.lines.takeWhile listing.goesAlong

/-- The lines that it leaves. -/
def left : List (Option Line) := listing.lines.dropWhile listing.goesAlong

/-- What the reader has of a line. -/
def readLine (line : Option Line) : Line :=
  match line with
  | some text => text.drop listing.extra.length
  | none => []

/-- What the reader makes of a block. -/
def read : Line := (listing.taken.map listing.readLine).flatMap segment

/-- The block as the reader has it at the end. -/
def block : Block where
  margin := if listing.lines.isEmpty then none else some (listing.margin ++ listing.extra)
  text := listing.read

variable {listing}

theorem first_text {text : Line} {rest : List (Option Line)} (first : listing.lines = some text :: rest) :
    ∃ c body, isIndent c = false ∧ text = listing.extra ++ c :: body := by
  obtain ⟨other, same, d, member, plain⟩ := listing.starts (some text) (by simp [first])
  cases same
  have extra_eq : listing.extra = text.takeWhile isIndent := by simp [extra, first]
  have head_plain := head?_dropWhile_not isIndent text
  rcases rest_eq : text.dropWhile isIndent with _ | ⟨c, body⟩
  · have all_indent := dropWhile_eq_nil_iff.mp rest_eq d member
    rw [plain] at all_indent
    cases all_indent
  · rw [rest_eq] at head_plain
    refine ⟨c, body, head_plain, ?_⟩
    rw [extra_eq, ← rest_eq, takeWhile_append_dropWhile]

theorem extra_indents : ∀ c ∈ listing.extra, isIndent c = true := by
  unfold extra
  split
  · exact fun c member => mem_takeWhile_imp member
  · intro c absent
    cases absent

end Listing

/-! ### Taking lines -/

/-- A line that starts with something other than indentation. -/
def IsUnindented (line : Line) : Prop := ∃ c rest, line = c :: rest ∧ isIndent c = false

/-- The block after some lines of it; nothing if one of them is outside the block. -/
def Block.takeAll? (block : Block) (lines : List Line) : Option Block := lines.foldlM take? block

namespace Listing

variable {listing : Listing} {rest : List (Option Line)}

theorem indented?_first {indent body : Line} {c : Char} (some_indent : indent ≠ [])
    (indents : ∀ d ∈ indent, isIndent d = true) (plain : isIndent c = false) :
    indented? (indent ++ c :: body) = some (indent, c :: body) := by
  have front : (indent ++ c :: body).takeWhile isIndent = indent := by
    rw [takeWhile_append_of_pos indents, takeWhile_cons_of_neg (by simp [plain]), append_nil]
  have back : (indent ++ c :: body).dropWhile isIndent = c :: body := by
    rw [dropWhile_append_of_pos indents, dropWhile_cons_of_neg (by simp [plain])]
  unfold indented?
  rw [front, back]
  cases indent with
  | nil => exact (some_indent rfl).elim
  | cons d indent => rfl

/-- The first line of a block gives it its margin. -/
theorem take?_first {text : Line} (first : listing.lines = some text :: rest) :
    ({} : Block).take? (listing.write (some text)) =
      some { margin := some (listing.margin ++ listing.extra), text := segment (listing.readLine (some text)) } := by
  obtain ⟨c, body, plain, split⟩ := first_text first
  have some_indent : listing.margin ++ listing.extra ≠ [] := by simp [listing.margin_ne_nil]
  have indents : ∀ d ∈ listing.margin ++ listing.extra, isIndent d = true :=
    forall_mem_append.2 ⟨listing.margin_indents, extra_indents⟩
  unfold take?
  dsimp only
  rw [write, split, ← append_assoc, indented?_first some_indent indents plain, readLine, drop_left]
  rfl

/-- A line that goes along is taken, and one that does not ends the block. -/
theorem take?_next (text : Line) (line : Option Line) :
    ({ margin := some (listing.margin ++ listing.extra), text } : Block).take? (listing.write line) =
      if listing.goesAlong line then
        some { margin := some (listing.margin ++ listing.extra), text := text ++ segment (listing.readLine line) }
      else none := by
  unfold take?
  dsimp only
  cases line with
  | none =>
    rw [write, Text.after?_nil (by simp [listing.margin_ne_nil])]
    rfl
  | some more =>
    rw [write, Text.after?_append_append, goesAlong]
    rcases found : Text.after? listing.extra more with _ | tail
    · simp [listing.margin_ne_nil]
    · rw [Text.after?_eq_some] at found
      simp [readLine, found]

theorem takeAll?_next {lines : List (Option Line)} (along : ∀ line ∈ lines, listing.goesAlong line = true)
    (text : Line) :
    ({ margin := some (listing.margin ++ listing.extra), text } : Block).takeAll? (lines.map listing.write) =
      some { margin := some (listing.margin ++ listing.extra)
             text := text ++ (lines.map listing.readLine).flatMap segment } := by
  induction lines generalizing text with
  | nil => simp [takeAll?]
  | cons line lines ih =>
    rw [map_cons, takeAll?, foldlM_cons, take?_next, if_pos (along line mem_cons_self)]
    refine (ih (forall_mem_cons.1 along).2 _).trans ?_
    simp

/-- A block takes its lines up to the first that does not go along. -/
theorem takeAll?_taken : ({} : Block).takeAll? (listing.taken.map listing.write) = some listing.block := by
  rcases first : listing.lines with _ | ⟨_ | text, rest⟩
  · simp [taken, block, read, first, takeAll?]
  · obtain ⟨text, absurd, _⟩ := listing.starts none (by simp [first])
    cases absurd
  · obtain ⟨c, body, plain, split⟩ := first_text first
    have along : listing.goesAlong (some text) = true := by simp [goesAlong, split, Text.after?_append]
    have taken_eq : listing.taken = some text :: rest.takeWhile listing.goesAlong := by
      rw [taken, first, takeWhile_cons_of_pos along]
    rw [taken_eq, map_cons, takeAll?, foldlM_cons, take?_first first]
    refine (takeAll?_next (fun line member => mem_takeWhile_imp member) _).trans ?_
    simp [block, read, taken_eq, first]

theorem take?_left {line : Option Line} (left_eq : listing.left = line :: rest) :
    listing.block.take? (listing.write line) = none := by
  have some_lines : listing.lines ≠ [] := by
    intro none_left
    simp [left, none_left] at left_eq
  have apart := head?_dropWhile_not listing.goesAlong listing.lines
  rw [← left, left_eq] at apart
  have block_eq : listing.block = { margin := some (listing.margin ++ listing.extra), text := listing.read } := by
    simp [block, some_lines]
  rw [block_eq, take?_next, if_neg (by simpa using apart)]

end Listing

/-- The margin of a block, if it has one, starts with indentation. -/
def Block.IsIndented (block : Block) : Prop :=
  ∀ margin ∈ block.margin, ∃ c rest, margin = c :: rest ∧ isIndent c = true

theorem Listing.block_isIndented (listing : Listing) : listing.block.IsIndented := by
  intro margin member
  rcases margin_eq : listing.margin with _ | ⟨c, rest⟩
  · exact (listing.margin_ne_nil margin_eq).elim
  · have found : margin = listing.margin ++ listing.extra := by
      simp only [block] at member
      split at member
      · cases member
      · cases member
        rfl
    refine ⟨c, rest ++ listing.extra, ?_, ?_⟩
    · rw [found, margin_eq, cons_append]
    · exact listing.margin_indents c (by simp [margin_eq])

theorem Block.take?_unindented {block : Block} {line : Line} (indented : block.IsIndented)
    (unindented : IsUnindented line) : block.take? line = none := by
  obtain ⟨c, rest, rfl, plain⟩ := unindented
  unfold take?
  rcases margin_eq : block.margin with _ | margin
  · simp [indented?, plain]
  · obtain ⟨d, more, rfl, indents⟩ := indented margin (by simp [margin_eq])
    have apart : d ≠ c := by
      rintro rfl
      rw [plain] at indents
      cases indents
    simp [Text.after?, apart]

/-- An empty line ends no block, and adds nothing to what it will be at the end. -/
theorem Block.take?_empty (block : Block) :
    ∃ after, block.take? [] = some after ∧ after.margin = block.margin ∧ after.closed = block.closed := by
  have same (text : Line) : Text.withoutEnd (text ++ ['\n']) = Text.withoutEnd text := by
    simp [Text.withoutEnd_concat]
  obtain ⟨_ | _ | ⟨c, margin⟩, text⟩ := block
  · exact ⟨{ margin := none, text }, rfl, rfl, rfl⟩
  · exact ⟨{ margin := some [], text := text ++ ['\n'] }, rfl, rfl, by simp [closed, same]⟩
  · exact ⟨{ margin := some (c :: margin), text := text ++ ['\n'] }, rfl, rfl, by simp [closed, same]⟩

/-! ### What is read and what is meant -/

/-- A line that holds no line end. -/
def IsClean (line : Line) : Prop := '\n' ∉ line ∧ '\r' ∉ line

instance (line : Line) : Decidable (IsClean line) := inferInstanceAs (Decidable (_ ∧ _))

/-- The number of characters that end no line. -/
def weight (text : Line) : Nat := text.countP (· != '\n')

theorem weight_append (text more : Line) : weight (text ++ more) = weight text + weight more := countP_append

theorem weight_rdropWhile (text : Line) : weight (text.rdropWhile (· == '\n')) = weight text := by
  induction text using reverseRecOn with
  | nil => rfl
  | append_singleton text c ih =>
    rw [rdropWhile_concat]
    split
    next ends => simp_all [weight]
    next => rfl

theorem segment_append {indent : Line} (indents : ∀ c ∈ indent, isIndent c = true) (rest : Line) :
    segment (indent ++ rest) = indent ++ segment rest := by
  induction indent with
  | nil => rfl
  | cons c indent ih =>
    have indents_tail := (forall_mem_cons.1 indents).2
    have plain : c ≠ '\\' := by
      rintro rfl
      exact absurd (indents '\\' mem_cons_self) (by decide)
    rcases tail_eq : indent ++ rest with _ | ⟨d, more⟩
    · obtain ⟨rfl, rfl⟩ := append_eq_nil_iff.mp tail_eq
      simp [segment, plain]
    · rw [cons_append, tail_eq, segment_cons_cons, ← tail_eq, ih indents_tail, cons_append]

theorem carriage_not_mem_segment {line : Line} (clean : '\r' ∉ line) : '\r' ∉ segment line := by
  unfold segment
  split
  · exact fun member => clean (dropLast_subset line member)
  · simp [clean]

namespace Listing

variable {listing : Listing}

/-- The whole block with the lines joined that go on. -/
def whole (listing : Listing) : Line := (listing.lines.map (·.getD [])).flatMap segment

section Clean

variable (clean : ∀ line ∈ listing.written, IsClean line)

include clean

theorem isClean_text {text : Line} (member : some text ∈ listing.lines) : IsClean text := by
  have whole_line := clean (listing.write (some text)) (mem_map_of_mem member)
  simp only [IsClean, write, mem_append, not_or] at whole_line
  exact ⟨whole_line.1.2, whole_line.2.2⟩

theorem meant_eq : listing.meant = listing.whole.rdropWhile (· == '\n') ++ ['\n'] := by
  rw [meant, continued_lines, whole]
  intro line member
  obtain ⟨_ | text, listed, rfl⟩ := mem_map.mp member
  · simp
  · exact (isClean_text clean listed).1

theorem closed_block : listing.block.closed = listing.read.rdropWhile (· == '\n') ++ ['\n'] := by
  rw [closed, block, Text.withoutEnd_eq_rdropWhile]
  intro member
  obtain ⟨line, listed, inside⟩ := mem_flatMap.mp member
  obtain ⟨_ | text, taken_line, rfl⟩ := mem_map.mp listed
  · simp [readLine, segment] at inside
  · have text_clean := isClean_text clean ((takeWhile_subset _) taken_line)
    exact carriage_not_mem_segment (fun held => text_clean.2 (mem_of_mem_drop held)) inside

end Clean

theorem goesAlong_of_isFlush (flush : listing.IsFlush) (line : Option Line) : listing.goesAlong line = true := by
  rw [IsFlush] at flush
  cases line with
  | none => rfl
  | some text => simp [goesAlong, flush, Text.after?]

theorem read_of_isFlush (flush : listing.IsFlush) : listing.read = listing.whole := by
  have all_taken : listing.taken = listing.lines :=
    takeWhile_eq_self_iff.mpr fun line _ => goesAlong_of_isFlush flush line
  have same (line : Option Line) : listing.readLine line = line.getD [] := by
    rw [IsFlush] at flush
    cases line with
    | none => rfl
    | some text => simp [readLine, flush]
  rw [read, whole, all_taken, map_congr_left fun line _ => same line]

/-- A block whose first line is indented further is cut: not every line has that indentation. -/
theorem left_eq_nil_iff : listing.left = [] ↔ listing.IsFlush := by
  rw [left, dropWhile_eq_nil_iff]
  constructor
  · intro along
    rcases extra_eq : listing.extra with _ | ⟨c, more⟩
    · exact extra_eq
    · have some_lines : listing.lines ≠ [] := by
        intro no_lines
        simp [extra, no_lines] at extra_eq
      have first : c ∈ listing.extra := by simp [extra_eq]
      obtain ⟨text, member, other⟩ := listing.common some_lines c (extra_indents c first)
      obtain ⟨rest, found⟩ := isSome_iff_exists.mp (along (some text) member)
      rw [extra_eq, Text.after?_eq_some] at found
      simp [found] at other
  · exact fun flush line _ => goesAlong_of_isFlush flush line

theorem weight_extra : weight listing.extra = listing.extra.length := by
  apply countP_eq_length.mpr
  intro c member
  have indents := extra_indents c member
  simp only [bne_iff_ne]
  rintro rfl
  exact absurd indents (by decide)

/-- A line that goes along lacks the indentation of the first one when it is read. -/
theorem weight_segment {text : Line} (along : listing.goesAlong (some text) = true) :
    weight (segment text) = listing.extra.length + weight (segment (listing.readLine (some text))) := by
  obtain ⟨rest, found⟩ := isSome_iff_exists.mp along
  rw [Text.after?_eq_some.mp found, segment_append extra_indents, weight_append, weight_extra, readLine, drop_left]

theorem weight_read_le {lines : List (Option Line)} (along : ∀ line ∈ lines, listing.goesAlong line = true) :
    weight ((lines.map listing.readLine).flatMap segment) ≤ weight ((lines.map (·.getD [])).flatMap segment) := by
  induction lines with
  | nil => rfl
  | cons line lines ih =>
    have rest_le := ih (forall_mem_cons.1 along).2
    simp only [map_cons, flatMap_cons, weight_append]
    cases line with
    | none =>
      change weight (segment []) + _ ≤ weight (segment []) + _
      omega
    | some text =>
      have line_eq := weight_segment (along (some text) mem_cons_self)
      simp only [getD_some]
      omega

/-- Something is lost of a block whose first line is indented further. -/
theorem weight_read_lt (deeper : ¬ listing.IsFlush) : weight listing.read < weight listing.whole := by
  rw [IsFlush] at deeper
  rcases first : listing.lines with _ | ⟨_ | text, rest⟩
  iterate 2 · simp [extra, first] at deeper
  · obtain ⟨c, body, plain, split⟩ := first_text first
    have along : listing.goesAlong (some text) = true := by simp [goesAlong, split, Text.after?_append]
    have line_eq := weight_segment along
    have rest_along : ∀ line ∈ rest.takeWhile listing.goesAlong, listing.goesAlong line = true :=
      fun line member => mem_takeWhile_imp member
    have rest_le := weight_read_le rest_along
    have some_extra := length_pos_iff.mpr deeper
    have read_eq : listing.read = segment (listing.readLine (some text)) ++
        ((rest.takeWhile listing.goesAlong).map listing.readLine).flatMap segment := by
      rw [read, taken, first, takeWhile_cons_of_pos along, map_cons, flatMap_cons]
    have whole_eq : listing.whole = segment text ++
        ((rest.takeWhile listing.goesAlong ++ rest.dropWhile listing.goesAlong).map (·.getD [])).flatMap segment := by
      rw [takeWhile_append_dropWhile, whole, first, map_cons, flatMap_cons, getD_some]
    rw [read_eq, whole_eq, map_append, flatMap_append]
    simp only [weight_append]
    omega

/-- A block is read as it is meant exactly if its first line is indented by what the lines have in common. -/
theorem closed_eq_meant_iff (clean : ∀ line ∈ listing.written, IsClean line) :
    listing.block.closed = listing.meant ↔ listing.IsFlush := by
  rw [closed_block clean, meant_eq clean]
  constructor
  · -- Trimming and the line ends make no difference to the weight, and the indentation of the first line does.
    intro same
    by_contra deeper
    have lost := weight_read_lt deeper
    have kept := congrArg weight (append_cancel_right same)
    rw [weight_rdropWhile, weight_rdropWhile] at kept
    omega
  · intro flush
    rw [read_of_isFlush flush]

end Listing

end Playhouse.Manual
