import Playhouse.Proofs.Manual.Blocks
import Playhouse.Proofs.Manual.Stages

/-!
What is read from a manual page. A page is text with examples in it, each in the form that the reader looks for. The
examples come out in order and as they are meant, with two exceptions. An example comes out when a line follows that
ends its tags, so the last one is lost if the page ends with it. A block whose first line is indented further than the
whole is cut.
-/
namespace Playhouse.Manual
open List Text Block Option Stage Listing

variable {stageOf : Block → Stage} {options code : Line}

/-! ### Lines of a page -/

/-- The lines that a text holds. There are two ways to end a line, and the last one need not end. -/
inductive HasLines : Line → List Line → Prop
  | nil : HasLines [] []
  | last {line : Line} : IsClean line → line ≠ [] → HasLines line [line]
  | cons {line ending text : Line} {lines : List Line} :
      IsClean line → ending = ['\n'] ∨ ending = ['\r', '\n'] → HasLines text lines →
        HasLines (line ++ (ending ++ text)) (line :: lines)

theorem HasLines.isClean {text : Line} {lines : List Line} (held : HasLines text lines) :
    ∀ line ∈ lines, IsClean line := by
  induction held with
  | nil => simp
  | last clean _ => simpa using clean
  | cons clean _ _ ih => simpa using ⟨clean, ih⟩

theorem hasLines_flatMap {lines : List Line} (clean : ∀ line ∈ lines, IsClean line) :
    HasLines (lines.flatMap (· ++ ['\n'])) lines := by
  induction lines with
  | nil => exact .nil
  | cons line lines ih =>
    rw [flatMap_cons, append_assoc]
    have rest_held := ih (forall_mem_cons.1 clean).2
    exact .cons (clean line mem_cons_self) (.inl rfl) rest_held

theorem fullLines_append {line : Line} (clean : '\n' ∉ line) (rest : Line) :
    fullLines (line ++ '\n' :: rest) = (line ++ ['\n']) :: fullLines rest := by
  induction line with
  | nil => simp [fullLines]
  | cons c line ih =>
    rw [mem_cons, not_or] at clean
    rw [cons_append, fullLines, if_neg (Ne.symm clean.1), ih clean.2]
    rfl

theorem fullLines_last {line : Line} (clean : '\n' ∉ line) (some_line : line ≠ []) : fullLines line = [line] := by
  induction line with
  | nil => exact (some_line rfl).elim
  | cons c line ih =>
    rw [mem_cons, not_or] at clean
    rw [fullLines, if_neg (Ne.symm clean.1)]
    cases line with
    | nil => rfl
    | cons d line =>
      rw [ih clean.2 (by simp)]
      rfl

theorem withoutEnd_of_isClean {line : Line} (clean : IsClean line) : withoutEnd line = line := by
  induction line using reverseRecOn with
  | nil => rfl
  | append_singleton line c _ =>
    simp only [IsClean, mem_append, mem_singleton, not_or] at clean
    rw [withoutEnd_concat, if_neg]
    rintro (rfl | rfl)
    · exact clean.2.2 rfl
    · exact clean.1.2 rfl

theorem HasLines.pageLines {page : String} {lines : List Line} (held : HasLines page.toList lines) :
    pageLines page = lines := by
  unfold Manual.pageLines
  generalize page.toList = text at held
  induction held with
  | nil => rfl
  | last clean some_line => simp [fullLines_last clean.1 some_line, withoutEnd_of_isClean clean]
  | @cons line ending text lines clean ends _ ih =>
    rcases ends with rfl | rfl
    · rw [singleton_append, fullLines_append clean.1, map_cons, ih, withoutEnd_concat]
      simp [withoutEnd_of_isClean clean]
    · have split : line ++ (['\r', '\n'] ++ text) = (line ++ ['\r']) ++ '\n' :: text := by simp
      have clean' : '\n' ∉ line ++ ['\r'] := by simp [clean.1]
      rw [split, fullLines_append clean', map_cons, ih, withoutEnd_concat, withoutEnd_concat]
      simp [withoutEnd_of_isClean clean]

/-! ### Examples as they are written -/

def nameLine (extension : Line) : Line := "\"input.".toList ++ (extension ++ ['"'])

def codeLine (language : Line) : Line := ".. code-block::".toList ++ language

def outputLine : Line := "\"output.tags\"".toList

def optionsLine (options : Line) : Line := "with \"".toList ++ (options ++ ['"'])

def tagsLine : Line := ".. code-block:: tags".toList

/-- Empty lines. -/
def gap (count : Nat) : List Line := replicate count []

/-- An example as a page shows it, with empty lines between its parts. -/
structure Shown where
  extension : Line
  extension_ne_nil : extension ≠ []
  extension_plain : '"' ∉ extension
  nameGap : Nat
  language : Line
  codeGap : Nat
  code : Listing
  outputGap : Nat
  options : Line
  options_ne_nil : options ≠ []
  options_plain : '"' ∉ options
  optionsGap : Nat
  tagsGap : Nat
  tags : Listing

namespace Shown

variable (shown : Shown)

/-- The lines from the name of the input to its block. -/
def opening : List Line := nameLine shown.extension :: (gap shown.nameGap ++ [codeLine shown.language])

/-- The lines from the name of the output to the block of tags. -/
def middle : List Line :=
  outputLine :: (gap shown.outputGap ++ optionsLine shown.options :: (gap shown.optionsGap ++ [tagsLine]))

def lines : List Line :=
  shown.opening ++ (gap shown.codeGap ++ (shown.code.written ++
    (shown.middle ++ (gap shown.tagsGap ++ shown.tags.written))))

end Shown

/-- Whether a line is one that starts an example. -/
def StartsExample (line : Line) : Prop :=
  ∃ extension, extension ≠ [] ∧ '"' ∉ extension ∧ line = nameLine extension

/-- Text between examples: no line of it is indented, and none starts an example. -/
structure Prose where
  lines : List Line
  unindented : ∀ line ∈ lines, line = [] ∨ IsUnindented line
  plain : ∀ line ∈ lines, ¬ StartsExample line

/-- A page: text, and examples with the text that follows each. -/
structure Document where
  preface : Prose
  parts : List (Shown × Prose)

def linesOfParts (parts : List (Shown × Prose)) : List Line := parts.flatMap fun part => part.1.lines ++ part.2.lines

def Document.lines (document : Document) : List Line := document.preface.lines ++ linesOfParts document.parts

/-- What an example says, and its place among the others. -/
structure Content where
  place : Nat
  fileName : String
  options : String
  code : String
  tags : String
  deriving DecidableEq

def Example.content (found : Example) : Content where
  place := found.place
  fileName := found.fileName
  options := found.options
  code := found.code
  tags := found.tags

namespace Shown

variable (shown : Shown)

def fileName : Line := "input.".toList ++ shown.extension

/-- What an example stands for. -/
def meant (place : Nat) : Content where
  place := place
  fileName := String.ofList shown.fileName
  options := String.ofList shown.options
  code := String.ofList shown.code.meant
  tags := String.ofList shown.tags.meant

/-- What the reader makes of it. -/
def reading (place : Nat) : Content where
  place := place
  fileName := String.ofList shown.fileName
  options := String.ofList shown.options
  code := String.ofList shown.code.block.closed
  tags := String.ofList shown.tags.block.closed

end Shown

/-! ### Reading -/

/-- What comes out of some lines, wherever on the page they are. -/
def Reads (place : Nat) (stage : Stage) (lines : List Line) (found : List Content) : Prop :=
  ∀ number, (examplesFrom place number stage lines).map Example.content = found

/-- A line that a stage passes over. -/
def Stage.IsIdle (stage : Stage) (line : Line) : Prop :=
  ∀ place number, stage.read place number line = (stage, none)

/-- Stages that take the lines of a block. -/
def TakesLines (stageOf : Block → Stage) : Prop :=
  ∀ {block line next} place number, block.take? line = some next →
    (stageOf block).read place number line = (stageOf next, none)

theorem takesLines_inCode (opening : Opening) : TakesLines (.inCode opening) := by
  intro block line next place number taken
  simp only [Stage.read, taken]

theorem takesLines_inTags (opening : Opening) (code options : Line) : TakesLines (.inTags opening code options) := by
  intro block line next place number taken
  simp only [Stage.read, taken]

namespace Reads

variable {place : Nat} {stage : Stage} {line : Line} {rest : List Line} {found : List Content}

theorem step {next : Nat → Stage} (moves : ∀ number, stage.read place number line = (next number, none))
    (after : ∀ number, Reads place (next number) rest found) : Reads place stage (line :: rest) found := by
  intro number
  rw [examplesFrom, moves]
  exact after number (number + 1)

theorem skip {part : List Line} (idle : ∀ line ∈ part, stage.IsIdle line) (after : Reads place stage rest found) :
    Reads place stage (part ++ rest) found := by
  induction part with
  | nil => exact after
  | cons line part ih =>
    apply step (fun number => idle line mem_cons_self place number)
    exact fun _ => ih (forall_mem_cons.1 idle).2

theorem take (takes : TakesLines stageOf) {block last : Block} {lines : List Line}
    (taken : block.takeAll? lines = some last) (after : Reads place (stageOf last) rest found) :
    Reads place (stageOf block) (lines ++ rest) found := by
  induction lines generalizing block with
  | nil =>
    cases taken
    exact after
  | cons line lines ih =>
    obtain ⟨next, first, others⟩ := bind_eq_some_iff.mp taken
    apply step (fun number => takes place number first)
    exact fun _ => ih others

variable {opening : Opening}

theorem close_code {block : Block} (untaken : block.take? line = none)
    (after : Reads place (.coded opening block.closed) (line :: rest) found) :
    Reads place (.inCode opening block) (line :: rest) found := by
  intro number
  have same : (inCode opening block).read place number line = (coded opening block.closed).read place number line := by
    simp [Stage.read, untaken]
  rw [← after number, examplesFrom, same, ← examplesFrom]

/-- A line that ends a block of tags ends the example, and is read like any other line after that. -/
theorem close_tags {block : Block} (untaken : block.take? line = none)
    (after : Reads (place + 1) .outside (line :: rest) found) :
    Reads place (.inTags opening code options block) (line :: rest)
      ({ place, fileName := String.ofList opening.fileName, options := String.ofList options
         code := String.ofList code, tags := String.ofList block.closed } :: found) := by
  intro number
  have ends : (inTags opening code options block).read place number line = (outside.advance number line, some
        { fileName := String.ofList opening.fileName, code := String.ofList code, options := String.ofList options
          tags := String.ofList block.closed, place, start := opening.start, stop := number }) := by
    simp [Stage.read, untaken]
  rw [← after number, examplesFrom, ends]
  rfl

/-- A page that ends inside a block of tags ends no example. -/
theorem run_out {lines : List Line} (empty : ∀ line ∈ lines, line = [])
    (block : Block) : Reads place (.inTags opening code options block) lines [] := by
  induction lines generalizing block with
  | nil => exact fun _ => rfl
  | cons line lines ih =>
    obtain rfl := empty line mem_cons_self
    obtain ⟨next, taken, -, -⟩ := block.take?_empty
    apply step (fun number => takesLines_inTags opening code options place number taken)
    exact fun _ => ih (forall_mem_cons.1 empty).2 next

end Reads

/-! ### Lines that are passed over and lines that count -/

theorem fileName?_eq_some {line name : Line} :
    fileName? line = some name ↔
      ∃ extension, extension ≠ [] ∧ '"' ∉ extension ∧ line = nameLine extension ∧
        name = "input.".toList ++ extension := by
  unfold fileName?
  constructor
  · intro named
    obtain ⟨rest, found, named⟩ := bind_eq_some_iff.mp named
    rw [after?_eq_some] at found
    split at named
    next reversed split =>
      rw [reverse_eq_cons_iff] at split
      split at named
      next => cases named
      next plain =>
        simp only [Bool.or_eq_true, List.isEmpty_iff, contains_iff_mem, not_or] at plain
        have line_eq : line = nameLine reversed.reverse := by
          rw [split] at found
          exact found
        have name_eq : name = "input.".toList ++ reversed.reverse := (Option.some.inj named).symm
        exact ⟨reversed.reverse, by simpa using plain.1, by simpa using plain.2, line_eq, name_eq⟩
    next => cases named
  · rintro ⟨extension, some_extension, no_quote, rfl, rfl⟩
    have found : after? "\"input.".toList (nameLine extension) = some (extension ++ ['"']) :=
      after?_append _ _
    have reversed : (extension ++ ['"']).reverse = '"' :: extension.reverse := by simp
    have accepted : (extension.reverse.isEmpty || extension.reverse.contains '"') = false := by
      simp [some_extension, no_quote]
    simp only [found, bind_eq_bind, bind_some, reversed, accepted, reverse_reverse]
    rfl

theorem directive?_codeLine (language : Line) : directive? (codeLine language) = some language :=
  after?_append " code-block::".toList language

theorem options?_optionsLine (some_options : options ≠ []) (plain : '"' ∉ options) :
    options? (optionsLine options) = some options := by
  have front : after? "with".toList (optionsLine options) = some (' ' :: '"' :: (options ++ ['"'])) :=
    after?_append "with".toList _
  have text : (options ++ ['"']).takeWhile (· ≠ '"') = options := by
    rw [takeWhile_append_of_pos, takeWhile_cons_of_neg (by simp), append_nil]
    intro c member
    simp only [decide_eq_true_eq]
    rintro rfl
    exact plain member
  have announced : announced? (optionsLine options) = some options := by
    unfold announced?
    rw [front]
    simp only [bind_eq_bind, bind_some, text]
    simp [isIndent, some_options]
  unfold optionsLine at announced ⊢
  change options? ('w' :: _) = _
  rw [options?]
  change (announced? ('w' :: _)) = _ at announced
  rw [announced]
  rfl

/-- A line that is empty or indented. -/
def IsInset (line : Line) : Prop := ∀ c ∈ line.head?, isIndent c = true

theorem isInset_nil : IsInset [] := by
  intro c absent
  cases absent

theorem Listing.isInset_write (listing : Listing) (line : Option Line) : IsInset (listing.write line) := by
  cases line with
  | none => exact isInset_nil
  | some text =>
    intro c member
    rcases margin_eq : listing.margin with _ | ⟨d, margin⟩
    · exact (listing.margin_ne_nil margin_eq).elim
    · simp only [write, margin_eq, cons_append, head?_cons, mem_some_iff] at member
      subst member
      exact listing.margin_indents d (by simp [margin_eq])

theorem after?_of_isInset {h : Char} {head line : Line} (plain : isIndent h = false) (inset : IsInset line) :
    after? (h :: head) line = none := by
  cases line with
  | nil => rfl
  | cons c line =>
    have indents := inset c rfl
    have apart : h ≠ c := by
      rintro rfl
      rw [plain] at indents
      cases indents
    simp [after?, apart]

theorem idle_outside {line : Line} (plain : ¬ StartsExample line) : outside.IsIdle line := by
  intro place number
  have unnamed : fileName? line = none := by
    rw [eq_none_iff_forall_ne_some]
    intro name found
    obtain ⟨extension, some_extension, no_quote, line_eq, -⟩ := fileName?_eq_some.mp found
    exact plain ⟨extension, some_extension, no_quote, line_eq⟩
  simp [Stage.read, advance, unnamed]

theorem not_startsExample_of_isInset {line : Line} (inset : IsInset line) : ¬ StartsExample line := by
  rintro ⟨extension, -, -, rfl⟩
  exact absurd (inset '"' rfl) (by decide)

theorem idle_coded {line : Line} (inset : IsInset line) (opening : Opening) (code : Line) :
    (coded opening code).IsIdle line := by
  intro place number
  have unnamed : namesOutput line = false := by
    have absent : after? "\"output".toList line = none := after?_of_isInset (by decide) inset
    rw [namesOutput, absent]
  simp [Stage.read, advance, unnamed]

/-- The stages that wait for a line. -/
def Stage.IsWaiting : Stage → Prop
  | .inCode .. => False
  | .inTags .. => False
  | _ => True

theorem idle_empty {stage : Stage} (waiting : stage.IsWaiting) : stage.IsIdle [] := by
  intro place number
  cases stage with
  | inCode | inTags => exact waiting.elim
  | _ => rfl

variable {rest : List Line} {found : List Content}

theorem Reads.skip_gap {place : Nat} {stage : Stage}
    (waiting : stage.IsWaiting) (count : Nat) (after : Reads place stage rest found) :
    Reads place stage (gap count ++ rest) found := by
  apply Reads.skip _ after
  intro line member
  obtain rfl := eq_of_mem_replicate member
  exact idle_empty waiting

theorem isUnindented_nameLine (extension : Line) : IsUnindented (nameLine extension) :=
  ⟨'"', "input.".toList ++ (extension ++ ['"']), rfl, rfl⟩

theorem isUnindented_outputLine : IsUnindented outputLine := ⟨'"', "output.tags\"".toList, rfl, rfl⟩

/-! ### Reading an example -/

theorem Listing.written_eq (listing : Listing) :
    listing.written = listing.taken.map listing.write ++ listing.left.map listing.write := by
  rw [← map_append, taken, left, takeWhile_append_dropWhile, written]

theorem takeAll?_gap (count : Nat) : ({} : Block).takeAll? (gap count) = some {} := by
  induction count with
  | zero => rfl
  | succ count ih => exact ih

section Shown

variable {place : Nat} {rest : List Line} {found : List Content}

theorem Reads.listing (takes : TakesLines stageOf) (count : Nat) (listing : Listing)
    (after : Reads place (stageOf listing.block) (listing.left.map listing.write ++ rest) found) :
    Reads place (stageOf {}) (gap count ++ (listing.written ++ rest)) found := by
  apply Reads.take takes (takeAll?_gap count)
  rw [listing.written_eq, append_assoc]
  exact Reads.take takes listing.takeAll?_taken after

variable {opening : Opening}

theorem Reads.leave_code {listing : Listing} {line : Line} (unindented : IsUnindented line)
    (after : Reads place (.coded opening listing.block.closed) (line :: rest) found) :
    Reads place (.inCode opening listing.block) (listing.left.map listing.write ++ line :: rest) found := by
  have idle : ∀ other ∈ listing.left.map listing.write, (coded opening listing.block.closed).IsIdle other := by
    intro other member
    obtain ⟨source, -, rfl⟩ := mem_map.mp member
    exact idle_coded (listing.isInset_write source) opening _
  have skipped := Reads.skip idle after
  rcases left_eq : listing.left with _ | ⟨first, others⟩
  · exact Reads.close_code (take?_unindented listing.block_isIndented unindented) after
  · rw [left_eq] at skipped
    exact Reads.close_code (take?_left left_eq) skipped

theorem Shown.reads_opening (shown : Shown)
    (after : ∀ start, Reads place (.inCode { fileName := shown.fileName, start } {}) rest found) :
    Reads place .outside (shown.opening ++ rest) found := by
  have named (number : Nat) : outside.read place number (nameLine shown.extension) =
      (.named { fileName := shown.fileName, start := number }, none) := by
    have name_eq : fileName? (nameLine shown.extension) = some shown.fileName :=
      fileName?_eq_some.mpr ⟨shown.extension, shown.extension_ne_nil, shown.extension_plain, rfl, rfl⟩
    simp only [Stage.read, advance, name_eq]
  have opened (opening : Opening) (number : Nat) :
      (Stage.named opening).read place number (codeLine shown.language) = (.inCode opening {}, none) := by
    simp only [Stage.read, advance, opensCode, directive?_codeLine, isSome_some, if_true]
  rw [opening, cons_append, append_assoc]
  apply Reads.step named
  intro start
  apply Reads.skip_gap
  · trivial
  exact Reads.step (opened _) fun _ => after start

theorem Shown.reads_middle (shown : Shown)
    (after : Reads place (.inTags opening code shown.options {}) rest found) :
    Reads place (.coded opening code) (shown.middle ++ rest) found := by
  have output (number : Nat) : (coded opening code).read place number outputLine = (.output opening code, none) := rfl
  have ordered (number : Nat) : (Stage.output opening code).read place number (optionsLine shown.options) =
      (.ordered opening code shown.options, none) := by
    simp only [Stage.read, advance, options?_optionsLine shown.options_ne_nil shown.options_plain]
  have opened (number : Nat) : (Stage.ordered opening code shown.options).read place number tagsLine =
      (.inTags opening code shown.options {}, none) := rfl
  rw [middle, cons_append, append_assoc, cons_append, append_assoc]
  apply Reads.step output
  intro _
  apply Reads.skip_gap
  · trivial
  apply Reads.step ordered
  intro _
  apply Reads.skip_gap
  · trivial
  exact Reads.step opened fun _ => after

/-- An example is read up to the lines of its tags that the block does not take. -/
theorem Shown.reads_lines (shown : Shown) (after : ∀ start, Reads place
      (.inTags { fileName := shown.fileName, start } shown.code.block.closed shown.options shown.tags.block)
      (shown.tags.left.map shown.tags.write ++ rest) found) :
    Reads place .outside (shown.lines ++ rest) found := by
  simp only [lines, append_assoc]
  apply shown.reads_opening
  intro start
  apply Reads.listing (takesLines_inCode _)
  rw [middle, cons_append]
  apply Reads.leave_code isUnindented_outputLine
  apply shown.reads_middle
  apply Reads.listing (takesLines_inTags _ _ _)
  exact after start

/-- Text that goes on to a line ends a block of tags, whatever empty lines come first. -/
theorem Reads.leave_tags {text : List Line}
    (unindented : ∀ line ∈ text, line = [] ∨ IsUnindented line) (plain : ∀ line ∈ text, ¬ StartsExample line)
    (ended : (∃ line ∈ text, line ≠ []) ∨ ∃ line more, rest = line :: more ∧ IsUnindented line)
    {block : Block} (indented : block.IsIndented) (after : Reads (place + 1) .outside rest found) :
    Reads place (.inTags opening code options block) (text ++ rest)
      ({ place, fileName := String.ofList opening.fileName, options := String.ofList options
         code := String.ofList code, tags := String.ofList block.closed } :: found) := by
  -- Over the text, for any block with the same text at the end: an empty line changes the block.
  induction text generalizing block with
  | nil =>
    obtain ⟨line, absurd, _⟩ | ⟨line, more, rfl, line_unindented⟩ := ended
    · cases absurd
    · exact Reads.close_tags (take?_unindented indented line_unindented) after
  | cons line text ih =>
    rcases unindented line mem_cons_self with rfl | line_unindented
    · obtain ⟨next, taken, same_margin, same_text⟩ := block.take?_empty
      have next_indented : next.IsIndented := by
        rw [IsIndented, same_margin]
        exact indented
      have text_ended : (∃ line ∈ text, line ≠ []) ∨ ∃ line more, rest = line :: more ∧ IsUnindented line := by
        simpa using ended
      rw [← same_text]
      apply Reads.step (fun number => takesLines_inTags opening code options place number taken)
      exact fun _ => ih (forall_mem_cons.1 unindented).2 (forall_mem_cons.1 plain).2 text_ended next_indented
    · apply Reads.close_tags (take?_unindented indented line_unindented)
      exact Reads.skip (fun other member => idle_outside (plain other member)) after

theorem Reads.skip_prose (text : Prose) (after : Reads place .outside rest found) :
    Reads place .outside (text.lines ++ rest) found :=
  Reads.skip (fun line member => idle_outside (text.plain line member)) after

/-- An example comes out where a line ends its tags: one that they leave, one of the text after them, or the next. -/
theorem Shown.reads_ended (shown : Shown) (text : Prose)
    (ended : ¬ shown.tags.IsFlush ∨ (∃ line ∈ text.lines, line ≠ []) ∨
      ∃ line more, rest = line :: more ∧ IsUnindented line)
    (after : Reads (place + 1) .outside rest found) :
    Reads place .outside (shown.lines ++ (text.lines ++ rest)) (shown.reading place :: found) := by
  apply shown.reads_lines
  intro start
  -- What the tags leave ends them; only if they leave nothing does it matter what follows.
  rcases left_eq : shown.tags.left with _ | ⟨first, others⟩
  · have text_ended := ended.resolve_left (not_not.mpr (left_eq_nil_iff.mp left_eq))
    exact Reads.leave_tags text.unindented text.plain text_ended shown.tags.block_isIndented after
  · have idle : ∀ other ∈ (first :: others).map shown.tags.write, outside.IsIdle other := by
      intro other member
      obtain ⟨source, -, rfl⟩ := mem_map.mp member
      exact idle_outside (not_startsExample_of_isInset (shown.tags.isInset_write source))
    apply Reads.close_tags (take?_left left_eq)
    exact Reads.skip idle (Reads.skip_prose text after)

theorem Shown.reads_cut (shown : Shown) (text : Prose) (flush : shown.tags.IsFlush)
    (empty : ∀ line ∈ text.lines, line = []) : Reads place .outside (shown.lines ++ text.lines) [] := by
  apply shown.reads_lines
  intro start
  rw [left_eq_nil_iff.mpr flush]
  exact Reads.run_out empty _

end Shown

/-! ### Reading a page -/

/-- What the reader makes of the examples of a page. -/
def readings (parts : List (Shown × Prose)) : List Content := parts.mapIdx fun place part => part.1.reading place

theorem linesOfParts_starts (parts : List (Shown × Prose))
    (starts : ∃ line more, rest = line :: more ∧ IsUnindented line) :
    ∃ line more, linesOfParts parts ++ rest = line :: more ∧ IsUnindented line := by
  cases parts with
  | nil => exact starts
  | cons part parts => exact ⟨nameLine part.1.extension, _, rfl, isUnindented_nameLine _⟩

/-- Each example ends at the latest where the next one starts. -/
theorem reads_parts (parts : List (Shown × Prose)) (place : Nat)
    (starts : ∃ line more, rest = line :: more ∧ IsUnindented line)
    (after : Reads (place + parts.length) .outside rest found) :
    Reads place .outside (linesOfParts parts ++ rest)
      (parts.mapIdx (fun k part => part.1.reading (place + k)) ++ found) := by
  induction parts generalizing place with
  | nil => exact after
  | cons part parts ih =>
    have shift : (fun k (part : Shown × Prose) => part.1.reading (place + (k + 1))) =
        fun k part => part.1.reading (place + 1 + k) := by
      funext k part
      rw [Nat.add_comm k, Nat.add_assoc]
    rw [linesOfParts, flatMap_cons, append_assoc, append_assoc, mapIdx_cons, shift]
    apply part.1.reads_ended part.2 (.inr (.inr (linesOfParts_starts parts starts)))
    apply ih
    rw [Nat.add_assoc, Nat.add_comm 1]
    exact after

namespace Document

variable (document : Document)

/-- The examples of a page as they are meant. -/
def meant : List Content := document.parts.mapIdx fun place part => part.1.meant place

/-- Every block starts with the indentation that its lines have in common. -/
def IsFlush : Prop := ∀ part ∈ document.parts, part.1.code.IsFlush ∧ part.1.tags.IsFlush

/-- After the last example there is a line that is not empty. -/
def IsClosed : Prop := ∀ part ∈ document.parts.getLast?, ∃ line ∈ part.2.lines, line ≠ []

/-- The tags of the last example end, at a line that they leave or at one after them. -/
def IsEnded : Prop :=
  ∀ part ∈ document.parts.getLast?, ¬ part.1.tags.IsFlush ∨ ∃ line ∈ part.2.lines, line ≠ []

variable {document}

theorem reads_of_last {earlier : List (Shown × Prose)} {last : Shown × Prose} {found : List Content}
    (parts_eq : document.parts = earlier ++ [last])
    (after : Reads earlier.length .outside (last.1.lines ++ last.2.lines) found) :
    Reads 0 .outside document.lines (readings earlier ++ found) := by
  have lines_eq : linesOfParts document.parts = linesOfParts earlier ++ (last.1.lines ++ last.2.lines) := by
    simp [linesOfParts, parts_eq]
  rw [lines, lines_eq]
  apply Reads.skip_prose
  have shift : (fun k (part : Shown × Prose) => part.1.reading (0 + k)) = fun k part => part.1.reading k := by
    funext k part
    rw [Nat.zero_add]
  rw [readings, ← shift]
  apply reads_parts earlier 0 ⟨nameLine last.1.extension, _, rfl, isUnindented_nameLine _⟩
  rw [Nat.zero_add]
  exact after

theorem readings_concat (earlier : List (Shown × Prose)) (last : Shown × Prose) :
    readings (earlier ++ [last]) = readings earlier ++ [last.1.reading earlier.length] := mapIdx_concat

theorem reads_of_isEnded (ended : document.IsEnded) : Reads 0 .outside document.lines (readings document.parts) := by
  rcases eq_nil_or_concat' document.parts with none_shown | ⟨earlier, last, parts_eq⟩
  · rw [lines, none_shown]
    exact Reads.skip_prose _ fun _ => rfl
  · have last_ended := ended last (by simp [parts_eq])
    have none_after : Reads (earlier.length + 1) .outside [] [] := fun _ => rfl
    have last_read := last.1.reads_ended last.2 (last_ended.imp_right .inl) none_after
    rw [append_nil] at last_read
    rw [parts_eq, readings_concat]
    exact reads_of_last parts_eq last_read

/-- Of a page that ends inside the tags of an example, all the others come out. -/
theorem reads_of_not_isEnded (cut : ¬ document.IsEnded) :
    Reads 0 .outside document.lines (readings document.parts).dropLast := by
  rcases eq_nil_or_concat' document.parts with none_shown | ⟨earlier, last, parts_eq⟩
  · exact (cut (by simp [IsEnded, none_shown])).elim
  · have last_cut : last.1.tags.IsFlush ∧ ∀ line ∈ last.2.lines, line = [] := by
      simpa [IsEnded, parts_eq] using cut
    have last_read := reads_of_last parts_eq (last.1.reads_cut last.2 last_cut.1 last_cut.2)
    rw [parts_eq, readings_concat]
    simpa using last_read

theorem isClean_listings (clean : ∀ line ∈ document.lines, IsClean line) {part : Shown × Prose}
    (member : part ∈ document.parts) :
    (∀ line ∈ part.1.code.written, IsClean line) ∧ ∀ line ∈ part.1.tags.written, IsClean line := by
  have part_clean : ∀ line ∈ part.1.lines, IsClean line := by
    intro line inside
    apply clean
    rw [lines, mem_append]
    exact .inr (mem_flatMap.mpr ⟨part, member, mem_append_left _ inside⟩)
  constructor
  all_goals
    intro line inside
    exact part_clean line (by simp [Shown.lines, inside])

theorem readings_eq_meant_iff (clean : ∀ line ∈ document.lines, IsClean line) :
    readings document.parts = document.meant ↔ document.IsFlush := by
  have same (place : Nat) {part : Shown × Prose} (member : part ∈ document.parts) :
      part.1.reading place = part.1.meant place ↔ part.1.code.IsFlush ∧ part.1.tags.IsFlush := by
    obtain ⟨code_clean, tags_clean⟩ := isClean_listings clean member
    rw [← closed_eq_meant_iff code_clean, ← closed_eq_meant_iff tags_clean]
    simp [Shown.reading, Shown.meant, String.ofList_inj]
  rw [readings, meant, mapIdx_eq_mapIdx_iff]
  constructor
  · intro all_same part member
    obtain ⟨k, bound, rfl⟩ := mem_iff_getElem.mp member
    exact (same k member).mp (all_same k bound)
  · intro flush k bound
    have member := getElem_mem bound
    exact (same k member).mpr (flush _ member)

theorem isEnded_iff (flush : document.IsFlush) : document.IsEnded ↔ document.IsClosed := by
  constructor
  · intro ended part member
    have tags_flush := (flush part (mem_of_getLast? member)).2
    exact (ended part member).resolve_left (not_not.mpr tags_flush)
  · exact fun closed part member => .inr (closed part member)

theorem readings_dropLast_ne_meant (cut : ¬ document.IsEnded) :
    (readings document.parts).dropLast ≠ document.meant := by
  intro same
  have lengths := congrArg length same
  rw [length_dropLast, readings, meant, length_mapIdx, length_mapIdx] at lengths
  have none_shown : document.parts = [] := eq_nil_of_length_eq_zero (by omega)
  exact cut (by simp [IsEnded, none_shown])

end Document

/-- Of a page with examples in it come out all of them, in order and as they are meant, exactly if every block starts
with the indentation of the whole and a line follows the last example. If only that line is missing, all but the last
example come out. -/
theorem examples_eq_meant_iff (document : Document) (page : String)
    (held : HasLines page.toList document.lines) :
    ((examples page).map Example.content = document.meant ↔ document.IsFlush ∧ document.IsClosed) ∧
      (document.IsFlush → ¬ document.IsClosed →
        (examples page).map Example.content = document.meant.dropLast) := by
  have page_read : examples page = examplesFrom 0 1 .outside document.lines := by rw [examples_eq, held.pageLines]
  have same := Document.readings_eq_meant_iff held.isClean
  rw [page_read]
  by_cases ended : document.IsEnded
  · rw [Document.reads_of_isEnded ended 1, same]
    constructor
    · exact ⟨fun flush => ⟨flush, (Document.isEnded_iff flush).mp ended⟩, And.left⟩
    · exact fun flush unclosed => absurd ((Document.isEnded_iff flush).mp ended) unclosed
  · rw [Document.reads_of_not_isEnded ended 1]
    constructor
    · constructor
      · exact fun equal => absurd equal (Document.readings_dropLast_ne_meant ended)
      · exact fun ⟨flush, closed⟩ => absurd ((Document.isEnded_iff flush).mpr closed) ended
    · intro flush _
      rw [same.mpr flush]

/-- A block of one line. -/
def Listing.ofLine (c : Char) (text : Line) (plain : isIndent c = false) : Listing where
  margin := [' ', ' ', ' ']
  lines := [some (c :: text)]
  margin_ne_nil := by simp
  margin_indents := by simp [isIndent]
  starts := by simp [plain]
  common := by
    intro _ d indents
    refine ⟨c :: text, by simp, ?_⟩
    rintro same
    cases same
    rw [plain] at indents
    cases indents

/-- A page that ends with the tags of its one example. -/
def unclosedPage : Document where
  preface := { lines := [], unindented := by simp, plain := by simp }
  parts :=
    [({ extension := "c".toList
        extension_ne_nil := by decide
        extension_plain := by decide
        nameGap := 1
        language := " C".toList
        codeGap := 1
        code := .ofLine 'i' "nt x;".toList rfl
        outputGap := 0
        options := "-o - input.c".toList
        options_ne_nil := by decide
        options_plain := by decide
        optionsGap := 1
        tagsGap := 1
        tags := .ofLine 'x' "\tinput.c".toList rfl }, { lines := [], unindented := by simp, plain := by simp })]

theorem last_example_lost :
    unclosedPage.meant =
        [{ place := 0, fileName := "input.c", options := "-o - input.c", code := "int x;\n", tags := "x\tinput.c\n" }] ∧
      ∃ page : String, HasLines page.toList unclosedPage.lines ∧ (examples page).map Example.content = [] := by
  have clean : ∀ line ∈ unclosedPage.lines, IsClean line := by decide +kernel
  have held : HasLines (String.ofList (unclosedPage.lines.flatMap (· ++ ['\n']))).toList unclosedPage.lines := by
    rw [String.toList_ofList]
    exact hasLines_flatMap clean
  have flush : unclosedPage.IsFlush := by
    intro part member
    obtain rfl := List.mem_singleton.mp member
    exact ⟨rfl, rfl⟩
  have unclosed : ¬ unclosedPage.IsClosed := by
    intro closed
    obtain ⟨line, absent, _⟩ := closed _ rfl
    cases absent
  refine ⟨by decide +kernel, _, held, ?_⟩
  exact (examples_eq_meant_iff _ _ held).2 flush unclosed

end Playhouse.Manual
