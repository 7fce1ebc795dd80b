import Mathlib.Data.List.Forall2
import Playhouse.Manual.Check
import Playhouse.Proofs.Data.Fields

/-!
The reader without its record. A stage holds the parts of the example that has been begun and nothing else, so what has
been left of other examples cannot matter to it. The reader's record says what the stage holds, whatever else it says
and however those who were given it have changed it.
-/
namespace Playhouse.Manual
open Fields List
open String (ofList)

/-- Where an example starts. -/
structure Opening where
  fileName : Line
  start : Nat

def Opening.entries (opening : Opening) : List (String × Value) :=
  [("start_linum", .int opening.start), ("input_file_name", .text (ofList opening.fileName))]

/-- How far an example has been read. -/
inductive Stage where
  | outside
  | named (opening : Opening)
  | inCode (opening : Opening) (block : Block)
  | coded (opening : Opening) (code : Line)
  | output (opening : Opening) (code : Line)
  | ordered (opening : Opening) (code options : Line)
  | inTags (opening : Opening) (code options : Line) (block : Block)

/-- Looks for the line that opens the next part. -/
def Stage.advance (number : Nat) (line : Line) : Stage → Stage
  | .outside =>
    match fileName? line with
    | some fileName => .named { fileName, start := number }
    | none => .outside
  | .named opening => if opensCode line then .inCode opening {} else .named opening
  | .coded opening code => if namesOutput line then .output opening code else .coded opening code
  | .output opening code =>
    match options? line with
    | some options => .ordered opening code options
    | none => .output opening code
  | .ordered opening code options =>
    if opensTags line then .inTags opening code options {} else .ordered opening code options
  | stage => stage

/-- Reads a line: the stage after it and the example that it ends, which is the one at `place`. -/
def Stage.read (place number : Nat) (line : Line) : Stage → Stage × Option Example
  | .inCode opening block =>
    match block.take? line with
    | some block => (.inCode opening block, none)
    | none => ((Stage.coded opening block.closed).advance number line, none)
  | .inTags opening code options block =>
    match block.take? line with
    | some block => (.inTags opening code options block, none)
    | none =>
      (Stage.outside.advance number line, some
        { fileName := ofList opening.fileName
          code := ofList code
          options := ofList options
          tags := ofList block.closed
          place
          start := opening.start
          stop := number })
  | stage => (stage.advance number line, none)

/-- The examples that the remaining lines end. -/
def examplesFrom (place number : Nat) (stage : Stage) : List Line → List Example
  | [] => []
  | line :: rest =>
    match stage.read place number line with
    | (stage, some found) => found :: examplesFrom (place + 1) (number + 1) stage rest
    | (stage, none) => examplesFrom place (number + 1) stage rest

/-! ### What a record says -/

/-- The parts that a stage holds, by the names that they have in the record. -/
def Stage.entries : Stage → List (String × Value)
  | .outside => []
  | .named opening | .inCode opening _ => opening.entries
  | .coded opening code | .output opening code => opening.entries ++ [("code", .text (ofList code))]
  | .ordered opening code options | .inTags opening code options _ =>
    opening.entries ++ [("code", .text (ofList code)), ("cmdline", .text (ofList options))]

/-- The entries of an example. -/
def Example.entries (e : Example) : List (String × Value) :=
  [("start_linum", .int e.start), ("input_file_name", .text e.fileName), ("code", .text e.code),
    ("cmdline", .text e.options), ("tags", .text e.tags), ("nth", .int e.place), ("end_linum", .int e.stop)]

/-- A record has some entries, whatever others it has. -/
def Tells (draft : Fields) (entries : List (String × Value)) : Prop :=
  ∀ entry ∈ entries, draft.get? (.text entry.1) = some entry.2

theorem Tells.update {draft : Fields} {entries more : List (String × Value)} (tells : Tells draft entries)
    (once : ((entries ++ more).map Prod.fst).Nodup) :
    Tells (draft.update (more.map fun entry => (.text entry.1, entry.2))) (entries ++ more) := by
  induction more generalizing draft entries with
  | nil =>
    rw [append_nil]
    exact tells
  | cons entry more ih =>
    have new : ∀ old ∈ entries, old.1 ≠ entry.1 := by
      intro old member same
      rw [map_append, map_cons] at once
      exact (nodup_append.1 once).2.2 _ (mem_map_of_mem member) _ mem_cons_self same
    have noted : Tells (draft.set (.text entry.1) entry.2) (entries ++ [entry]) := by
      intro other member
      rcases mem_append.1 member with old | last
      · rw [get?_set_of_ne (new other old), tells other old]
      · rw [mem_singleton.1 last, get?_set_self]
    rw [append_cons] at once ⊢
    exact ih noted once

/-! ### Reading with and without the record -/

def Stage.phase : Stage → Phase
  | .outside => .start
  | .named _ => .input
  | .inCode _ _ => .code
  | .coded _ _ => .codeDone
  | .output _ _ => .output
  | .ordered _ _ _ => .afterOptions
  | .inTags _ _ _ _ => .tags

/-- The block that a stage is in. -/
def Stage.block? : Stage → Option Block
  | .inCode _ block | .inTags _ _ _ block => some block
  | _ => none

/-- The reader is at a stage, and its record says what the stage holds. -/
structure Follows (place : Nat) (stage : Stage) (reader : Reader) : Prop where
  phase : reader.phase = stage.phase
  place : reader.place = place
  block : ∀ block, stage.block? = some block → reader.block = block
  tells : Tells reader.draft stage.entries

variable {place : Nat} {stage : Stage} {reader : Reader}

theorem Stage.once_entries (stage : Stage) : (stage.entries.map Prod.fst).Nodup := by
  cases stage <;> simp [entries, Opening.entries]

section
variable (follows : Follows place stage reader)
include follows

/-- A part is noted that comes next. -/
theorem Follows.note (next : Stage) (more : List (String × Value)) (apart : next.block? = none)
    (grows : next.entries = stage.entries ++ more) :
    Follows place next (reader.note next.phase (more.map fun entry => (.text entry.1, entry.2))) := by
  refine ⟨rfl, follows.place, fun block inside => ?_, ?_⟩
  · rw [apart] at inside
    cases inside
  · have once := next.once_entries
    rw [grows] at once ⊢
    exact follows.tells.update once

/-- A block is opened. -/
theorem Follows.enter (next : Stage) (opens : next.block? = some {}) (keeps : next.entries = stage.entries) :
    Follows place next { reader with phase := next.phase, block := {} } :=
  ⟨rfl, follows.place, fun _ inside => Option.some.inj (opens.symm.trans inside), keeps ▸ follows.tells⟩

theorem Follows.advance (number : Nat) (line : Line) :
    Follows place (stage.advance number line) (reader.advance number line) := by
  rw [Reader.advance, follows.phase]
  cases stage with
  | outside =>
    cases found : fileName? line with
    | none => simpa only [Stage.advance, Stage.phase, found] using follows
    | some name =>
      simp only [Stage.advance, Stage.phase, found]
      exact follows.note (.named ⟨name, number⟩) (Opening.entries ⟨name, number⟩) rfl rfl
  | named opening =>
    simp only [Stage.advance, Stage.phase]
    split
    · exact follows.enter (.inCode opening {}) rfl rfl
    · exact follows
  | coded opening code =>
    simp only [Stage.advance, Stage.phase]
    split
    · exact ⟨rfl, follows.place, nofun, follows.tells⟩
    · exact follows
  | output opening code =>
    cases found : options? line with
    | none => simpa only [Stage.advance, Stage.phase, found] using follows
    | some options =>
      simp only [Stage.advance, Stage.phase, found]
      exact follows.note (.ordered opening code options) [("cmdline", .text (ofList options))] rfl
        (by simp [Stage.entries])
  | ordered opening code options =>
    simp only [Stage.advance, Stage.phase]
    split
    · exact follows.enter (.inTags opening code options {}) rfl rfl
    · exact follows
  | inCode | inTags => exact follows

end

/-- What a line does to the stage and to the reader. -/
theorem Follows.read (follows : Follows place stage reader) (changed : Fields → Fields) (number : Nat) (line : Line) :
    match stage.read place number line, reader.read changed number line with
    | (next, none), (later, none) => Follows place next later
    | (next, some e), (later, some draft) => Tells draft e.entries ∧ Follows (place + 1) next later
    | _, _ => False := by
  rw [Reader.read, follows.phase]
  cases stage with
  | inCode opening block =>
    rw [follows.block block rfl]
    cases taken : block.take? line with
    | some later =>
      simp only [Stage.phase, Stage.read, taken]
      exact ⟨rfl, follows.place, fun _ inside => Option.some.inj inside, follows.tells⟩
    | none =>
      simp only [Stage.phase, Stage.read, taken]
      refine Follows.advance ?_ number line
      rw [Reader.close, follows.phase, follows.block block rfl]
      exact follows.note (.coded opening block.closed) [("code", .text (ofList block.closed))] rfl rfl
  | inTags opening code options block =>
    rw [follows.block block rfl]
    cases taken : block.take? line with
    | some later =>
      simp only [Stage.phase, Stage.read, taken]
      exact ⟨rfl, follows.place, fun _ inside => Option.some.inj inside, follows.tells⟩
    | none =>
      simp only [Stage.phase, Stage.read, taken]
      rw [Reader.close, follows.phase, follows.block block rfl, follows.place]
      refine ⟨?_, Follows.advance ?_ number line⟩
      · have told := @Tells.update _ _
          [("tags", .text (ofList block.closed)), ("nth", .int place), ("end_linum", .int number)] follows.tells
          (by simp [Stage.entries, Opening.entries])
        rw [Stage.entries, List.append_assoc] at told
        exact told
      · exact ⟨rfl, rfl, nofun, nofun⟩
  | _ => exact follows.advance number line

/-- The records that are given out, one for each example, have all its entries. -/
theorem Follows.drafts (changed : Fields → Fields) (number : Nat) (lines : List Line)
    (follows : Follows place stage reader) :
    Forall₂ (fun draft e => Tells draft e.entries) (reader.drafts changed number lines)
      (examplesFrom place number stage lines) := by
  induction lines generalizing place number stage reader with
  | nil => exact .nil
  | cons line rest ih =>
    have reads := follows.read changed number line
    rw [Reader.drafts, examplesFrom]
    generalize stage.read place number line = stages, reader.read changed number line = readers at reads ⊢
    obtain ⟨next, _ | e⟩ := stages <;> obtain ⟨later, _ | draft⟩ := readers
    · exact ih _ reads
    · cases reads
    · cases reads
    · exact .cons reads.1 (ih _ reads.2)

/-! ### What the records come to -/

/-- What a page's records say, however they are changed between one and the next. -/
theorem drafts_tell (changed : Fields → Fields) (page : String) :
    Forall₂ (fun draft e => Tells draft e.entries) (drafts changed page)
      (examplesFrom 0 1 .outside (pageLines page)) :=
  Follows.drafts changed 1 (pageLines page) ⟨rfl, rfl, nofun, nofun⟩

section
variable {draft : Fields} {e : Example} (tells : Tells draft e.entries)
include tells

theorem ofFields?_of_tells : Example.ofFields? draft = some e := by
  simp only [Tells, Example.entries, forall_mem_cons] at tells
  obtain ⟨start, fileName, code, options, tags, place, stop, -⟩ := tells
  simp [Example.ofFields?, start, fileName, code, options, tags, place, stop]

/-- Nothing is missing from the record of an example. -/
theorem problem?_of_tells (manual : Value) : problem? (draft.set (.text "man_file") manual) = .ok none := by
  simp only [Tells, Example.entries, forall_mem_cons] at tells
  obtain ⟨start, fileName, code, options, tags, place, stop, -⟩ := tells
  have held {name : String} {value : Value} (other : name ≠ "man_file") (found : draft.get? (.text name) = some value) :
      (draft.set (.text "man_file") manual).get? (.text name) = some value := by rw [get?_set_of_ne other, found]
  have has {name : String} {value : Value} (other : name ≠ "man_file") (found : draft.get? (.text name) = some value) :
      (draft.set (.text "man_file") manual).contains (.text name) = true := by
    rw [contains_eq_isSome, held other found]
    rfl
  simp only [problem?, location, Value.need, get?_set_self, held (by decide) place, held (by decide) start,
    has (by decide) code, has (by decide) tags, has (by decide) options]
  rfl

end

theorem examples_eq (page : String) : examples page = examplesFrom 0 1 .outside (pageLines page) := by
  rw [examples]
  have all := drafts_tell id page
  generalize drafts id page = given, examplesFrom 0 1 .outside (pageLines page) = found at all ⊢
  induction all with
  | nil => rfl
  | cons tells _ ih => rw [filterMap_cons_some (ofFields?_of_tells tells), ih]

end Playhouse.Manual
