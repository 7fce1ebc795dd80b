import Playhouse.Proofs.Manual.Blocks
import Playhouse.Proofs.Manual.Stages

/-!
Where the parts of an example come from. Whatever is written on a page, its lines fall into consecutive pieces, one for
each example and a rest, and every part of an example is read in its own piece. So no example is left with a part of
the one before, and none lacks a part.
-/
namespace Playhouse.Manual
open List

/-! ### What has been read -/

/-- What the lines of a piece, the first of which has the number `since`, must hold for a stage to be reached. -/
inductive Shows (since : Nat) : Stage → List Line → Prop
  | outside (lines : List Line) : Shows since .outside lines
  | named {before : List Line} {line name : Line} (found : fileName? line = some name) (after : List Line) :
      Shows since (.named ⟨name, since + before.length⟩) (before ++ line :: after)
  | inCode {opening : Opening} {before taken : List Line} {line : Line} {block : Block}
      (named : Shows since (.named opening) before) (opens : opensCode line = true)
      (takes : ({} : Block).takeAll? taken = some block) : Shows since (.inCode opening block) (before ++ line :: taken)
  | coded {opening : Opening} {before : List Line} {block : Block} (inCode : Shows since (.inCode opening block) before)
      (after : List Line) : Shows since (.coded opening block.closed) (before ++ after)
  | output {opening : Opening} {code line : Line} {before : List Line} (coded : Shows since (.coded opening code) before)
      (names : namesOutput line = true) (after : List Line) :
      Shows since (.output opening code) (before ++ line :: after)
  | ordered {opening : Opening} {code options line : Line} {before : List Line}
      (output : Shows since (.output opening code) before) (found : options? line = some options) (after : List Line) :
      Shows since (.ordered opening code options) (before ++ line :: after)
  | inTags {opening : Opening} {code options line : Line} {before taken : List Line} {block : Block}
      (ordered : Shows since (.ordered opening code options) before) (opens : opensTags line = true)
      (takes : ({} : Block).takeAll? taken = some block) :
      Shows since (.inTags opening code options block) (before ++ line :: taken)

/-- A piece of a page that an example is made of, from the line with the number `since` on. -/
structure MadeOf (since : Nat) (piece : List Line) (e : Example) : Prop where
  shows_ : ∃ block : Block, e.tags.toList = block.closed ∧
    Shows since (.inTags ⟨e.fileName.toList, e.start⟩ e.code.toList e.options.toList block) piece
  stop_eq : e.stop = since + piece.length

/-- Examples that are made of consecutive pieces, and counted. -/
inductive Successive : Nat → Nat → List Line → List Example → Prop
  | done {place since : Nat} (rest : List Line) : Successive place since rest []
  | next {place since : Nat} {piece rest : List Line} {e : Example} {later : List Example} (made : MadeOf since piece e)
      (counted : e.place = place) (others : Successive (place + 1) e.stop rest later) :
      Successive place since (piece ++ rest) (e :: later)

/-! ### Reading a line -/

variable {since place : Nat} {stage next : Stage} {lines rest : List Line} {line : Line} {opening : Opening}
  {code options : Line} {block : Block}

theorem takeAll?_concat {taken : List Line} {last : Block} (takes : ({} : Block).takeAll? taken = some block)
    (more : block.take? line = some last) : ({} : Block).takeAll? (taken ++ [line]) = some last := by
  rw [Block.takeAll?] at takes
  rw [Block.takeAll?, foldlM_append, takes]
  simpa using more

/-- Outside of blocks a line opens the next part, or it is passed over. -/
theorem Shows.advance (shown : Shows since stage lines) (apart : stage.block? = none) (line : Line) :
    Shows since (stage.advance (since + lines.length) line) (lines ++ [line]) := by
  cases shown with
  | outside =>
    simp only [Stage.advance]
    split
    next name found => exact .named found []
    next => exact .outside _
  | named found after =>
    simp only [Stage.advance]
    split
    next opens => exact .inCode (.named found after) opens rfl
    next => simpa using Shows.named found (after ++ [line])
  | coded inCode after =>
    simp only [Stage.advance]
    split
    next names => exact .output (.coded inCode after) names []
    next => simpa using Shows.coded inCode (after ++ [line])
  | output coded names after =>
    simp only [Stage.advance]
    split
    next options found => exact .ordered (.output coded names after) found []
    next => simpa using Shows.output coded names (after ++ [line])
  | ordered output found after =>
    simp only [Stage.advance]
    split
    next opens => exact .inTags (.ordered output found after) opens rfl
    next => simpa using Shows.ordered output found (after ++ [line])
  | inCode | inTags => cases apart

/-- What a line does: it goes on with the piece, or it ends an example and begins the next piece. -/
theorem Shows.read (shown : Shows since stage lines) (place : Nat) (line : Line) :
    match stage.read place (since + lines.length) line with
    | (next, none) => Shows since next (lines ++ [line])
    | (next, some e) => MadeOf since lines e ∧ e.place = place ∧ Shows e.stop next [line] := by
  cases stage with
  | inCode opening block =>
    simp only [Stage.read]
    cases more : block.take? line with
    | some last =>
      cases shown with
      | inCode named opens takes => simpa using Shows.inCode named opens (takeAll?_concat takes more)
    | none =>
      have coded := Shows.coded shown []
      rw [append_nil] at coded
      exact coded.advance rfl line
  | inTags opening code options block =>
    simp only [Stage.read]
    cases more : block.take? line with
    | some last =>
      cases shown with
      | inTags ordered opens takes => simpa using Shows.inTags ordered opens (takeAll?_concat takes more)
    | none =>
      refine ⟨⟨⟨block, ?_, ?_⟩, rfl⟩, rfl, (Shows.outside []).advance rfl line⟩
      · simp
      · simpa using shown
  | _ => exact shown.advance rfl line

/-! ### Reading a page -/

theorem Shows.successive (shown : Shows since stage lines) (place : Nat) (rest : List Line) :
    Successive place since (lines ++ rest) (examplesFrom place (since + lines.length) stage rest) := by
  induction rest generalizing since stage lines place with
  | nil => exact .done _
  | cons line rest ih =>
    have read := shown.read place line
    rw [examplesFrom]
    generalize stage.read place (since + lines.length) line = outcome at read ⊢
    obtain ⟨next, _ | e⟩ := outcome
    · simpa [Nat.add_assoc] using ih read place
    · obtain ⟨made, counted, shown⟩ := read
      have others := ih shown (place + 1)
      rw [made.stop_eq] at others
      exact .next made counted (made.stop_eq ▸ others)

/-- A text with one line end after it. -/
def EndsOnce (text : Line) : Prop := ∃ body, text = body ++ ['\n'] ∧ body.getLast? ≠ some '\n'

theorem endsOnce_closed (block : Block) : EndsOnce block.closed := by
  refine ⟨Text.withoutEnd block.text, rfl, fun ends => ?_⟩
  have first := head?_dropWhile_not (fun c => c == '\r' || c == '\n') block.text.reverse
  rw [Text.withoutEnd, getLast?_reverse] at ends
  rw [ends] at first
  cases first

theorem MadeOf.sound {e : Example} (made : MadeOf since lines e) :
    (since ≤ e.start ∧ e.start < e.stop) ∧ EndsOnce e.code.toList ∧ EndsOnce e.tags.toList := by
  obtain ⟨fileName, code, options, tags, place, start, stop⟩ := e
  obtain ⟨⟨block, tags_eq, shown⟩, stop_eq⟩ := made
  dsimp only at *
  generalize code.toList = code at shown ⊢
  -- The piece comes apart from its end, part by part.
  cases shown with | inTags ordered => cases ordered with | ordered output => cases output with | output coded =>
  cases coded with | coded inCode => cases inCode with | inCode named => cases named with | named =>
  refine ⟨⟨Nat.le_add_right _ _, ?_⟩, endsOnce_closed _, tags_eq ▸ endsOnce_closed block⟩
  rw [stop_eq]
  simp only [length_append, length_cons]
  omega

section
variable {found : List Example}

section
variable (all : Successive place since lines found)
include all

theorem Successive.places : found.map (·.place) = range' place found.length := by
  induction all with
  | done => rfl
  | next made counted others ih => rw [map_cons, counted, ih, length_cons, range'_succ]

theorem Successive.made {e : Example} (member : e ∈ found) : ∃ earlier piece, MadeOf earlier piece e := by
  induction all with
  | done => cases member
  | next made counted others ih =>
    rcases mem_cons.1 member with rfl | member
    · exact ⟨_, _, made⟩
    · exact ih member

theorem Successive.apart : found.IsChain fun e later => e.stop ≤ later.start := by
  induction all with
  | done => exact .nil
  | next made counted others ih =>
    cases others with
    | done => exact .singleton _
    | next made_next _ _ => exact .cons_cons made_next.sound.1.1 ih

end
end

/-- Whatever is written on a page, and whatever those who are given the record make of it before the reader goes on, each
time it is given out it has all the entries of an example that is made of a piece of its own, with one line end after
its code and its tags. The examples are counted from zero and none starts before the one before it ends, and a report
has nothing to say against any of them. -/
theorem drafts_successive (page : String) :
    ∃ found : List Example, Successive 0 1 (pageLines page) found ∧ found.map (·.place) = range found.length ∧
      found.IsChain (fun e later => e.stop ≤ later.start) ∧
      (∀ e ∈ found, e.start < e.stop ∧ EndsOnce e.code.toList ∧ EndsOnce e.tags.toList) ∧
      ∀ changed : Fields → Fields,
        Forall₂ (fun draft e => Tells draft e.entries ∧ ∀ manual, problem? (draft.set "man_file" manual) = .ok none)
          (drafts changed page) found := by
  have begins : Shows 1 .outside [] := .outside []
  have all := begins.successive 0 (pageLines page)
  refine ⟨_, all, range_eq_range' ▸ all.places, all.apart, fun e member => ?_, fun changed => ?_⟩
  · obtain ⟨since, piece, made⟩ := all.made member
    exact ⟨made.sound.1.2, made.sound.2.1, made.sound.2.2⟩
  · exact (drafts_tell changed page).imp fun draft e tells => ⟨tells, problem?_of_tells tells⟩

end Playhouse.Manual
