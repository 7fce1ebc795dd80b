import Playhouse.Proofs.Scene.Reading
import Playhouse.Proofs.Text.Split

/-!
Scenes that are written out and read again. A script has an introduction, a challenge and choices with a consequence
each, one paragraph after the other. It is read as it was written exactly if no paragraph before the choices and no
consequence is mistaken for something else by its words, and no choice and no consequence holds a colon: of what stands
under a label, only the text after the last colon is kept.
-/
namespace Playhouse.Scene
open Text List Prod

variable {options : List (String × String)}

/-! ### Words and labels -/

def choiceWords : List String := ["choice", "option"]

def consequenceWords : List String := ["consequence", "outcome"]

variable (part : List Char)

theorem isChoice_iff : isChoice part = true ↔ Mentions choiceWords part :=
  any_occurs_iff choiceWords part

theorem isConsequence_iff : isConsequence part = true ↔ Mentions consequenceWords part :=
  any_occurs_iff consequenceWords part

/-- A part without the words of choices and consequences is plain. -/
theorem not_mentions_iff : ¬ Mentions (choiceWords ++ consequenceWords) part ↔
    isChoice part = false ∧ isConsequence part = false := by
  rw [mentions_append, not_or, ← isChoice_iff, ← isConsequence_iff, Bool.not_eq_true, Bool.not_eq_true]

theorem choiceWords_keywords : ∀ word ∈ choiceWords, IsKeyword word.toList := by decide

theorem consequenceWords_keywords : ∀ word ∈ consequenceWords, IsKeyword word.toList := by decide

theorem notMem_tail : ':' ∉ (tail part).toList := by
  have kept {text : List Char} (whole : ':' ∉ text) : ':' ∉ (String.ofList (trim text)).toList := by
    obtain ⟨front, back, parted, -⟩ := trim_between text
    rw [String.toList_ofList]
    intro member
    rw [parted] at whole
    exact whole (mem_append_left _ (mem_append_right _ member))
  by_cases colon : ':' ∈ part
  · obtain ⟨head, rest, rfl, last⟩ := exists_last colon
    rw [tail, cutLast?_of_append last]
    exact kept last
  · rw [tail, cutLast?_of_notMem colon]
    exact kept colon

theorem tail_labelled (label text : List Char) : tail (label ++ ':' :: ' ' :: text) = tail text := by
  by_cases colon : ':' ∈ text
  · obtain ⟨head, rest, rfl, last⟩ := exists_last colon
    have parted : label ++ ':' :: ' ' :: (head ++ ':' :: rest) = (label ++ ':' :: ' ' :: head) ++ ':' :: rest := by simp
    rw [parted, tail, tail, cutLast?_of_append last, cutLast?_of_append last]
  · have last : ':' ∉ ' ' :: text := by simpa using colon
    rw [tail, tail, cutLast?_of_append last, cutLast?_of_notMem colon]
    exact congrArg String.ofList (trim_cons_blank (by decide) text)

theorem tail_eq_self_iff {text : String} (bare : IsBare text.toList) : tail text.toList = text ↔ ':' ∉ text.toList := by
  constructor
  · intro same
    rw [← same]
    exact notMem_tail _
  · intro whole
    rw [tail, cutLast?_of_notMem whole]
    change String.ofList (trim text.toList) = text
    rw [trim_of_isBare bare, String.ofList_toList]

/-- Paragraphs with empty lines between them are the parts of the content. -/
theorem parts_join {pieces : List (List Char)} (some_ : pieces ≠ [])
    (paragraphs : ∀ piece ∈ pieces, IsParagraph piece) : parts (join ['\n', '\n'] pieces) = pieces := by
  have trimmed_ : pieces.map trim = pieces := by
    refine (map_congr_left fun piece member => ?_).trans (map_id pieces)
    exact trim_of_isBare (paragraphs piece member).bare
  rw [parts, split_paragraphs some_ paragraphs, trimmed_, filter_eq_self]
  intro piece member
  exact decide_eq_true (paragraphs piece member).filled

/-! ### Scripts -/

/-- A scene as it is meant: an introduction, a challenge, and choices with their consequences. -/
structure Script where
  introduction : String
  challenge : String
  options : List (String × String)

namespace Script

def choiceLine (number : Nat) (choice : String) : String := "Choice " ++ toString number ++ ": " ++ choice

def consequenceLine (consequence : String) : String := "Consequence: " ++ consequence

/-- The paragraphs of choices and consequences, with the number of the first choice. -/
def optionLines : Nat → List (String × String) → List (List Char)
  | _, [] => []
  | number, option :: rest =>
    (choiceLine number option.1).toList :: (consequenceLine option.2).toList :: optionLines (number + 1) rest

def lines (script : Script) : List (List Char) :=
  script.introduction.toList :: script.challenge.toList :: optionLines 1 script.options

/-- The script written out. -/
def content (script : Script) : String := String.ofList (join ['\n', '\n'] script.lines)

def scene (script : Script) : Scene :=
  { introduction := .text script.introduction
    challenge := .text script.challenge
    choices := script.options.map fst
    consequences := script.options }

/-- All texts are paragraphs, and no two choices are the same. -/
structure IsWritten (script : Script) : Prop where
  introduction : IsParagraph script.introduction.toList
  challenge : IsParagraph script.challenge.toList
  options : ∀ option ∈ script.options, IsParagraph option.1.toList ∧ IsParagraph option.2.toList
  apart : (script.options.map fst).Nodup

/-- No text has a word that makes it pass for something else. -/
structure Unmistakable (script : Script) : Prop where
  introduction : ¬ Mentions (choiceWords ++ consequenceWords) script.introduction.toList
  challenge : ¬ Mentions (choiceWords ++ consequenceWords) script.challenge.toList
  options : ∀ option ∈ script.options, ¬ Mentions choiceWords option.2.toList

/-- No colon stands in a choice or a consequence. -/
def Colonless (script : Script) : Prop := ∀ option ∈ script.options, ':' ∉ option.1.toList ∧ ':' ∉ option.2.toList

/-! ### The lines of a script -/

variable (consequence : String) (number : Nat)

theorem choiceLine_toList (choice : String) :
    (choiceLine number choice).toList =
      ("Choice".toList ++ ' ' :: (toString number).toList) ++ ':' :: ' ' :: choice.toList := by
  simp [choiceLine]

theorem consequenceLine_toList :
    (consequenceLine consequence).toList = "Consequence".toList ++ ':' :: ' ' :: consequence.toList := by
  simp [consequenceLine]

theorem isChoice_choiceLine (choice : String) : isChoice (choiceLine number choice).toList = true := by
  rw [isChoice_iff, choiceLine_toList, mentions_labelled choiceWords_keywords]
  refine .inl ⟨"choice", mem_cons_self, ?_⟩
  have keyword : IsKeyword "choice".toList := by decide
  exact (keyword.infix_lower_append (by decide) (by decide) _ _).2 (.inl (by decide +kernel))

theorem isChoice_consequenceLine : isChoice (consequenceLine consequence).toList = isChoice consequence.toList := by
  have unlabelled : ¬ Mentions choiceWords "Consequence".toList := by decide +kernel
  rw [Bool.eq_iff_iff, isChoice_iff, isChoice_iff, consequenceLine_toList,
    mentions_labelled choiceWords_keywords, or_iff_right unlabelled]

theorem isConsequence_consequenceLine : isConsequence (consequenceLine consequence).toList = true := by
  rw [isConsequence_iff, consequenceLine_toList, mentions_labelled consequenceWords_keywords]
  exact .inl (by decide +kernel)

theorem isParagraph_choiceLine {choice : String} (paragraph : IsParagraph choice.toList) :
    IsParagraph (choiceLine number choice).toList := by
  rw [choiceLine, String.toList_append]
  refine paragraph.append (by simp; decide) ?_
  have digits : '\n' ∉ Nat.toDigits 10 number := fun member =>
    absurd (Nat.isDigit_of_mem_toDigits (by decide) (by decide) member) (by decide)
  simpa using digits

theorem isParagraph_consequenceLine {consequence : String} (paragraph : IsParagraph consequence.toList) :
    IsParagraph (consequenceLine consequence).toList := by
  rw [consequenceLine, String.toList_append]
  exact paragraph.append (by decide) (by decide)

theorem isParagraph_optionLines
    (paragraphs : ∀ option ∈ options, IsParagraph option.1.toList ∧ IsParagraph option.2.toList)
    (number : Nat) : ∀ line ∈ optionLines number options, IsParagraph line := by
  induction options generalizing number with
  | nil => exact forall_mem_nil _
  | cons option rest ih =>
    obtain ⟨⟨choice, consequence⟩, later⟩ := forall_mem_cons.1 paragraphs
    refine forall_mem_cons.2 ⟨isParagraph_choiceLine number choice, ?_⟩
    exact forall_mem_cons.2 ⟨isParagraph_consequenceLine consequence, ih later (number + 1)⟩

theorem parts_content {script : Script} (written : script.IsWritten) : parts script.content.toList = script.lines := by
  have paragraphs : ∀ line ∈ script.lines, IsParagraph line := by
    refine forall_mem_cons.2 ⟨written.introduction, forall_mem_cons.2 ⟨written.challenge, ?_⟩⟩
    exact isParagraph_optionLines written.options 1
  have some_ : script.lines ≠ [] := cons_ne_nil _ _
  rw [content, String.toList_ofList, parts_join some_ paragraphs]

theorem countP_optionLines (options : List (String × String)) :
    (optionLines number options).countP isChoice =
      options.length + options.countP fun option => isChoice option.2.toList := by
  induction options generalizing number with
  | nil => rfl
  | cons option rest ih =>
    rw [optionLines, countP_cons, countP_cons, ih, isChoice_choiceLine, isChoice_consequenceLine,
      countP_cons, length_cons]
    simp only [if_true]
    omega

theorem takeWhile_optionLines (options : List (String × String)) :
    (optionLines number options).takeWhile (fun line => !isChoice line) = [] := by
  cases options with
  | nil => rfl
  | cons option rest => rw [optionLines, takeWhile_cons_of_neg (by simp [isChoice_choiceLine])]

/-! ### Reading a script -/

/-- What is kept of a choice and its consequence. -/
def kept (option : String × String) : String × String := (tail option.1.toList, tail option.2.toList)

theorem foldl_optionLines
    (plain : ∀ option ∈ options, isChoice option.2.toList = false) (number : Nat) (scene : Scene) (place : Place) :
    ((optionLines number options).foldl readPart (scene, place)).1 =
      { scene with
        choices := scene.choices ++ (options.map kept).map fst
        consequences := (options.map kept).foldl (fun entries entry => putConsequence entry.1 entry.2 entries)
          scene.consequences } := by
  induction options generalizing number scene place with
  | nil => simp [optionLines]
  | cons option rest ih =>
    obtain ⟨first, later⟩ := forall_mem_cons.1 plain
    have choice : tail (choiceLine number option.1).toList = (kept option).1 := by
      rw [choiceLine_toList, tail_labelled, kept]
    have consequence : tail (consequenceLine option.2).toList = (kept option).2 := by
      rw [consequenceLine_toList, tail_labelled, kept]
    have chosen : readPart (scene, place) (choiceLine number option.1).toList =
        ({ scene with choices := scene.choices ++ [(kept option).1] }, .choices) := by
      simp [readPart, isChoice_choiceLine, choice]
    have told : readPart ({ scene with choices := scene.choices ++ [(kept option).1] }, .choices)
        (consequenceLine option.2).toList =
          ({ scene with
            choices := scene.choices ++ [(kept option).1]
            consequences := putConsequence (kept option).1 (kept option).2 scene.consequences }, .choices) := by
      simp [readPart, isChoice_consequenceLine, first, isConsequence_consequenceLine, consequence]
    rw [optionLines, foldl_cons, foldl_cons, chosen, told, ih later]
    simp

section
variable {script : Script}

/-- A script without misleading words is read label by label. -/
theorem ofContent_content (written : script.IsWritten) (unmistakable : script.Unmistakable) :
    ofContent (.text script.content) =
      { introduction := .text script.introduction
        challenge := .text script.challenge
        choices := (script.options.map kept).map fst
        consequences := (script.options.map kept).foldl
          (fun entries entry => putConsequence entry.1 entry.2 entries) [] } := by
  obtain ⟨no_choice, no_consequence⟩ := (not_mentions_iff _).1 unmistakable.introduction
  obtain ⟨no_choice', no_consequence'⟩ := (not_mentions_iff _).1 unmistakable.challenge
  have introduced : readPart (empty, .introduction) script.introduction.toList =
      ({ empty with introduction := .text script.introduction }, .challenge) := by
    simp [readPart, no_choice, no_consequence]
  have challenged : readPart ({ empty with introduction := .text script.introduction }, .challenge)
      script.challenge.toList =
        ({ empty with introduction := .text script.introduction, challenge := .text script.challenge },
          .challenge) := by
    simp [readPart, no_choice', no_consequence']
  have plain : ∀ option ∈ script.options, isChoice option.2.toList = false := by
    intro option member
    rw [← Bool.not_eq_true, isChoice_iff]
    exact unmistakable.options option member
  change ((parts script.content.toList).foldl readPart (empty, .introduction)).1 = _
  rw [parts_content written, lines, foldl_cons, introduced, foldl_cons, challenged, foldl_optionLines plain]
  rfl

/-- A script that is read as it was written has no misleading words: a consequence or a paragraph before the choices
that passes for a choice would make one choice too many, and without one of those paragraphs there is no challenge. -/
theorem unmistakable_of_read (written : script.IsWritten)
    (read : ofContent (.text script.content) = script.scene) : script.Unmistakable := by
  have tells : Tells (parts script.content.toList) (ofContent (.text script.content)) := (tells_read _).1
  rw [read, parts_content written] at tells
  have counted : script.lines.countP isChoice = script.options.length := by
    have lengths := congrArg length tells.choices
    simpa [scene, countP_eq_length_filter] using lengths.symm
  rw [lines, countP_cons, countP_cons, countP_optionLines] at counted
  have no_choice : isChoice script.introduction.toList = false := by
    rw [Bool.eq_false_iff]
    intro is_choice
    rw [if_pos is_choice] at counted
    omega
  have no_choice' : isChoice script.challenge.toList = false := by
    rw [Bool.eq_false_iff]
    intro is_choice
    rw [if_pos is_choice] at counted
    omega
  have no_choices : script.options.countP (fun option => isChoice option.2.toList) = 0 := by omega
  have opens : opening script.lines = [script.introduction.toList, script.challenge.toList].filter
      fun part => !isConsequence part := by
    simp [opening, lines, no_choice, no_choice', takeWhile_optionLines]
  have challenge := tells.challenge
  rw [opens] at challenge
  have filled : script.challenge ≠ "" := fun empty => written.challenge.filled (by simp [empty])
  have plain : isConsequence script.introduction.toList = false ∧ isConsequence script.challenge.toList = false := by
    cases first : isConsequence script.introduction.toList <;>
      cases second : isConsequence script.challenge.toList <;> simp_all [scene]
  refine ⟨(not_mentions_iff _).2 ⟨no_choice, plain.1⟩, (not_mentions_iff _).2 ⟨no_choice', plain.2⟩, ?_⟩
  intro option member
  rw [← isChoice_iff]
  exact countP_eq_zero.1 no_choices option member

theorem map_kept_iff (written : script.IsWritten) : script.options.map kept = script.options ↔ script.Colonless := by
  have each : ∀ option ∈ script.options, (kept option = option ↔ ':' ∉ option.1.toList ∧ ':' ∉ option.2.toList) := by
    intro option member
    obtain ⟨choice, consequence⟩ := written.options option member
    rw [Prod.ext_iff, kept, tail_eq_self_iff choice.bare, tail_eq_self_iff consequence.bare]
  constructor
  · intro same option member
    have kept_all := map_inj_left.1 (same.trans (map_id script.options).symm)
    exact (each option member).1 (kept_all option member)
  · intro colonless
    refine (map_congr_left fun option member => ?_).trans (map_id script.options)
    exact (each option member).2 (colonless option member)

theorem foldl_putConsequence {entries : List (String × String)} (once : (entries.map fst).Nodup) :
    entries.foldl (fun entries entry => putConsequence entry.1 entry.2 entries) [] = entries := by
  exact Entries.foldl_put Entries.tests_beq once

end

/-- A script that is written out in paragraphs is read as it was written exactly if no word of it is misleading and no
choice and no consequence holds a colon. -/
theorem read_as_written_iff {script : Script} (written : script.IsWritten) :
    ofContent (.text script.content) = script.scene ↔ script.Unmistakable ∧ script.Colonless := by
  constructor
  · intro read
    have unmistakable := unmistakable_of_read written read
    rw [ofContent_content written unmistakable] at read
    have choices : (script.options.map kept).map Prod.fst = script.options.map Prod.fst := congrArg Scene.choices read
    have consequences := congrArg Scene.consequences read
    rw [foldl_putConsequence (choices ▸ written.apart)] at consequences
    exact ⟨unmistakable, (map_kept_iff written).1 consequences⟩
  · rintro ⟨unmistakable, colonless⟩
    rw [ofContent_content written unmistakable, (map_kept_iff written).2 colonless, foldl_putConsequence written.apart]
    rfl

/-- Of two scripts of the same scene, the one in which the hero says something is not read as it was written. -/
theorem spoken_choice_cut_short :
    let silent : Script :=
      ⟨"The gate is shut.", "A guard waits.", [("Bribe the guard", "He looks away"), ("Wait", "Night falls")]⟩
    let spoken : Script := ⟨"The gate is shut.", "A guard waits.", [("Say: let me in", "He laughs")]⟩
    ofContent (.text silent.content) = silent.scene ∧ ofContent (.text spoken.content) ≠ spoken.scene := by
  intro silent spoken
  have silent_written : silent.IsWritten :=
    ⟨by decide +kernel, by decide +kernel, by decide +kernel, by decide +kernel⟩
  have spoken_written : spoken.IsWritten :=
    ⟨by decide +kernel, by decide +kernel, by decide +kernel, by decide +kernel⟩
  have unmistakable : silent.Unmistakable := ⟨by decide +kernel, by decide +kernel, by decide +kernel⟩
  have colonless : silent.Colonless := by
    have each : ∀ option ∈ silent.options, ':' ∉ option.1.toList ∧ ':' ∉ option.2.toList := by decide +kernel
    exact each
  refine ⟨(read_as_written_iff silent_written).2 ⟨unmistakable, colonless⟩, fun read => ?_⟩
  have colon := ((read_as_written_iff spoken_written).1 read).2 ("Say: let me in", "He laughs") List.mem_cons_self
  exact colon.1 (by decide)

end Script

end Playhouse.Scene
