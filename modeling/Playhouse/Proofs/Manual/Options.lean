import Playhouse.Manual.Check
import Mathlib.Data.List.Basic

/-!
What an options file says. Each word of a command line stands for a line, but for those after a pattern, which belong to it
up to the next option. A pattern that comes while another is open takes its place, and a word is taken for an option by its
looks: the lines that are written are those that the command line stands for exactly if neither matters.
-/
namespace Playhouse.Manual
open List

/-! ### The lines of a command line -/

def isPattern (word : String) : Bool := startsWith "--regex-" word

/-- Whether a word goes into the options file. -/
def isGiven (word : String) : Bool := word != "--options=NONE" && !startsWith "input." word

def given (options : String) : List String := (wordsOf options).filter isGiven

/-- Whether a word belongs to the pattern before it, for some notion of what an option is. -/
def isPart (option : String → Bool) (word : String) : Bool := !isPattern word && !option word

/-- The lines that words stand for. If they follow a pattern, its parts are in its line already. -/
def linesOf (option : String → Bool) (follows : Bool) : List String → List String
  | [] => []
  | word :: rest =>
    if isPattern word then joinTexts " " (word :: rest.takeWhile (isPart option)) :: linesOf option true rest
    else if follows && !option word then linesOf option true rest
    else word :: linesOf option false rest

/-- The lines of the options file when no word is left. -/
def Settings.written (settings : Settings) : List String := settings.lines ++ settings.pattern.toList

/-- The lines without each pattern that another one follows at once. -/
def unreplaced : List String → List String
  | line :: next :: rest =>
    if isPattern line && isPattern next then unreplaced (next :: rest) else line :: unreplaced (next :: rest)
  | lines => lines

/-- While a pattern is open, none follows, and the words that look like an option are those that are one. -/
def IsClear (option : String → Bool) (opened : Bool) : List String → Prop
  | [] => True
  | word :: rest =>
    (opened = true → isPattern word = false ∧ isOption word = option word) ∧
      IsClear option (isPattern word || opened && !isOption word) rest

variable {option : String → Bool} {word old : String} {rest lines : List String} {opened : Option String}

theorem isPattern_append (pattern : isPattern word = true) (more : String) : isPattern (word ++ more) = true := by
  rw [isPattern, startsWith, String.toList_append]
  have front := isPrefixOf_iff_prefix.1 pattern
  exact isPrefixOf_iff_prefix.2 (front.trans (prefix_append _ _))

theorem joinTexts_cons (first : String) (more : List String) :
    joinTexts " " (first :: more) = first ++ joinTexts " " ("" :: more) := by
  cases more <;> simp [joinTexts, Text.join]

theorem joinTexts_cons_cons (first second : String) (more : List String) :
    joinTexts " " (first :: second :: more) = joinTexts " " ((first ++ (" " ++ second)) :: more) := by
  cases more <;> simp [joinTexts, Text.join]

/-! ### Lines with an open pattern -/

/-- The lines of a pattern, if one is open, and of the words that follow it. -/
def linesAfter (option : String → Bool) (opened : Option String) (words : List String) : List String :=
  (opened.map fun pattern => joinTexts " " (pattern :: words.takeWhile (isPart option))).toList ++
    linesOf option opened.isSome words

@[simp] theorem linesAfter_nil : linesAfter option opened [] = opened.toList := by
  cases opened <;> simp [linesAfter, linesOf, joinTexts, Text.join]

theorem linesAfter_pattern (pattern : isPattern word = true) :
    linesAfter option opened (word :: rest) = opened.toList ++ linesAfter option (some word) rest := by
  cases opened <;> simp [linesAfter, linesOf, isPart, pattern, joinTexts, Text.join]

/-- A word that is no part of a pattern closes the one that is open. -/
theorem linesAfter_plain (plain : isPattern word = false) (closes : opened = none ∨ option word = true) :
    linesAfter option opened (word :: rest) = opened.toList ++ word :: linesAfter option none rest := by
  cases opened with
  | none => simp [linesAfter, linesOf, plain]
  | some pattern => simp_all [linesAfter, linesOf, isPart, joinTexts, Text.join]

theorem linesAfter_part (plain : isPattern word = false) (part : option word = false) :
    linesAfter option (some old) (word :: rest) = linesAfter option (some (old ++ (" " ++ word))) rest := by
  simp [linesAfter, linesOf, isPart, plain, part, joinTexts_cons_cons]

theorem unreplaced_plain (plain : isPattern word = false) :
    unreplaced (opened.toList ++ word :: lines) = opened.toList ++ word :: unreplaced lines := by
  cases opened <;> cases lines <;> simp [unreplaced, plain]

theorem unreplaced_pattern (replaced : isPattern old = true) (pattern : isPattern word = true) (words : List String) :
    unreplaced (old :: linesAfter option (some word) words) = unreplaced (linesAfter option (some word) words) := by
  simp [linesAfter, joinTexts_cons word, unreplaced, replaced, isPattern_append pattern]

/-- What is written are the lines of the words, without the patterns that are replaced. -/
theorem Settings.written_foldl (words : List String) (settings : Settings)
    (patterns : ∀ pattern ∈ settings.pattern, isPattern pattern = true) :
    (words.foldl Settings.add settings).written =
      settings.lines ++ unreplaced (linesAfter isOption settings.pattern (words.filter isGiven)) := by
  induction words generalizing settings with
  | nil => cases opened : settings.pattern <;> simp [written, opened, unreplaced]
  | cons word words ih =>
    rw [foldl_cons, Settings.add]
    by_cases standard : word = "--options=NONE"
    · simpa [standard, isGiven] using ih settings patterns
    cases input : startsWith "input." word with
    | true => simpa [standard, input, isGiven] using ih { settings with input := some word } patterns
    | false =>
      rw [filter_cons_of_pos (by simp [isGiven, standard, input]), ← isPattern, if_neg (by simpa using standard),
        if_neg Bool.false_ne_true]
      cases kind : isPattern word with
      | true =>
        rw [if_pos rfl, ih _ (by simpa using kind), linesAfter_pattern kind]
        cases opened : settings.pattern with
        | none => rfl
        | some old => exact congrArg _ (unreplaced_pattern (patterns old opened) kind _).symm
      | false =>
        rw [if_neg Bool.false_ne_true]
        cases opened : settings.pattern with
        | none =>
          rw [linesAfter_plain kind (.inl rfl), unreplaced_plain kind]
          simp [ih]
        | some old =>
          cases looks : isOption word with
          | true =>
            rw [linesAfter_plain kind (.inr looks), unreplaced_plain kind]
            simp [ih]
          | false =>
            rw [linesAfter_part kind looks, ← String.append_assoc]
            refine ih { settings with pattern := some (old ++ " " ++ word) } ?_
            rintro _ ⟨⟩
            rw [String.append_assoc]
            exact isPattern_append (patterns old opened) _

/-! ### Words that are read as they are meant -/

/-- The room that lines take, each with its end. -/
@[simp] def room : List String → Nat
  | [] => 0
  | line :: lines => line.length + 1 + room lines

@[simp] theorem length_blank : " ".length = 1 := rfl

theorem room_linesAfter (option : String → Bool) (opened : Option String) (words : List String) :
    room (linesAfter option opened words) = room (opened.toList ++ words) := by
  induction words generalizing opened with
  | nil => simp
  | cons word words ih =>
    cases kind : isPattern word with
    | true => cases opened <;> simp [linesAfter_pattern kind, ih]
    | false =>
      cases opened with
      | none => simp [linesAfter_plain kind, ih]
      | some old =>
        cases meant : option word with
        | true => simp [linesAfter_plain kind (.inr meant), ih]
        | false =>
          simp [linesAfter_part kind meant, ih]
          omega

theorem room_unreplaced_le (lines : List String) : room (unreplaced lines) ≤ room lines := by
  fun_induction unreplaced lines with
  | case1 line next rest both ih => exact Nat.le_trans ih (by simp)
  | case2 line next rest apart ih => simpa using ih
  | case3 lines => exact Nat.le_refl _

theorem unreplaced_eq_self (fills : room lines ≤ room (unreplaced lines)) : unreplaced lines = lines := by
  fun_induction unreplaced lines with
  | case1 line next rest both ih =>
    have less := room_unreplaced_le (next :: rest)
    simp only [room] at fills less
    omega
  | case2 line next rest apart ih => rw [ih (by simpa using fills)]
  | case3 lines => rfl

theorem linesAfter_ne (words : List String) :
    linesAfter option (some (old ++ (" " ++ word))) words ≠ old :: lines := by
  intro same
  have short := congrArg String.length ((joinTexts_cons ..).symm.trans (cons.inj same).1)
  simp only [String.length_append, length_blank] at short
  omega

theorem unreplaced_eq_iff (opened : Option String) (words : List String)
    (patterns : ∀ pattern ∈ opened, isPattern pattern = true) :
    unreplaced (linesAfter isOption opened words) = linesAfter option opened words ↔
      IsClear option opened.isSome words := by
  induction words generalizing opened with
  | nil => cases opened <;> simp [unreplaced, IsClear]
  | cons word words ih =>
    rw [IsClear]
    cases kind : isPattern word with
    | true =>
      rw [linesAfter_pattern kind, linesAfter_pattern kind]
      cases opened with
      | none => simpa using ih (some word) (by simpa using kind)
      | some old =>
        refine iff_of_false (fun same => ?_) (by simp)
        -- the pattern that is replaced takes room
        have less := room_unreplaced_le (linesAfter isOption (some word) words)
        have same := congrArg room same
        rw [← unreplaced_pattern (patterns old rfl) kind] at less
        simp only [Option.toList_some, singleton_append, room, room_linesAfter] at same less
        omega
    | false =>
      cases opened with
      | none =>
        rw [linesAfter_plain kind (.inl rfl), linesAfter_plain kind (.inl rfl), unreplaced_plain kind]
        simpa using ih none (by simp)
      | some old =>
        cases looks : isOption word <;> cases meant : option word
        · have longer := isPattern_append (patterns old rfl) (" " ++ word)
          simpa [linesAfter_part kind looks, linesAfter_part kind meant] using
            ih (some (old ++ (" " ++ word))) (by simpa using longer)
        · rw [linesAfter_part kind looks, linesAfter_plain kind (.inr meant)]
          refine iff_of_false (fun same => ?_) (by simp)
          refine linesAfter_ne words ((unreplaced_eq_self ?_).symm.trans same)
          rw [same]
          simp [room_linesAfter]
          omega
        · rw [linesAfter_plain kind (.inr looks), linesAfter_part kind meant, unreplaced_plain kind]
          exact iff_of_false (fun same => linesAfter_ne words same.symm) (by simp)
        · rw [linesAfter_plain kind (.inr looks), linesAfter_plain kind (.inr meant), unreplaced_plain kind]
          simpa using ih none (by simp)

/-- Whichever words count as options, the options file has the lines that the command line stands for exactly if while a
pattern is open no other comes and the words that look like an option are those that are one. In any case it has the lines
that go by the looks of the words, without each pattern that another follows at once. -/
theorem written_eq_lines_iff (option : String → Bool) (options : String) :
    (Settings.ofOptions options).written = unreplaced (linesOf isOption false (given options)) ∧
      ((Settings.ofOptions options).written = linesOf option false (given options) ↔
        IsClear option false (given options)) := by
  have written : (Settings.ofOptions options).written = unreplaced (linesOf isOption false (given options)) :=
    Settings.written_foldl (wordsOf options) {} (by simp)
  rw [written]
  exact ⟨rfl, unreplaced_eq_iff none (given options) (by simp)⟩

/-- With the words that start with a dash as the options: a second pattern replaces the first, `-R` goes into the pattern
before it, and `y--z/` is cut off the pattern that it is a part of. -/
theorem first_pattern_lost :
    ((Settings.ofOptions "--regex-a=x --regex-b=y input.c").written = ["--regex-b=y"] ∧
      ¬ IsClear (startsWith "-") false (given "--regex-a=x --regex-b=y input.c")) ∧
    ((Settings.ofOptions "--regex-a=x -R input.c").written = ["--regex-a=x -R"] ∧
      ¬ IsClear (startsWith "-") false (given "--regex-a=x -R input.c")) ∧
    (Settings.ofOptions "--regex-a=/x y--z/ input.c").written = ["--regex-a=/x", "y--z/"] ∧
      ¬ IsClear (startsWith "-") false (given "--regex-a=/x y--z/ input.c") := by
  have unclear {options : String}
      (differs : (Settings.ofOptions options).written ≠ linesOf (startsWith "-") false (given options)) :
      ¬ IsClear (startsWith "-") false (given options) := mt (written_eq_lines_iff _ options).2.2 differs
  refine ⟨⟨?_, unclear ?_⟩, ⟨?_, unclear ?_⟩, ?_, unclear ?_⟩
  all_goals decide +kernel

end Playhouse.Manual
