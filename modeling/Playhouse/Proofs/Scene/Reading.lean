import Playhouse.Proofs.Data.Entries
import Playhouse.Scene.Basic
import Mathlib.Data.List.Induction
import Mathlib.Data.List.TakeWhile

/-!
What is read from a content, said without reading it part by part. The choices are the choice parts in order; a choice
has the consequence that was told last of those told after it and before the next choice; of the plain parts before the
first choice the first is the introduction and the last of the others the challenge.
-/
namespace Playhouse.Scene
open List Entries

/-- The plain parts before the first choice: those that are neither a choice nor a consequence. -/
def opening (parts : List (List Char)) : List (List Char) :=
  (parts.takeWhile fun part => !isChoice part).filter fun part => !isConsequence part

/-- The text of the last choice among the parts. -/
def lastChoice? (parts : List (List Char)) : Option String := (parts.filter isChoice).getLast?.map tail

/-- At a place stands a consequence, and the most recent choice before it has a text. -/
def IsConsequenceOf (parts : List (List Char)) (choice : String) (i : Nat) : Prop :=
  ∃ part, parts[i]? = some part ∧ isChoice part = false ∧ isConsequence part = true ∧
    lastChoice? (parts.take i) = some choice

/-- The last consequence that is told of a choice has a text. -/
def ToldLast (parts : List (List Char)) (choice text : String) : Prop :=
  ∃ i part, parts[i]? = some part ∧ tail part = text ∧ IsConsequenceOf parts choice i ∧
    ∀ j, i < j → ¬ IsConsequenceOf parts choice j

/-- A scene is what the parts tell. -/
structure Tells (parts : List (List Char)) (scene : Scene) : Prop where
  introduction : scene.introduction = .text (String.ofList ((opening parts).head?.getD []))
  challenge : scene.challenge = .text (String.ofList ((opening parts).tail.getLast?.getD []))
  choices : scene.choices = (parts.filter isChoice).map tail
  once : (scene.consequences.map Prod.fst).Nodup
  known : ∀ choice ∈ scene.consequences.map Prod.fst, choice ∈ scene.choices
  consequences : ∀ choice text, (choice, text) ∈ scene.consequences ↔ ToldLast parts choice text

/-! ### One part more -/

section
variable {parts : List (List Char)} {part : List Char} {choice text : String}

theorem opening_concat_of_choice (is_choice : isChoice part = true) : opening (parts ++ [part]) = opening parts := by
  rw [opening, takeWhile_append]
  split
  · rename_i all
    have whole := IsPrefix.eq_of_length ( takeWhile_prefix _) all
    rw [takeWhile_cons_of_neg (by simp [is_choice]), append_nil, opening, whole]
  · rfl

theorem opening_concat_after (chosen : parts.any isChoice = true) (part : List Char) :
    opening (parts ++ [part]) = opening parts := by
  rw [opening, takeWhile_append, if_neg, opening]
  intro all
  have whole := IsPrefix.eq_of_length ( takeWhile_prefix _) all
  obtain ⟨other, member, is_choice⟩ := any_eq_true.1 chosen
  have passed := takeWhile_eq_self_iff.1 whole other member
  simp [is_choice] at passed

theorem opening_concat_before (unchosen : parts.any isChoice = false) (no_choice : isChoice part = false) :
    opening (parts ++ [part]) = opening parts ++ if isConsequence part then [] else [part] := by
  have whole : parts.takeWhile (fun part => !isChoice part) = parts := by
    rw [takeWhile_eq_self_iff]
    simpa using unchosen
  have goes_on : [part].takeWhile (fun part => !isChoice part) = [part] := by simp [no_choice]
  rw [opening, takeWhile_append, whole, if_pos rfl, goes_on, filter_append, opening, whole]
  by_cases consequence : isConsequence part = true <;> simp [consequence]

theorem isConsequenceOf_concat (i : Nat) : IsConsequenceOf (parts ++ [part]) choice i ↔
    IsConsequenceOf parts choice i ∨ (i = parts.length ∧ isChoice part = false ∧ isConsequence part = true ∧
      lastChoice? parts = some choice) := by
  rcases Nat.lt_trichotomy i parts.length with before | rfl | behind
  · rw [IsConsequenceOf, getElem?_append_left before, take_append_of_le_length before.le, IsConsequenceOf, or_iff_left]
    exact fun last => absurd last.1 before.ne
  · simp [IsConsequenceOf]
  · have nothing : (parts ++ [part])[i]? = none := getElem?_eq_none (by simpa using Nat.succ_le_of_lt behind)
    have nothing_before : parts[i]? = none := getElem?_eq_none behind.le
    simp [IsConsequenceOf, nothing, nothing_before, behind.ne']

theorem toldLast_concat_self (no_choice : isChoice part = false) (consequence : isConsequence part = true)
    (last : lastChoice? parts = some choice) : ToldLast (parts ++ [part]) choice text ↔ tail part = text := by
  have told : IsConsequenceOf (parts ++ [part]) choice parts.length :=
    (isConsequenceOf_concat _).2 (.inr ⟨rfl, no_choice, consequence, last⟩)
  have stands : (parts ++ [part])[parts.length]? = some part := getElem?_concat_length
  constructor
  · rintro ⟨i, other, there, same, told_there, none_later⟩
    have bound : i < (parts ++ [part]).length := (List.getElem?_eq_some_iff.1 there).1
    rw [length_append, length_singleton] at bound
    -- nothing is told of the choice behind its last consequence, so that this one stands at the end
    obtain rfl : i = parts.length := by
      have not_before : ¬ i < parts.length := fun before => none_later _ before told
      omega
    rw [stands] at there
    cases there
    exact same
  · intro same
    refine ⟨parts.length, part, stands, same, told, fun j later found => ?_⟩
    obtain ⟨_, there, -⟩ := found
    have bound := (List.getElem?_eq_some_iff.1 there).1
    rw [length_append, length_singleton] at bound
    omega

theorem toldLast_concat_other
    (other : ¬ (isChoice part = false ∧ isConsequence part = true ∧ lastChoice? parts = some choice)) :
    ToldLast (parts ++ [part]) choice text ↔ ToldLast parts choice text := by
  have same (i : Nat) : IsConsequenceOf (parts ++ [part]) choice i ↔ IsConsequenceOf parts choice i := by
    rw [isConsequenceOf_concat, or_iff_left fun last => other last.2]
  simp only [ToldLast, same]
  refine exists_congr fun i => exists_congr fun told => ?_
  constructor
  · rintro ⟨there, rest⟩
    obtain ⟨found, at_place, -⟩ := rest.2.1
    rw [getElem?_append_left (List.getElem?_eq_some_iff.1 at_place).1] at there
    exact ⟨there, rest⟩
  · rintro ⟨there, rest⟩
    rw [getElem?_append_left (List.getElem?_eq_some_iff.1 there).1]
    exact ⟨there, rest⟩

end

/-! ### Reading a list of parts -/

/-- Where reading stands behind parts. -/
def placeAfter (parts : List (List Char)) : Place :=
  if parts.any isChoice then .choices else if opening parts = [] then .introduction else .challenge

section
variable {parts : List (List Char)} {scene : Scene} {part : List Char}

theorem Tells.concat_choice (tells : Tells parts scene) (is_choice : isChoice part = true) :
    Tells (parts ++ [part]) { scene with choices := scene.choices ++ [tail part] } where
  introduction := by rw [opening_concat_of_choice is_choice, tells.introduction]
  challenge := by rw [opening_concat_of_choice is_choice, tells.challenge]
  choices := by simp [tells.choices, is_choice]
  once := tells.once
  known := fun choice member => mem_append_left _ (tells.known choice member)
  consequences := fun choice text => by
    rw [toldLast_concat_other (by simp [is_choice])]
    exact tells.consequences choice text

theorem Tells.lastChoice (tells : Tells parts scene) : scene.choices.getLast? = lastChoice? parts := by
  rw [tells.choices, getLast?_map, lastChoice?]

theorem opening_concat_consequence (no_choice : isChoice part = false) (consequence : isConsequence part = true) :
    opening (parts ++ [part]) = opening parts := by
  by_cases chosen : parts.any isChoice = true
  · exact opening_concat_after chosen part
  · rw [opening_concat_before (Bool.eq_false_iff.2 chosen) no_choice, if_pos consequence, append_nil]

section
variable (tells : Tells parts scene)
include tells

theorem Tells.concat_consequence (no_choice : isChoice part = false) (consequence : isConsequence part = true)
    {choice : String} (last : scene.choices.getLast? = some choice) :
    Tells (parts ++ [part]) { scene with consequences := putConsequence choice (tail part) scene.consequences } where
  introduction := by rw [opening_concat_consequence no_choice consequence, tells.introduction]
  challenge := by rw [opening_concat_consequence no_choice consequence, tells.challenge]
  choices := by simp [tells.choices, no_choice]
  once := nodup_put (tests_beq choice) tells.once _
  known := fun other member => by
    rcases (mem_keys_put (tests_beq choice) _ _ _).1 member with rfl | before
    · exact mem_of_getLast? last
    · exact tells.known other before
  consequences := fun other text => by
    rw [tells.lastChoice] at last
    refine (mem_put (tests_beq choice) tells.once _ _).trans ?_
    by_cases this : other = choice
    · subst this
      simp [toldLast_concat_self no_choice consequence last, eq_comm]
    · simp only [Prod.mk.injEq, this, false_and, false_or, ne_eq, not_false_eq_true, and_true]
      rw [tells.consequences, toldLast_concat_other]
      rintro ⟨-, -, other_last⟩
      rw [last] at other_last
      exact this (Option.some.inj other_last).symm

/-- A plain part, or a consequence before any choice, matters to the opening only. -/
theorem Tells.concat_plain (no_choice : isChoice part = false)
    (untold : isConsequence part = true → lastChoice? parts = none) {introduction challenge : Value}
    (introduced : introduction = .text (String.ofList ((opening (parts ++ [part])).head?.getD [])))
    (challenged : challenge = .text (String.ofList ((opening (parts ++ [part])).tail.getLast?.getD []))) :
    Tells (parts ++ [part]) { scene with introduction, challenge } where
  introduction := introduced
  challenge := challenged
  choices := by simp [tells.choices, no_choice]
  once := tells.once
  known := tells.known
  consequences := fun choice text => by
    rw [toldLast_concat_other fun ⟨_, told, last⟩ => by simp [untold told] at last]
    exact tells.consequences choice text

/-- A plain part is the introduction, or the challenge up to the first choice. -/
theorem tells_readPart_plain (no_choice : isChoice part = false) (no_consequence : isConsequence part = false) :
    Tells (parts ++ [part]) (readPart (scene, placeAfter parts) part).1 ∧
      (readPart (scene, placeAfter parts) part).2 = placeAfter (parts ++ [part]) := by
  have untold : isConsequence part = true → lastChoice? parts = none := by simp [no_consequence]
  simp only [readPart, no_choice, no_consequence, Bool.false_eq_true, if_false]
  cases chosen : parts.any isChoice with
  | true =>
    have place : placeAfter parts = .choices := by simp [placeAfter, chosen]
    have opens := opening_concat_after chosen part
    rw [place]
    exact ⟨tells.concat_plain no_choice untold (opens ▸ tells.introduction) (opens ▸ tells.challenge),
      by simp [placeAfter, chosen]⟩
  | false =>
    have opens := opening_concat_before chosen no_choice
    rw [if_neg (by simp [no_consequence])] at opens
    have later : placeAfter (parts ++ [part]) = .challenge := by simp [placeAfter, chosen, no_choice, opens]
    by_cases opened : opening parts = []
    · have place : placeAfter parts = .introduction := by simp [placeAfter, chosen, opened]
      rw [place, later]
      refine ⟨tells.concat_plain no_choice untold ?_ ?_, rfl⟩
      · rw [opens, opened]
        rfl
      · rw [tells.challenge, opens, opened]
        rfl
    · have place : placeAfter parts = .challenge := by simp [placeAfter, chosen, opened]
      rw [place, later]
      refine ⟨tells.concat_plain no_choice untold ?_ ?_, rfl⟩
      · rw [tells.introduction, opens, head?_append_of_ne_nil _ opened]
      · rw [opens, tail_append_of_ne_nil opened, getLast?_concat]
        rfl

/-- Reading one part more, the scene is still what the parts tell. -/
theorem tells_readPart (part : List Char) :
    Tells (parts ++ [part]) (readPart (scene, placeAfter parts) part).1 ∧
      (readPart (scene, placeAfter parts) part).2 = placeAfter (parts ++ [part]) := by
  cases is_choice : isChoice part with
  | true =>
    simp only [readPart, is_choice, if_true]
    exact ⟨tells.concat_choice is_choice, by simp [placeAfter, is_choice]⟩
  | false =>
    cases is_consequence : isConsequence part with
    | true =>
      have opens : opening (parts ++ [part]) = opening parts := opening_concat_consequence is_choice is_consequence
      have place : placeAfter (parts ++ [part]) = placeAfter parts := by simp [placeAfter, is_choice, opens]
      simp only [readPart, is_choice, is_consequence, Bool.false_eq_true, if_false, if_true, place]
      cases last : scene.choices.getLast? with
      | some choice => exact ⟨tells.concat_consequence is_choice is_consequence last, rfl⟩
      | none =>
        have unchosen : lastChoice? parts = none := tells.lastChoice ▸ last
        exact ⟨tells.concat_plain is_choice (fun _ => unchosen) (opens ▸ tells.introduction) (opens ▸ tells.challenge),
          rfl⟩
    | false => exact tells_readPart_plain tells is_choice is_consequence

end

/-- Whatever the parts are, the scene that is read is what they tell. -/
theorem tells_read (parts : List (List Char)) :
    Tells parts (parts.foldl readPart (empty, .introduction)).1 ∧
      (parts.foldl readPart (empty, .introduction)).2 = placeAfter parts := by
  induction parts using reverseRecOn with
  | nil =>
    refine ⟨⟨rfl, rfl, rfl, nodup_nil, forall_mem_nil _, fun choice text => ?_⟩, rfl⟩
    simp [empty, ToldLast]
  | append_singleton parts part ih =>
    obtain ⟨tells, place⟩ := ih
    rw [foldl_concat, ← Prod.eta (parts.foldl readPart _), place]
    exact tells_readPart tells part

end

/-- The scene of a text is what the parts of the text tell. -/
theorem ofContent_tells (content : String) : Tells (parts content.toList) (ofContent (.text content)) :=
  (tells_read (parts content.toList)).1

end Playhouse.Scene
