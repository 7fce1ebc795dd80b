import Playhouse.Proofs.Character.Narration
import Playhouse.Proofs.Text.Split

/-!
Characters from templates. A template names options for traits, and a trait honours them if it is one of those that are
not blank, or a standard one if there are none. Twelve traits do so unless a blank item is drawn, which can happen as
soon as there is one beside something that is not blank; the colour of the eyes is never looked up.
-/
namespace Playhouse
open List Traits Narrative Text Act Chance

/-! ### Chance -/

/-- The next numbers, as many as are asked for, have a property. -/
def Chance.Deals (D : Nat → Prop) : Nat → Chance → Prop
  | 0, _ => True
  | n + 1, chance => D chance.next.1 ∧ Deals D n chance.next.2

theorem Chance.deals_of_all {D : Nat → Prop} (all : ∀ number, D number) (n : Nat) (chance : Chance) :
    chance.Deals D n := by
  induction n generalizing chance with
  | zero => trivial
  | succ n ih => exact ⟨all _, ih _⟩

theorem Chance.deals_replicate (number n used : Nat) : Deals (· = number) n ⟨replicate n number, used⟩ := by
  induction n generalizing used with
  | zero => trivial
  | succ n ih => exact ⟨rfl, ih (used + 1)⟩

namespace Casting

/-- A trait that a template has options for: its field, the key of the options and the standard ones. -/
structure Trait where
  field : String
  key : String
  standard : List String

/-- The traits that are chosen among the options of a template. -/
def templated : List Trait :=
  [⟨"height", "height_options", heights⟩, ⟨"hair_color", "hair_color_options", hairColors⟩,
    ⟨"style_preference", "style_preference_options", styles⟩,
    ⟨"signature_items", "signature_items_options", signatureItems⟩, ⟨"occupation", "occupation_options", occupations⟩,
    ⟨"communication_style", "communication_style_options", communicationStyles⟩,
    ⟨"challenge_handling", "challenge_handling_options", challengeHandling⟩,
    ⟨"hobbies", "hobbies_options", hobbies⟩, ⟨"quirks", "quirks_options", habits⟩,
    ⟨"costume", "costume_options", costumes.map (·.main)⟩,
    ⟨"accessories", "accessories_options", costumes.map (·.accessories)⟩,
    ⟨"alternative_costumes", "alternative_costumes_options", costumes.map (·.alternatives)⟩]

/-- The colour of the eyes, for which a template has options as well. -/
def eyeTrait : Trait := ⟨"eye_color", "eye_color_options", "gray" :: eyeColors⟩

namespace Trait

variable {trait : Trait} {template : Fields} {value : String}

/-- The text with the options. -/
def text (trait : Trait) (template : Fields) : String := ((template.get? trait.key).bind Value.text?).getD ""

/-- The items of the text, trimmed. -/
def items (trait : Trait) (template : Fields) : List String := (splitText "," (trait.text template)).map trimmed

/-- The options that a template names: the items that are not blank. -/
def offered (trait : Trait) (template : Fields) : List String := (trait.items template).filter (· ≠ "")

/-- A value is one of the options, or a standard one if there are none. -/
def Honours (trait : Trait) (template : Fields) (value : String) : Prop :=
  value ∈ trait.offered template ∨ trait.offered template = [] ∧ value ∈ trait.standard

/-- What the trait is chosen from. -/
def choices (trait : Trait) (template : Fields) : List String :=
  if isBlankText (trait.text template) then trait.standard else trait.items template

theorem choices_ne_nil (some_ : trait.standard ≠ []) : trait.choices template ≠ [] := by
  unfold choices items splitText
  split
  · exact some_
  · simpa using split_ne_nil _

theorem offered_of_blank (blank : isBlankText (trait.text template) = true) : trait.offered template = [] := by
  have blanks : ∀ c ∈ (trait.text template).toList, isBlank c = true := all_eq_true.1 blank
  have whole : ',' ∉ (trait.text template).toList := fun member => by simpa [isBlank] using blanks _ member
  have nothing : trim (trait.text template).toList = [] := by
    simp [trim, trimStart, trimEnd, dropWhile_eq_nil_iff.2 blanks]
  have single : splitText "," (trait.text template) = [trait.text template] := by
    simp [splitText, split_of_notMem whole]
  simp [offered, items, single, trimmed, nothing]

/-- What is chosen honours the options exactly if it is not blank. -/
theorem honours_iff (filled : "" ∉ trait.standard) (chosen : value ∈ trait.choices template) :
    trait.Honours template value ↔ value ≠ "" := by
  have standard : value ∈ trait.standard → value ≠ "" := fun among blank => filled (blank ▸ among)
  unfold choices at chosen
  split at chosen
  case isTrue blank =>
    exact ⟨fun _ => standard chosen, fun _ => .inr ⟨offered_of_blank blank, chosen⟩⟩
  case isFalse =>
    constructor
    · rintro (among | ⟨-, among⟩)
      · simpa using (mem_filter.1 among).2
      · exact standard among
    · intro some_
      exact .inl (mem_filter.2 ⟨chosen, by simpa using some_⟩)

theorem blank_mem_choices (filled : "" ∉ trait.standard) :
    "" ∈ trait.choices template ↔ isBlankText (trait.text template) = false ∧ "" ∈ trait.items template := by
  unfold choices
  split
  case isTrue blank => simp [blank, filled]
  case isFalse some_ => simp [some_]

/-- The action that chooses the trait. -/
def choose (template : Fields) (trait : Trait) : Act Casting Value := optionOf template trait.key trait.standard

/-- The options are a text, or there are none. -/
def Plain (trait : Trait) (template : Fields) : Prop :=
  ∀ value, template.get? trait.key = some value → value = .null ∨ ∃ text, value = .text text

theorem Plain.options (plain : trait.Plain template) :
    (template.get? trait.key).getD .null = .text (trait.text template) ∨
      (template.get? trait.key).getD .null = .null ∧ trait.text template = "" := by
  unfold text
  cases known : template.get? trait.key with
  | none => exact .inr ⟨rfl, rfl⟩
  | some value =>
    obtain rfl | ⟨text, rfl⟩ := plain value known
    · exact .inr ⟨rfl, rfl⟩
    · exact .inl rfl

theorem choose_eq (plain : trait.Plain template) (s : Casting) :
    (choose template trait).runFrom s =
      (do return .text (← withChance (pick (trait.choices template))) : Act Casting Value).runFrom s := by
  unfold choose optionOf choices items
  obtain options | ⟨options, empty⟩ := plain.options
  · rw [options]
    generalize trait.text template = text
    by_cases empty : text = ""
    · subst empty
      rfl
    · have truthy : (Value.text text).truthy = true := bne_iff_ne.2 empty
      cases blank : isBlankText text with
      | true | false => simp [truthy, blank, Value.needText]
  · rw [options, empty]
    rfl

theorem choose_run (some_ : trait.standard ≠ []) (plain : trait.Plain template) (s : Casting) :
    ∃ value, (trait.choices template)[s.chance.next.1 % (trait.choices template).length]? = some value ∧
      (choose template trait).runFrom s = (.ok (.text value), { s with chance := s.chance.next.2 }) := by
  have filled : trait.choices template ≠ [] := choices_ne_nil some_
  obtain ⟨value, placed, picks⟩ := pick_run_at filled s.chance
  refine ⟨value, placed, ?_⟩
  rw [choose_eq plain]
  simp [withChance, picks]

/-- A trait has a choice that a number with a property leads to. -/
def Leads (template : Fields) (D : Nat → Prop) (trait : Trait) (chosen : Value) : Prop :=
  ∃ value, chosen = .text value ∧
    ∃ number, D number ∧ (trait.choices template)[number % (trait.choices template).length]? = some value

/-- Traits are chosen one after another, each with one number. -/
theorem mapM_choose {D : Nat → Prop} {traits : List Trait} (known : ∀ trait ∈ traits, trait.standard ≠ [])
    (plain : ∀ trait ∈ traits, trait.Plain template) {n : Nat} {s : Casting}
    (deals : s.chance.Deals D (traits.length + n)) :
    ∃ values chance, (traits.mapM (choose template)).runFrom s = (.ok values, { s with chance }) ∧
      chance.Deals D n ∧ Forall₂ (Leads template D) traits values := by
  induction traits generalizing s with
  | nil => exact ⟨[], s.chance, rfl, by simpa using deals, .nil⟩
  | cons trait rest ih =>
    obtain ⟨known, known_rest⟩ := forall_mem_cons.1 known
    obtain ⟨plain, plain_rest⟩ := forall_mem_cons.1 plain
    rw [length_cons, Nat.add_right_comm] at deals
    obtain ⟨value, placed, chosen⟩ := choose_run known plain s
    obtain ⟨values, chance, ran, left, pairs⟩ := @ih known_rest plain_rest { s with chance := s.chance.next.2 } deals.2
    refine ⟨.text value :: values, chance, ?_, left, .cons ⟨value, rfl, _, deals.1, placed⟩ pairs⟩
    rw [mapM_cons, runFrom_bind, chosen]
    dsimp only
    rw [runFrom_bind, ran]
    rfl

/-- Fields with the values of traits. -/
def filled (traits : List Trait) (values : List Value) : Fields :=
  zipWith (fun trait value => (.text trait.field, value)) traits values

section
variable {traits : List Trait} {values : List Value} {R : Trait → Value → Prop}

theorem names_filled (pairs : Forall₂ R traits values) :
    (filled traits values).map Prod.fst = traits.map (.text ·.field) := by
  induction pairs with
  | nil => rfl
  | cons _ _ ih => exact congrArg _ ih

theorem mem_filled (pairs : Forall₂ R traits values) (member : trait ∈ traits) :
    ∃ value, R trait value ∧ (.text trait.field, value) ∈ filled traits values := by
  induction pairs with
  | nil => cases member
  | cons related _ ih =>
    rcases mem_cons.1 member with rfl | later
    · exact ⟨_, related, mem_cons_self⟩
    · obtain ⟨value, related, among⟩ := ih later
      exact ⟨value, related, mem_cons_of_mem _ among⟩

end
end Trait

open Trait

theorem templated_known : ∀ trait ∈ templated, trait.standard ≠ [] ∧ "" ∉ trait.standard := by decide

/-- A character before its narrative. -/
def assembled (name : String) (age : Nat) (first : List Value) (eyes : Value) (rest : List Value) : Fields :=
  [(.text "name", .text name), (.text "age", .int age)] ++ filled (templated.take 2) first ++
    [(.text "eye_color", eyes)] ++ filled (templated.drop 2) rest

theorem fromTemplate_eq (visitor : Visitor) (template : Fields) :
    fromTemplate visitor template = (do
      let name ← withChance (pick names)
      let age ← withChance (between 18 65)
      let first ← (templated.take 2).mapM (choose template)
      let eyes ← eyeColor
      let rest ← (templated.drop 2).mapM (choose template)
      withMuses (enhance visitor (assembled name age first eyes rest))) := by
  simp only [templated, take_succ_cons, take_zero, drop_succ_cons, drop_zero, mapM_cons,
    mapM_nil, bind_assoc, pure_bind]
  rfl

/-- Values for the traits before the colour of the eyes and for those behind it. -/
structure Chosen (template : Fields) (D : Nat → Prop) (first rest : List Value) : Prop where
  before : Forall₂ (Leads template D) (templated.take 2) first
  behind : Forall₂ (Leads template D) (templated.drop 2) rest

namespace Chosen

variable {template : Fields} {D : Nat → Prop} {name : String} {age : Nat} {first rest : List Value} {eyes : Value}

section
variable (chosen : Chosen template D first rest)
include chosen

theorem names : (assembled name age first eyes rest).map Prod.fst = traitNames.map Key.text := by
  simp only [assembled, map_append, names_filled chosen.before, names_filled chosen.behind]
  rfl

theorem get? {field : String} {value : Value} (member : (.text field, value) ∈ assembled name age first eyes rest) :
    (assembled name age first eyes rest).get? (.text field) = some value := by
  refine (Fields.get?_eq_some_iff ?_).2 member
  rw [chosen.names]
  exact List.Nodup.map (fun _ _ same => Key.text.inj same) (by decide)

theorem trait {trait : Trait} (member : trait ∈ templated) :
    ∃ value, trait.Leads template D value ∧
      (assembled name age first eyes rest).get? (.text trait.field) = some value := by
  rw [← take_append_drop 2 templated] at member
  rcases mem_append.1 member with early | late
  · obtain ⟨value, leads, among⟩ := mem_filled chosen.before early
    exact ⟨value, leads, chosen.get? (by simp [assembled, among])⟩
  · obtain ⟨value, leads, among⟩ := mem_filled chosen.behind late
    exact ⟨value, leads, chosen.get? (by simp [assembled, among])⟩

/-- The narrative is added and the traits stay. -/
theorem enhance (name : String) (age : Nat) (eyes : Value) (visitor : Visitor) {muses : Muses} (worded : muses.Worded) :
    ∃ character left, (Narrative.enhance visitor (assembled name age first eyes rest)).runFrom muses =
        (.ok character, left) ∧
      ∀ field ∈ traitNames, character.get? (.text field) = (assembled name age first eyes rest).get? (.text field) := by
  have has_name : (assembled name age first eyes rest).get? (.text "name") = some (.text name) :=
    chosen.get? mem_cons_self
  have among (trait : Trait) := @Chosen.trait template D name age first rest eyes chosen trait
  obtain ⟨_, ⟨occupation, rfl, -⟩, has_occupation⟩ :=
    among ⟨"occupation", "occupation_options", occupations⟩ (by simp [templated])
  obtain ⟨_, ⟨hobbies, rfl, -⟩, has_hobbies⟩ :=
    among ⟨"hobbies", "hobbies_options", Traits.hobbies⟩ (by simp [templated])
  obtain ⟨prompt, requested⟩ := request_sketch (@names template D name age first rest eyes chosen)
  obtain ⟨left, -, run⟩ := enhance_eq requested (compose_eq has_name has_occupation has_hobbies) visitor worded
  have apart : ∀ topic ∈ Topic.all, ∀ field ∈ traitNames, field ≠ topic.field := by decide
  refine ⟨_, left, run, fun field known => get?_update_of_other fun topic _ same => ?_⟩
  exact apart topic (mem_topics topic) field known (Key.text.inj same)

end
end Chosen

/-- Whatever chance and the services bring, a character is made. -/
theorem fromTemplate_run {template : Fields} (plain : ∀ trait ∈ templated, trait.Plain template) (visitor : Visitor)
    {s : Casting} (recalls : Recalls s.history) (worded : s.muses.Worded) {D : Nat → Prop}
    (deals : s.chance.Deals D 16) :
    ∃ character, ((fromTemplate visitor template).runFrom s).1 = .ok character ∧
      (∀ trait ∈ templated, ∃ value, trait.Leads template D value ∧
        character.get? (.text trait.field) = some value) ∧
      ∃ eyes ∈ eyeTrait.standard, character.get? (.text eyeTrait.field) = some (.text eyes) := by
  obtain ⟨name, -, picks⟩ := @pick_run _ names (by decide) s.chance
  have named : (withChance (pick names)).runFrom s = (.ok name, { s with chance := s.chance.next.2 }) := by
    simp [withChance, picks]
  have aged (t : Casting) : (withChance (between 18 65)).runFrom t =
      (.ok (18 + t.chance.next.1 % 48), { t with chance := t.chance.next.2 }) := rfl
  have known {traits : List Trait} (among : traits ⊆ templated) : ∀ trait ∈ traits, trait.standard ≠ [] :=
    fun trait member => (templated_known trait (among member)).1
  obtain ⟨first, chance, first_ran, left, before⟩ := @mapM_choose template D (templated.take 2)
    (known (take_subset 2 _)) (fun trait member => plain trait (take_subset 2 _ member)) 12
    { s with chance := s.chance.next.2.next.2 } deals.2.2
  obtain ⟨eyes, among, later, eyes_ran, used⟩ := @eyeColor_run { s with chance } recalls
  -- one number more is left if the eyes took only one
  obtain ⟨n, deals⟩ : ∃ n, later.Deals D (10 + n) := by
    rcases used with rfl | rfl
    · exact ⟨1, left.2⟩
    · exact ⟨0, left.2.2⟩
  obtain ⟨rest, last, rest_ran, -, behind⟩ := @mapM_choose template D (templated.drop 2)
    (known (drop_subset 2 _)) (fun trait member => plain trait (drop_subset 2 _ member)) n
    { s with chance := later } deals
  have chosen : Chosen template D first rest := ⟨before, behind⟩
  obtain ⟨character, _, enhanced, same⟩ :=
    chosen.enhance name (18 + s.chance.next.2.next.1 % 48) (.text eyes) visitor worded
  refine ⟨character, ?_, fun trait member => ?_, eyes, among, ?_⟩
  · rw [fromTemplate_eq]
    simp only [runFrom_bind, named, aged, first_ran, eyes_ran, rest_ran, withMuses, runFrom_on, enhanced]
  · have traits : ∀ trait ∈ templated, trait.field ∈ traitNames := by decide
    rw [same _ (traits trait member)]
    exact chosen.trait member
  · rw [same eyeTrait.field (by decide)]
    exact chosen.get? (by simp [assembled, eyeTrait])

/-- The options for the eyes are not looked up. -/
theorem fromTemplate_set_eyes (visitor : Visitor) (template : Fields) (options : Value) :
    fromTemplate visitor (template.set (.text eyeTrait.key) options) = fromTemplate visitor template := by
  have reads {key : String} (other : key ≠ eyeTrait.key) :
      optionOf (template.set (.text eyeTrait.key) options) key = optionOf template key := by
    unfold optionOf
    rw [Fields.get?_set_of_ne other]
  unfold fromTemplate
  simp (disch := decide) only [reads]

/-- **When a template is honoured.** Whatever chance and the services bring, a character comes of every template whose
options are texts. A trait that is chosen among options honours them exactly if it is not blank, so that every stream
honours them exactly if they are blank as a whole or have no blank item. The colour of the eyes is a standard one
whatever the options for it are, which make no difference at all: it honours them if it happens to be among them. -/
theorem template_honoured_iff_no_blank (visitor : Visitor) (template : Fields) (s : Casting)
    (recalls : Recalls s.history) (worded : s.muses.Worded) (plain : ∀ trait ∈ templated, trait.Plain template) :
    (∀ chance, ∃ character, ((fromTemplate visitor template).runFrom { s with chance }).1 = .ok character ∧
      (∀ trait ∈ templated, ∃ value, character.get? (.text trait.field) = some (.text value) ∧
        (trait.Honours template value ↔ value ≠ "")) ∧
      ∃ eyes ∈ eyeTrait.standard, character.get? (.text eyeTrait.field) = some (.text eyes) ∧
        (eyeTrait.Honours template eyes ↔ eyeTrait.offered template = [] ∨ eyes ∈ eyeTrait.offered template)) ∧
    (∀ trait ∈ templated, (∀ chance character value,
        ((fromTemplate visitor template).runFrom { s with chance }).1 = .ok character →
        character.get? (.text trait.field) = some (.text value) → trait.Honours template value) ↔
      isBlankText (trait.text template) = true ∨ "" ∉ trait.items template) ∧
    ∀ options, fromTemplate visitor (template.set (.text eyeTrait.key) options) = fromTemplate visitor template := by
  have runs {D : Nat → Prop} {chance : Chance} (deals : chance.Deals D 16) :=
    @fromTemplate_run template plain visitor { s with chance } recalls worded D deals
  have always (chance : Chance) := runs (Chance.deals_of_all (fun _ => trivial) 16 chance)
  refine ⟨fun chance => ?_, fun trait member => ?_, fromTemplate_set_eyes visitor template⟩
  · obtain ⟨character, made, traits, eyes, standard, has_eyes⟩ := always chance
    refine ⟨character, made, fun trait member => ?_, eyes, standard, has_eyes, ?_⟩
    · obtain ⟨_, ⟨value, rfl, _, -, placed⟩, has⟩ := traits trait member
      exact ⟨value, has, Trait.honours_iff (templated_known trait member).2 (List.mem_of_getElem? placed)⟩
    · rw [Trait.Honours, or_comm, and_iff_left standard]
  · have filled := (templated_known trait member).2
    refine ⟨fun honours => ?_, fun sound chance character value made has => ?_⟩
    · by_contra unsound
      have blank : "" ∈ trait.choices template := by simpa [Trait.blank_mem_choices filled] using unsound
      obtain ⟨number, inside, blank_at⟩ := List.getElem_of_mem blank
      -- a stream that brings the place of the blank item again and again
      obtain ⟨character, made, traits, -⟩ := runs (Chance.deals_replicate number 16 0)
      obtain ⟨_, ⟨value, rfl, _, rfl, placed⟩, has⟩ := traits trait member
      rw [Nat.mod_eq_of_lt inside, List.getElem?_eq_getElem inside, blank_at] at placed
      obtain rfl := Option.some.inj placed
      exact (Trait.honours_iff filled blank).1 (honours _ character "" made has) rfl
    · obtain ⟨_, made_too, traits, -⟩ := always chance
      obtain rfl := Except.ok.inj (made_too.symm.trans made)
      obtain ⟨_, ⟨_, rfl, _, -, placed⟩, has_too⟩ := traits trait member
      obtain rfl := Value.text.inj (Option.some.inj (has_too.symm.trans has))
      have chosen := List.mem_of_getElem? placed
      refine (Trait.honours_iff filled chosen).2 ?_
      rintro rfl
      obtain ⟨some_, among⟩ := (Trait.blank_mem_choices filled).1 chosen
      simp [some_, among] at sound

/-- Someone whose eyes should be violet has others, and a comma too many can leave them without a height. -/
theorem violet_eyes_and_height_missed :
    let template : Fields := [("height_options", .text "tall,,"), ("eye_color_options", .text "violet")]
    let height : Trait := ⟨"height", "height_options", Traits.heights⟩
    (∃ character eyes, ((fromTemplate .anonymous template).runFrom {}).1 = .ok character ∧
        character.get? "eye_color" = some (.text eyes) ∧ ¬eyeTrait.Honours template eyes) ∧
      ∃ chance character value, ((fromTemplate .anonymous template).runFrom { chance }).1 = .ok character ∧
        character.get? "height" = some (.text value) ∧ ¬height.Honours template value := by
  intro template height
  have recalls : Recalls {} := ⟨rfl, by decide, by simp⟩
  have plain : ∀ trait ∈ templated, trait.Plain template := by
    intro trait _ value found
    obtain ⟨field, among, rfl⟩ := Option.map_eq_some_iff.1 found
    have texts : ∀ field ∈ template, ∃ text, field.2 = .text text := by simp [template]
    exact .inr (texts field (List.mem_of_find?_eq_some among))
  obtain ⟨each, all, -⟩ := template_honoured_iff_no_blank .anonymous template {} recalls ⟨by simp, by simp⟩ plain
  constructor
  · obtain ⟨character, made, -, eyes, standard, has, honours⟩ := each {}
    refine ⟨character, eyes, made, has, fun honoured => ?_⟩
    have apart : ∀ eyes ∈ eyeTrait.standard, ¬(eyeTrait.offered template = [] ∨ eyes ∈ eyeTrait.offered template) := by
      decide +kernel
    exact apart eyes standard (honours.1 honoured)
  · by_contra never
    have sound := (all height List.mem_cons_self).1 fun chance character value made has => by
      by_contra missed
      exact never ⟨chance, character, value, made, has, missed⟩
    revert sound
    decide +kernel

end Casting
end Playhouse
