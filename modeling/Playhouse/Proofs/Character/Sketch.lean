import Playhouse.Character.Casting
import Playhouse.Proofs.Character.Freshness

/-!
Sketching a character. Whatever chance brings, a sketch has all its traits, and a trait with more options
than there are remembered characters differs from the trait of each of them.
-/
namespace Playhouse
open Traits List Prod Act Key

variable {s : Casting} {value : Value} {name : String}

/-- A text or a whole number. -/
def Value.IsPlain : Value → Prop
  | .text _ | .int _ => True
  | _ => False

theorem Value.IsPlain.isKey (plain : value.IsPlain) : value.isKey = true := by
  cases value with
  | text s | int n => rfl
  | _ => cases plain

/-- Texts and whole numbers are equal only to themselves, among each other. -/
theorem Value.IsPlain.equal_iff {other : Value} (plain : value.IsPlain) (other_plain : other.IsPlain) :
    value.equal other = true ↔ value = other := by
  cases value with
  | text s =>
    rw [Value.text_equal]
    exact eq_comm
  | int m =>
    cases other with
    | text t => simp
    | int n => simp [Value.equal, Value.number?, Number.equal]
    | _ => cases other_plain
  | _ => cases plain

namespace Fields

theorem get?_eq_some_iff {fields : Fields} (once : (fields.map fst).Nodup) :
    fields.get? (.text name) = some value ↔ (.text name, value) ∈ fields := by
  induction fields with
  | nil => simp
  | cons field rest ih =>
    obtain ⟨key, held⟩ := field
    rw [map_cons, nodup_cons] at once
    rw [get?_cons, mem_cons]
    by_cases same : key = .text name
    · subst same
      have absent : (.text name, value) ∉ rest := fun member => once.1 (mem_map.2 ⟨_, member, rfl⟩)
      simp only [beq_text, if_true, Option.some.injEq, mk.injEq, true_and, absent, or_false]
      exact eq_comm
    · have other : (text name, value) ≠ (key, held) := fun both => same (congrArg fst both).symm
      simp [same, other, ih once.2]

end Fields

namespace Casting

/-- The traits of a sketch, in their order. -/
def traitNames : List String :=
  ["name", "age", "height", "hair_color", "eye_color", "style_preference", "signature_items", "occupation",
    "communication_style", "challenge_handling", "hobbies", "quirks", "costume", "accessories", "alternative_costumes"]

/-- The names of all fields of a character: its traits, and the fields of its narrative. -/
def fieldNames : List String := traitNames ++ Narrative.Topic.all.map Narrative.Topic.field

/-- A character that was cast: it has every field once, as a text or a whole number. -/
structure IsCast (fields : Fields) : Prop where
  names : (fields.map fst).Perm (fieldNames.map text)
  plain : ∀ field ∈ fields, field.2.IsPlain

/-- A history of at most three cast characters. -/
structure Recalls (history : History) : Prop where
  limit : history.limit = some 3
  few : history.characters.length ≤ 3
  cast : ∀ old ∈ history.characters, ∃ fields, old = .record fields ∧ IsCast fields

theorem nodup_fieldNames : (fieldNames.map text).Nodup := by
  have names : fieldNames.Nodup := by decide
  exact List.Nodup.map (fun _ _ same => text.inj same) names

namespace IsCast

variable {fields : Fields}

theorem once (cast : IsCast fields) : (fields.map fst).Nodup := cast.names.nodup_iff.2 nodup_fieldNames

theorem length_eq (cast : IsCast fields) : fields.length = 19 := by
  have same := cast.names.length_eq
  rw [length_map, length_map] at same
  exact same

end IsCast

/-! ### Options that are free -/

theorem Recalls.hashable {history : History} (recalls : Recalls history) (key : Key) : history.Hashable key := by
  intro old member
  obtain ⟨fields, rfl, cast⟩ := recalls.cast old member
  refine ⟨fields, rfl, fun value found => ?_⟩
  obtain ⟨field, first, rfl⟩ := Option.map_eq_some_iff.1 found
  exact (cast.plain field (mem_of_find?_eq_some first)).isKey

/-- An option is found; if there are more options than remembered characters, none of these has it. -/
theorem fresh_run (recalls : Recalls s.history) {options : List String} (some_ : options ≠ []) (name : String) :
    ∃ option ∈ options, (fresh options name).runFrom s = (.ok (.text option), { s with chance := s.chance.next.2 }) ∧
      (options.Nodup → s.history.characters.length < options.length →
        ∀ old ∈ s.history.characters, old.field? name ≠ some (.text option)) := by
  have hashable := recalls.hashable name
  have keys : ∀ option ∈ options.map Value.text, option.isKey = true := by simp [Value.isKey, Value.key?]
  obtain ⟨choice, among, picks, free⟩ := History.fresh_run hashable keys (by simpa using some_) s.chance
  obtain ⟨option, member, rfl⟩ := mem_map.1 among
  refine ⟨option, member, ?_, fun nodup more old remembered same => ?_⟩
  · have picks : (s.history.fresh (.ofTexts options) (.text name)).runFrom s.chance = _ := picks
    simp [fresh, withChance, picks]
  · have apart : (options.map Value.text).Pairwise fun a b => a.equal b = false :=
      pairwise_map.2 (nodup.imp fun differ => by simpa using differ)
    have equal := free (History.exists_lacks hashable apart (by simpa using more)) _
      (mem_filterMap.2 ⟨old, remembered, same⟩)
    simp at equal

/-! ### The whole sketch -/

/-- The traits that are chosen among options that are free. -/
def variedTraits : List (String × List String) :=
  [("name", names), ("height", heights), ("hair_color", hairColors),
    ("style_preference", styles), ("signature_items", signatureItems),
    ("occupation", occupations), ("communication_style", communicationStyles),
    ("challenge_handling", challengeHandling), ("hobbies", hobbies), ("quirks", habits)]

/-- A sketch beside a history: it has all traits, and the varied ones are options that no remembered
character has. -/
structure Sketched (history : History) (fields : Fields) : Prop where
  names : fields.map fst = traitNames.map text
  plain : ∀ field ∈ fields, field.2.IsPlain
  varied : ∀ trait ∈ variedTraits, ∃ option ∈ trait.2, fields.get? (.text trait.1) = some (.text option) ∧
    ∀ old ∈ history.characters, old.field? trait.1 ≠ some (.text option)

/-- A colour is found, with one number or two. -/
theorem eyeColor_run (recalls : Recalls s.history) :
    ∃ color ∈ "gray" :: eyeColors, ∃ chance, (eyeColor).runFrom s = (.ok (.text color), { s with chance }) ∧
      (chance = s.chance.next.2 ∨ chance = s.chance.next.2.next.2) := by
  have draws : (withChance Chance.hundredths).runFrom s =
      (.ok (s.chance.next.1 % 100), { s with chance := s.chance.next.2 }) := rfl
  by_cases rare : s.chance.next.1 % 100 < 8
  · refine ⟨"gray", mem_cons_self, s.chance.next.2, ?_, .inl rfl⟩
    simp [eyeColor, draws, rare]
  · obtain ⟨color, among, found, -⟩ := @fresh_run { s with chance := s.chance.next.2 } recalls
      eyeColors (by decide) "eye_color"
    refine ⟨color, mem_cons_of_mem _ among, _, ?_, .inr rfl⟩
    simp [eyeColor, draws, rare, found]

theorem varied_run (recalls : Recalls s.history) {trait : String × List String} (varied : trait ∈ variedTraits) :
    ∃ option ∈ trait.2, ∃ chance, (fresh trait.2 trait.1).runFrom s = (.ok (.text option), { s with chance }) ∧
      ∀ old ∈ s.history.characters, old.field? trait.1 ≠ some (.text option) := by
  have known : ∀ trait ∈ variedTraits, trait.2 ≠ [] ∧ trait.2.Nodup ∧ 3 < trait.2.length := by decide
  obtain ⟨some_, nodup, more⟩ := known trait varied
  obtain ⟨option, member, found, free⟩ := fresh_run recalls some_ trait.1
  exact ⟨option, member, _, found, free nodup (Nat.lt_of_le_of_lt recalls.few more)⟩

/-- Whatever chance brings, a character is sketched. -/
theorem sketch_run (recalls : Recalls s.history) :
    ∃ fields chance, (sketch).runFrom s = (.ok fields, { s with chance }) ∧ Sketched s.history fields := by
  have draw (chance : Chance) (trait : String × List String) (varied : trait ∈ variedTraits) :=
    varied_run (s := { s with chance }) recalls varied
  obtain ⟨name, in_names, c₁, drew_name, free_name⟩ := draw s.chance ("name", names) (by decide)
  have aged : (withChance (Chance.between 18 65)).runFrom { s with chance := c₁ } =
      (.ok (18 + c₁.next.1 % 48), { s with chance := c₁.next.2 }) := rfl
  obtain ⟨height, in_heights, c₂, drew_height, free_height⟩ :=
    draw c₁.next.2 ("height", heights) (by decide)
  obtain ⟨hair, in_hair, c₃, drew_hair, free_hair⟩ :=
    draw c₂ ("hair_color", hairColors) (by decide)
  obtain ⟨eyes, -, c₄, drew_eyes, -⟩ := eyeColor_run (s := { s with chance := c₃ }) recalls
  obtain ⟨style, in_styles, c₅, drew_style, free_style⟩ :=
    draw c₄ ("style_preference", styles) (by decide)
  obtain ⟨items, in_items, c₆, drew_items, free_items⟩ :=
    draw c₅ ("signature_items", signatureItems) (by decide)
  obtain ⟨occupation, in_occupations, c₇, drew_occupation, free_occupation⟩ :=
    draw c₆ ("occupation", occupations) (by decide)
  obtain ⟨communication, in_communication, c₈, drew_communication, free_communication⟩ :=
    draw c₇ ("communication_style", communicationStyles) (by decide)
  obtain ⟨handling, in_handling, c₉, drew_handling, free_handling⟩ :=
    draw c₈ ("challenge_handling", challengeHandling) (by decide)
  obtain ⟨hobbies, in_hobbies, c₁₀, drew_hobbies, free_hobbies⟩ :=
    draw c₉ ("hobbies", Traits.hobbies) (by decide)
  obtain ⟨habits, in_habits, c₁₁, drew_habits, free_habits⟩ :=
    draw c₁₀ ("quirks", Traits.habits) (by decide)
  obtain ⟨costume, -, dressed⟩ := @Chance.pick_run _ costumes (by decide) c₁₁
  have drew_costume : (withChance (Chance.pick costumes)).runFrom { s with chance := c₁₁ } =
      (.ok costume, { s with chance := c₁₁.next.2 }) := by
    simp [withChance, dressed]
  refine ⟨[("name", .text name), ("age", .int (18 + c₁.next.1 % 48 : Nat)), ("height", .text height),
    ("hair_color", .text hair), ("eye_color", .text eyes), ("style_preference", .text style),
    ("signature_items", .text items), ("occupation", .text occupation), ("communication_style", .text communication),
    ("challenge_handling", .text handling), ("hobbies", .text hobbies), ("quirks", .text habits),
    ("costume", .text costume.main), ("accessories", .text costume.accessories),
    ("alternative_costumes", .text costume.alternatives)], c₁₁.next.2, ?_, ?_⟩
  · simp only [sketch, runFrom_bind, drew_name, aged, drew_height, drew_hair, drew_eyes, drew_style, drew_items,
      drew_occupation, drew_communication, drew_handling, drew_hobbies, drew_habits, drew_costume, runFrom_pure]
  · refine ⟨rfl, by simp [Value.IsPlain], ?_⟩
    simp only [variedTraits, forall_mem_cons]
    exact ⟨⟨name, in_names, rfl, free_name⟩, ⟨height, in_heights, rfl, free_height⟩, ⟨hair, in_hair, rfl, free_hair⟩,
      ⟨style, in_styles, rfl, free_style⟩, ⟨items, in_items, rfl, free_items⟩,
      ⟨occupation, in_occupations, rfl, free_occupation⟩, ⟨communication, in_communication, rfl, free_communication⟩,
      ⟨handling, in_handling, rfl, free_handling⟩, ⟨hobbies, in_hobbies, rfl, free_hobbies⟩,
      ⟨habits, in_habits, rfl, free_habits⟩, forall_mem_nil _⟩

end Casting
end Playhouse
