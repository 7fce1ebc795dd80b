import Playhouse.Proofs.Character.Retries
import Playhouse.Proofs.Text.Split

/-!
Castings without a text service never repeat themselves. The history then holds the last three characters that were
given, and a new one differs from each of them in all varied traits and in all four texts. At most five of its
nineteen fields can be the same, so the first candidate is always the one that is given. Texts differ because the front
of each gives the name or the occupation away, and tidying keeps a front without line breaks and pairs of blanks.
-/
namespace Playhouse
open List Traits

/-! ### Fronts of texts -/

variable {front : List Char}

namespace Text

theorem replace_front {old : List Char} (clear : Clear old front) (new rest : List Char) :
    replace old new (front ++ rest) = front ++ replace old new rest := by
  unfold replace split
  cases cut : splitFrom old 0 rest with
  | nil => exact absurd cut (splitFrom_ne_nil old 0 rest)
  | cons first more => rw [splitFrom_front clear cut, join_front]

/-- A text that starts and ends with characters that are not blank, without line breaks and pairs of blanks. -/
def IsNeat (front : List Char) : Prop :=
  Clear ['\n'] front ∧ Clear [' ', ' '] front ∧ front.head?.any (!isBlank ·) = true ∧
    front.getLast?.any (!isBlank ·) = true

instance (front : List Char) : Decidable (IsNeat front) :=
  inferInstanceAs (Decidable (_ ∧ _ ∧ _ ∧ _))

theorem dropWhile_of_head {text : List Char} (starts : text.head?.any (!isBlank ·) = true) :
    text.dropWhile isBlank = text := by
  refine dropWhile_isBlank fun c first => ?_
  rw [Option.mem_def.1 first] at starts
  simpa using starts

theorem trim_front (neat : IsNeat front) (rest : List Char) : ∃ kept, trim (front ++ rest) = front ++ kept := by
  obtain ⟨-, -, starts, ends⟩ := neat
  have starts_all : (front ++ rest).head?.any (!isBlank ·) = true := by
    cases front with
    | nil => exact absurd starts (by decide)
    | cons c front => exact starts
  have whole : front.reverse.dropWhile isBlank = front.reverse :=
    dropWhile_of_head (by rwa [head?_reverse])
  rw [trim, trimStart, dropWhile_of_head starts_all, trimEnd, reverse_append, dropWhile_append, whole]
  split
  · exact ⟨[], by simp⟩
  · exact ⟨(rest.reverse.dropWhile isBlank).reverse, by simp⟩

/-- Tidying keeps a neat front. -/
theorem tidy_front (neat : IsNeat front) (rest : List Char) : ∃ kept, tidy (front ++ rest) = front ++ kept := by
  obtain ⟨kept, trims⟩ := trim_front neat rest
  rw [tidy, trims, replace_front neat.1, replace_front neat.2.1]
  exact ⟨_, rfl⟩

end Text

namespace Narrative

variable {topic : Topic}

theorem opening_neat {name occupation : String} (among_names : name ∈ Traits.names)
    (among_occupations : occupation ∈ Traits.occupations) (topic : Topic) :
    Text.IsNeat (topic.opening name (lowered occupation)).toList := by
  have names : ∀ name ∈ Traits.names, Text.IsNeat name.toList := by decide +kernel
  have occupations : ∀ occupation ∈ Traits.occupations,
      Text.IsNeat ("As a dedicated " ++ lowered occupation).toList := by decide +kernel
  cases topic
  case goals => exact occupations occupation among_occupations
  all_goals exact names name among_names

/-- What the text on a topic gives away: the occupation in the goals, the name in the others. -/
def Topic.told (name occupation : String) : Topic → String
  | goals => occupation
  | _ => name

/-- No opening starts another one. -/
theorem told_of_opening {name other occupation job : String} (name_known : name ∈ Traits.names)
    (other_known : other ∈ Traits.names) (occupation_known : occupation ∈ Traits.occupations)
    (job_known : job ∈ Traits.occupations)
    (starts : (topic.opening name (lowered occupation)).toList <+: (topic.opening other (lowered job)).toList) :
    topic.told name occupation = topic.told other job := by
  have names : ∀ name ∈ Traits.names, ∀ other ∈ Traits.names, name.toList <+: other.toList → name = other := by
    decide +kernel
  have occupations : ∀ occupation ∈ Traits.occupations, ∀ job ∈ Traits.occupations,
      ("As a dedicated " ++ lowered occupation).toList <+: ("As a dedicated " ++ lowered job).toList →
        occupation = job := by
    decide +kernel
  cases topic
  case goals => exact occupations occupation occupation_known job job_known starts
  all_goals exact names name name_known other other_known starts

/-- A composed text tells the name or the occupation. -/
theorem told_of_tidied {name other occupation job hobbies pastime : String} (name_known : name ∈ names)
    (other_known : other ∈ names) (occupation_known : occupation ∈ occupations)
    (job_known : job ∈ occupations)
    (same : tidied (topic.wording name (lowered occupation) hobbies) = tidied (topic.wording other (lowered job) pastime)) :
    topic.told name occupation = topic.told other job := by
  obtain ⟨kept, tidies⟩ := Text.tidy_front (opening_neat name_known occupation_known topic)
    (topic.account name (lowered occupation) hobbies).toList
  obtain ⟨kept', tidies'⟩ := Text.tidy_front (opening_neat other_known job_known topic)
    (topic.account other (lowered job) pastime).toList
  have texts : (topic.opening name (lowered occupation)).toList ++ kept =
      (topic.opening other (lowered job)).toList ++ kept' := by
    rw [← tidies, ← tidies', ← String.toList_append, ← String.toList_append]
    exact String.ofList_injective same
  -- of two openings of one text, one starts the other
  rcases prefix_or_prefix_of_prefix (prefix_append _ kept) (texts ▸ prefix_append _ kept') with
    starts | starts
  · exact told_of_opening name_known other_known occupation_known job_known starts
  · exact (told_of_opening other_known name_known job_known occupation_known starts).symm

end Narrative
end Playhouse

namespace Playhouse.Casting
open Act Narrative List Prod

/-! ### Characters that differ -/

/-- The fields in which a character differs from the recent ones: the varied traits and the narrative. -/
def variedFields : List String := variedTraits.map fst ++ Topic.all.map Topic.field

/-- The fields that two characters may share. -/
def otherFields : List String := ["age", "eye_color", "costume", "accessories", "alternative_costumes"]

variable {fields : Fields} {returned : List Fields} {s : Casting}

/-- Characters that differ in all varied fields have at most five fields in common. -/
theorem likeness_le_five {others : Fields} (cast : IsCast fields) (other_cast : IsCast others)
    (differ : ∀ name ∈ variedFields, fields.get? (.text name) ≠ others.get? (.text name)) :
    likeness fields (.record others) ≤ 5 := by
  let alike : Key × Value → Bool := fun field => (others.get? field.1).any fun value => value.equal field.2
  have within : (fields.filter alike).map fst ⊆ otherFields.map Key.text := by
    intro key member
    obtain ⟨⟨_, value⟩, kept, rfl⟩ := mem_map.1 member
    obtain ⟨among, same⟩ := mem_filter.1 kept
    obtain ⟨name, known, rfl⟩ := mem_map.1 (cast.names.mem_iff.1 (mem_map_of_mem among))
    obtain ⟨other, found, equal⟩ := (Option.any_eq_true _ _).1 same
    have other_plain : other.IsPlain := other_cast.plain _ ((Fields.get?_eq_some_iff other_cast.once).1 found)
    have agrees : fields.get? (.text name) = others.get? (.text name) := by
      rw [(Fields.get?_eq_some_iff cast.once).2 among, found, (other_plain.equal_iff (cast.plain _ among)).1 equal]
    have split_names : ∀ name ∈ fieldNames, name ∈ variedFields ∨ name ∈ otherFields := by decide
    rcases split_names name known with varied | rest
    · exact absurd agrees (differ name varied)
    · exact mem_map_of_mem rest
  have once : ((fields.filter alike).map fst).Nodup := cast.once.sublist (filter_sublist.map _)
  calc likeness fields (.record others) = ((fields.filter alike).map fst).length := by
        rw [length_map]
        exact countP_eq_length_filter
    _ ≤ (otherFields.map Key.text).length := (subperm_of_subset once within).length_le
    _ = 5 := rfl

/-! ### Composed characters -/

theorem Fields.get?_append {more : Fields} {key : Key} {value : Value} (found : fields.get? key = some value) :
    (fields ++ more : Fields).get? key = some value := by
  obtain ⟨field, first, rfl⟩ := Option.map_eq_some_iff.1 found
  rw [Fields.get?, find?_append, first]
  rfl

/-- A character with composed texts. -/
structure IsComposed (fields : Fields) (name occupation hobbies : String) : Prop where
  cast : IsCast fields
  told : Told fields name occupation hobbies
  texts : ∀ topic : Topic,
    fields.get? (.text topic.field) = some (.text (tidied (topic.wording name (lowered occupation) hobbies)))

theorem isComposed_append {history : History} (sketched : Sketched history fields) {name occupation hobbies : String}
    (told : Told fields name occupation hobbies) :
    IsComposed (fields ++ (composed name (lowered occupation) hobbies).fields) name occupation hobbies := by
  have cast : IsCast (fields ++ (composed name (lowered occupation) hobbies).fields) :=
    isCast_append sketched.names sketched.plain (List.Perm.refl _)
  refine ⟨cast, { told with
    has_name := Fields.get?_append told.has_name
    has_occupation := Fields.get?_append told.has_occupation
    has_hobbies := Fields.get?_append told.has_hobbies }, fun topic => ?_⟩
  rw [Fields.get?_eq_some_iff cast.once]
  refine mem_append_right _ (mem_map.2 ⟨(topic, _), ?_, rfl⟩)
  exact mem_map.2 ⟨topic, mem_topics topic, rfl⟩

/-- Composed characters with other names and occupations have other texts. -/
theorem texts_differ {others : Fields} {name other occupation job hobbies pastime : String}
    (composed : IsComposed fields name occupation hobbies) (other_composed : IsComposed others other job pastime)
    (names : name ≠ other) (occupations : occupation ≠ job) (topic : Topic) :
    fields.get? (.text topic.field) ≠ others.get? (.text topic.field) := by
  rw [composed.texts, other_composed.texts]
  intro same
  have told := told_of_tidied composed.told.among_names other_composed.told.among_names
    composed.told.among_occupations other_composed.told.among_occupations (Value.text.inj (Option.some.inj same))
  cases topic
  case goals => exact occupations told
  all_goals exact names told

/-! ### Runs without a service -/

/-- The last three of some characters. -/
def lastThree (returned : List Fields) : List Fields := returned.drop (returned.length - 3)

/-- No service can be used, and the history holds the last three of the returned characters, all composed. -/
structure Remembers (returned : List Fields) (s : Casting) : Prop where
  silent : s.muses.Silent
  limit : s.history.limit = some 3
  history : s.history.characters = (lastThree returned).map .record
  composed : ∀ fields ∈ returned, ∃ name occupation hobbies, IsComposed fields name occupation hobbies

section
variable (remembers : Remembers returned s)
include remembers

theorem Remembers.recalls : Recalls s.history := by
  refine ⟨remembers.limit, ?_, fun old member => ?_⟩
  · rw [remembers.history, length_map, lastThree, length_drop]
    omega
  · rw [remembers.history] at member
    obtain ⟨fields, among, rfl⟩ := mem_map.1 member
    obtain ⟨_, _, _, composed⟩ := remembers.composed fields (mem_of_mem_drop among)
    exact ⟨fields, rfl, composed.cast⟩

/-- A draft without a service differs from every remembered character in all varied fields. -/
theorem draft_silent (visitor : Visitor) :
    ∃ character chance, (draft visitor).runFrom s = (.ok character, { s with chance }) ∧
      (∃ name occupation hobbies, IsComposed character name occupation hobbies) ∧
      ∀ old ∈ lastThree returned, ∀ name ∈ variedFields, character.get? (.text name) ≠ old.get? (.text name) := by
  obtain ⟨fields, chance, sketches, sketched⟩ := sketch_run remembers.recalls
  obtain ⟨name, occupation, hobbies, told⟩ := exists_told sketched
  have enhances := enhance_silent sketched visitor remembers.silent told
  have composed := isComposed_append sketched told
  refine ⟨_, chance, ?_, ⟨name, occupation, hobbies, composed⟩, fun old among field varied => ?_⟩
  · simp [draft, withMuses, sketches, enhances]
  obtain ⟨other, job, pastime, old_composed⟩ := remembers.composed old (mem_of_mem_drop among)
  have remembered : .record old ∈ s.history.characters := remembers.history ▸ mem_map_of_mem among
  have traits : ∀ trait ∈ variedTraits,
      (fields ++ (Narrative.composed name (lowered occupation) hobbies).fields : Fields).get? (.text trait.1) ≠
        old.get? (.text trait.1) := by
    intro trait among
    obtain ⟨option, -, found, free⟩ := sketched.varied trait among
    rw [Fields.get?_append found]
    exact (free (.record old) remembered).symm
  rcases mem_append.1 varied with of_trait | of_topic
  · obtain ⟨trait, among, rfl⟩ := mem_map.1 of_trait
    exact traits trait among
  · obtain ⟨topic, -, rfl⟩ := mem_map.1 of_topic
    refine texts_differ composed old_composed ?_ ?_ topic
    · have differ := traits ("name", Traits.names) (by decide)
      rw [composed.told.has_name, old_composed.told.has_name] at differ
      exact fun same => differ (congrArg (fun name => some (Value.text name)) same)
    · have differ := traits ("occupation", Traits.occupations) (by decide)
      rw [composed.told.has_occupation, old_composed.told.has_occupation] at differ
      exact fun same => differ (congrArg (fun job => some (Value.text job)) same)

theorem Remembers.add {character : Fields}
    (composed : ∃ name occupation hobbies, IsComposed character name occupation hobbies) {chance : Chance} :
    Remembers (returned ++ [character]) { s with chance, history := s.history.add (.record character) } := by
  refine ⟨remembers.silent, ?_, ?_, forall_mem_append.2 ⟨remembers.composed, forall_mem_singleton.2 composed⟩⟩
  · simp [History.add, remembers.limit]
  · rw [characters_add remembers.recalls, remembers.history, length_map, ← map_drop]
    simp only [lastThree, length_drop, drop_drop, length_append, length_singleton]
    rw [drop_append_of_le_length (by omega), map_append]
    congr 3
    omega

/-- One casting without a service: the first candidate is given and remembered. -/
theorem generate_silent (visitor : Visitor) :
    ∃ character left, (generate visitor).runFrom s = (.ok character, left) ∧
      Casts visitor (.whole maxDepth) s [.drafted character false, .remembered character] (.ok character) left ∧
      Remembers (returned ++ [character]) left ∧ IsCast character ∧
      ∀ old ∈ lastThree returned, IsCast old ∧
        (∀ name ∈ variedFields, character.get? (.text name) ≠ old.get? (.text name)) ∧
        likeness character (.record old) ≤ 5 := by
  obtain ⟨character, chance, drafts, composed, differ⟩ := draft_silent remembers visitor
  have cast : IsCast character := by
    obtain ⟨_, _, _, composed⟩ := composed
    exact composed.cast
  have apart : ∀ old ∈ lastThree returned, IsCast old ∧
      (∀ name ∈ variedFields, character.get? (.text name) ≠ old.get? (.text name)) ∧
      likeness character (.record old) ≤ 5 := by
    intro old among
    obtain ⟨_, _, _, old_composed⟩ := remembers.composed old (mem_of_mem_drop among)
    exact ⟨old_composed.cast, differ old among, likeness_le_five cast old_composed.cast (differ old among)⟩
  have unlike : s.history.isSimilar (.record character) History.standardThreshold = .ok false := by
    rw [isSimilar_eq remembers.recalls cast, Except.ok.injEq, any_eq_false, remembers.history]
    intro old member
    obtain ⟨fields, among, rfl⟩ := mem_map.1 member
    have few := (apart fields among).2.2
    simp only [decide_eq_true_eq]
    omega
  have stays : (recast (Casting.cast visitor 979) maxAttempts character).runFrom { s with chance } =
      (.ok character, { s with chance }) := recast_unlike unlike
  have runs : (generate visitor).runFrom s =
      (.ok character, { s with chance, history := s.history.add (.record character) }) := by
    rw [generate, maxDepth, Casting.cast]
    simp [drafts, stays]
  exact ⟨character, _, runs, .cast drafts (.stays unlike), remembers.add composed, cast, apart⟩

end
/-! ### Runs of calls without a service -/

/-- The outcomes of the castings among some calls, in order. -/
def outcomes : List Call → Casting → List (Except Fault Fields)
  | [], _ => []
  | .generate visitor :: calls, s =>
    ((generate visitor).runFrom s).1 :: outcomes calls ((Call.generate visitor).after s)
  | call :: calls, s => outcomes calls (call.after s)

/-- A call that is no casting leaves the history as it is, and the services unused. -/
theorem Remembers.other (remembers : Remembers returned s) {call : Call} (other : ∀ visitor, call ≠ .generate visitor) :
    Remembers returned (call.after s) := by
  have blind : ∀ (s : Casting) (chance : Chance), Remembers returned s → Remembers returned { s with chance } :=
    fun _ _ remembers => ⟨remembers.silent, remembers.limit, remembers.history, remembers.composed⟩
  cases call with
  | generate visitor => exact absurd rfl (other visitor)
  | eyeColor => exact keeps_eyeColor blind s remembers
  | fromTemplate visitor template =>
    have asks (fields : Fields) : Keeps Muses.Silent (enhance visitor fields) := by
      refine keeps_enhance (fun muses _ _ silent => ?_) fun muses _ _ silent => ?_
      · simpa [Muses.askChat, silent.1] using silent
      · simpa [Muses.askAuthor, silent.2] using silent
    obtain ⟨same, silent⟩ := keeps_fromTemplate asks s.history template s ⟨rfl, remembers.silent⟩
    exact ⟨silent, same.symm ▸ remembers.limit, same.symm ▸ remembers.history, remembers.composed⟩
  | scenario => exact blind s _ remembers

theorem Remembers.along (remembers : Remembers returned s) (calls : List Call) :
    ∃ more, outcomes calls s = more.map .ok ∧ Remembers (returned ++ more) (after calls s) := by
  induction calls generalizing returned s with
  | nil => exact ⟨[], rfl, (append_nil returned).symm ▸ remembers⟩
  | cons call calls ih =>
    by_cases casts : ∃ visitor, call = .generate visitor
    · obtain ⟨visitor, rfl⟩ := casts
      obtain ⟨character, left, runs, -, remembers_left, -⟩ := generate_silent remembers visitor
      have goes : (Call.generate visitor).after s = left := congrArg snd runs
      obtain ⟨more, given, remembers_after⟩ := ih remembers_left
      refine ⟨character :: more, ?_, ?_⟩
      · rw [outcomes, goes, runs, given, map_cons]
      · rw [append_assoc] at remembers_after
        rwa [after, foldl_cons, goes]
    · obtain ⟨more, given, remembers_after⟩ := ih (remembers.other (not_exists.1 casts))
      refine ⟨more, ?_, remembers_after⟩
      cases call with
      | generate visitor => exact absurd ⟨visitor, rfl⟩ casts
      | eyeColor | fromTemplate visitor template | scenario => exact given

/-- **Without a service, castings never repeat themselves.** After any calls, and whatever chance brings, the history
holds the last three characters that were given, in order; the next casting gives its first candidate and remembers it;
and that character differs from each of the three before it in every varied trait and every text, so that at most five
of its nineteen fields are the same. -/
theorem silent_castings_never_repeat (chance : Chance) (muses : Muses) (silent : muses.Silent) (calls : List Call)
    (visitor : Visitor) :
    ∃ returned character left,
      outcomes calls ⟨chance, muses, {}⟩ = returned.map .ok ∧
      (after calls ⟨chance, muses, {}⟩).history.characters = (lastThree returned).map .record ∧
      (generate visitor).runFrom (after calls ⟨chance, muses, {}⟩) = (.ok character, left) ∧
      Casts visitor (.whole maxDepth) (after calls ⟨chance, muses, {}⟩)
        [.drafted character false, .remembered character] (.ok character) left ∧
      left.history.characters = (lastThree (returned ++ [character])).map .record ∧
      IsCast character ∧
      ∀ old ∈ lastThree returned, IsCast old ∧
        (∀ name ∈ variedFields, character.get? (.text name) ≠ old.get? (.text name)) ∧
        likeness character (.record old) ≤ 5 := by
  have first : Remembers [] ⟨chance, muses, {}⟩ := ⟨silent, rfl, rfl, fun _ none_ => absurd none_ List.not_mem_nil⟩
  obtain ⟨returned, given, remembers⟩ := first.along calls
  rw [List.nil_append] at remembers
  obtain ⟨character, left, runs, casts, remembers_left, cast, apart⟩ := generate_silent remembers visitor
  exact ⟨returned, character, left, given, remembers.history, runs, casts, remembers_left.history, cast, apart⟩

/-- Two castings and an eye colour in between: nothing of the first is found in the second. -/
theorem silent_second_differs :
    ({} : Muses).Silent ∧
      ∃ first second left, outcomes [.generate .anonymous, .eyeColor] ⟨{}, {}, {}⟩ = [.ok first] ∧
        (generate .anonymous).runFrom (after [.generate .anonymous, .eyeColor] ⟨{}, {}, {}⟩) = (.ok second, left) ∧
        left.history.characters = [.record first, .record second] ∧
        ∀ name ∈ variedFields, second.get? (.text name) ≠ first.get? (.text name) := by
  have silent : ({} : Muses).Silent := ⟨rfl, rfl⟩
  obtain ⟨returned, second, left, given, -, runs, -, after_history, -, apart⟩ :=
    silent_castings_never_repeat {} {} silent [.generate .anonymous, .eyeColor] .anonymous
  have one : returned.length = 1 := by simpa [outcomes] using (congrArg List.length given).symm
  obtain ⟨first, rfl⟩ := List.length_eq_one_iff.1 one
  exact ⟨silent, first, second, left, given, runs, after_history, (apart first List.mem_cons_self).2.1⟩

end Playhouse.Casting
