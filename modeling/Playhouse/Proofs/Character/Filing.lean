import Playhouse.Proofs.Character.Narration
import Playhouse.Proofs.Text.Split

/-!
How the sections of an answer are filed. A section goes under the first topic that it mentions anywhere, in its heading
or in its body. So an answer with one section under each heading is read as it was written exactly if no body mentions
a topic that is looked for before its own; otherwise a topic is left without a text, and the answer does not count as
complete.
-/
namespace Playhouse.Narrative
open Text List

variable {bodies : Topic → String}

/-! ### Sections by topic -/

/-- The words by which a section is known to be on a topic. -/
def Topic.words : Topic → List String
  | childhood => ["childhood"]
  | family => ["family"]
  | goals => ["life goals", "aspiration"]
  | achievements => ["achievement"]

variable (topic : Topic) (text : String)

theorem words_keywords : ∀ word ∈ topic.words, IsKeyword word.toList := by
  cases topic <;> decide

theorem topic?_eq_find (section_ : List Char) :
    topic? section_ = Topic.all.find? fun topic => decide (Mentions topic.words section_) := by
  have mentioned (topic : Topic) : decide (Mentions topic.words section_) =
      topic.words.any fun word => occurs word.toList (lower section_) := by
    rw [Bool.eq_iff_iff, decide_eq_true_iff, any_occurs_iff]
  rw [funext mentioned]
  simp only [topic?, Topic.all, find?_cons, Topic.words, any_cons, any_nil, Bool.or_false]
  cases occurs "childhood".toList (lower section_) with
  | true => rfl
  | false =>
    cases occurs "family".toList (lower section_) with
    | true => rfl
    | false =>
      cases occurs "life goals".toList (lower section_) || occurs "aspiration".toList (lower section_) with
      | true => rfl
      | false => cases occurs "achievement".toList (lower section_) <;> rfl

section
variable {sections : List (List Char)} {section_ : List Char} {topic : Topic}

theorem ofSections_concat (found : topic? section_ = some topic) :
    ofSections (sections ++ [section_]) = (ofSections sections).put topic (String.ofList (body section_)) := by
  rw [ofSections, foldl_concat, found]
  rfl

theorem ofSections_concat_of_none (none_ : topic? section_ = none) :
    ofSections (sections ++ [section_]) = ofSections sections := by
  rw [ofSections, foldl_concat, none_]
  rfl

theorem mem_topics_ofSections (sections : List (List Char)) (topic : Topic) :
    topic ∈ (ofSections sections).map Prod.fst ↔ ∃ section_ ∈ sections, topic? section_ = some topic := by
  induction sections using reverseRecOn with
  | nil => simp [ofSections]
  | append_singleton sections section_ ih =>
    cases found : topic? section_ with
    | none => simp [ofSections_concat_of_none found, ih, found, or_and_right, exists_or]
    | some other =>
      rw [ofSections_concat found, Texts.put, Entries.mem_keys_put (Entries.tests_beq _), ih]
      simp [or_and_right, exists_or, found, or_comm, eq_comm]

/-- Sections that are on the topics they are meant for give their texts in order. -/
theorem ofSections_map {topics : List Topic} (once : topics.Nodup) {written : Topic → List Char}
    (meant : ∀ topic ∈ topics, topic? (written topic) = some topic) :
    ofSections (topics.map written) = topics.map fun topic => (topic, String.ofList (body (written topic))) := by
  induction topics using reverseRecOn with
  | nil => rfl
  | append_singleton topics last ih =>
    obtain ⟨once_before, -, apart⟩ := nodup_append.1 once
    have absent : last ∉ topics := fun among => apart last among last (mem_singleton_self last) rfl
    have before := ih once_before (forall_mem_append.1 meant).1
    have new : last ∉ (ofSections (topics.map written)).map Prod.fst := by
      rw [before, map_map]
      simpa [Function.comp_def] using absent
    rw [map_append, map_singleton, ofSections_concat (meant last (by simp)), Texts.put,
      Entries.put_of_absent ((Entries.tests_beq last).absent_iff.2 new), before, map_append, map_singleton]

end

/-! ### Written answers -/

def Topic.heading : Topic → String
  | childhood => "Childhood Story"
  | family => "Family Relationships"
  | goals => "Life Goals"
  | achievements => "Achievements"

/-- A text under the heading of its topic. -/
def sectionOn (topic : Topic) (text : String) : String := topic.heading ++ ": " ++ text

/-- An answer with a section under each heading. -/
def answer (bodies : Topic → String) : String :=
  joinTexts "\n\n" (Topic.all.map fun topic => sectionOn topic (bodies topic))

theorem sectionOn_toList : (sectionOn topic text).toList = topic.heading.toList ++ ':' :: ' ' :: text.toList := by
  rw [sectionOn, String.toList_append, String.toList_append, append_assoc]
  rfl

/-- An answer of paragraphs falls into its sections. -/
theorem ofAnswer_answer (paragraphs : ∀ topic, IsParagraph (bodies topic).toList) :
    ofAnswer (answer bodies) = ofSections (Topic.all.map fun topic => (sectionOn topic (bodies topic)).toList) := by
  have labelled : ∀ piece ∈ Topic.all.map fun topic => (sectionOn topic (bodies topic)).toList, IsParagraph piece := by
    intro piece member
    obtain ⟨topic, -, rfl⟩ := mem_map.1 member
    rw [sectionOn, String.toList_append]
    refine (paragraphs topic).append ?_ ?_ <;> cases topic <;> decide
  have joined : (answer bodies).toList =
      join ['\n', '\n'] (Topic.all.map fun topic => (sectionOn topic (bodies topic)).toList) := by
    rw [answer, joinTexts, String.toList_ofList, map_map]
    rfl
  have some_ : Topic.all.map (fun topic => (sectionOn topic (bodies topic)).toList) ≠ [] := cons_ne_nil _ _
  rw [ofAnswer, joined, split_paragraphs some_ labelled]

/-- The text of a section is what stands behind the heading. -/
theorem body_sectionOn {text : String} (bare : IsBare text.toList) :
    body (sectionOn topic text).toList = tidy text.toList := by
  have first : ':' ∉ topic.heading.toList := by cases topic <;> decide
  rw [body, sectionOn_toList, cut?_of_append first]
  change tidy (trim (' ' :: text.toList)) = _
  rw [trim_cons_blank (by decide), trim_of_isBare bare]

/-! ### Where a section goes -/

/-- The topics that are looked for before a topic. -/
def Topic.earlier (topic : Topic) : List Topic := Topic.all.takeWhile (· ≠ topic)

theorem all_eq_earlier_append : ∃ later, Topic.all = topic.earlier ++ topic :: later := by
  cases topic <;> exact ⟨_, rfl⟩

theorem notMem_earlier : topic ∉ topic.earlier := by cases topic <;> decide

/-- No body mentions a topic that is looked for before its own. -/
def Undisputed (bodies : Topic → String) : Prop :=
  ∀ topic : Topic, ∀ other ∈ topic.earlier, ¬ Mentions other.words (bodies topic).toList

theorem undisputed_heading : Undisputed Topic.heading := fun topic => by cases topic <;> decide +kernel

/-- The topic under which a section of a topic is filed: the first earlier one that its body mentions, else its own. -/
def Topic.filed (topic : Topic) (text : String) : Topic :=
  (topic.earlier.find? fun other => decide (Mentions other.words text.toList)).getD topic

theorem topic?_sectionOn : topic? (sectionOn topic text).toList = some (topic.filed text) := by
  have mentions (other : Topic) : Mentions other.words (sectionOn topic text).toList ↔
      Mentions other.words topic.heading.toList ∨ Mentions other.words text.toList := by
    rw [sectionOn_toList, mentions_labelled (words_keywords other)]
  have own : Mentions topic.words topic.heading.toList := by cases topic <;> decide +kernel
  have as_body : topic.earlier.find? (fun other => decide (Mentions other.words (sectionOn topic text).toList)) =
      topic.earlier.find? fun other => decide (Mentions other.words text.toList) := by
    rw [← head?_filter, ← head?_filter]
    refine congrArg _ (filter_congr fun other among => ?_)
    rw [decide_eq_decide, mentions, or_iff_right (undisputed_heading topic other among)]
  obtain ⟨later, parted⟩ := all_eq_earlier_append topic
  rw [topic?_eq_find, parted, find?_append, as_body, find?_cons_of_pos (by simp [mentions, own]), Topic.filed]
  cases topic.earlier.find? _ <;> rfl

theorem filed_eq_self_iff : topic.filed text = topic ↔ ∀ other ∈ topic.earlier, ¬ Mentions other.words text.toList := by
  rw [Topic.filed]
  cases found : topic.earlier.find? fun other => decide (Mentions other.words text.toList) with
  | none => simpa using found
  | some other =>
    have among := mem_of_find?_eq_some found
    have mentioned := find?_some found
    refine ⟨fun same => absurd (same ▸ among) (notMem_earlier topic), fun free => ?_⟩
    exact absurd (of_decide_eq_true mentioned) (free other among)

theorem filed_eq_self_or_mem : topic.filed text = topic ∨ topic.filed text ∈ topic.earlier := by
  rw [Topic.filed]
  cases found : topic.earlier.find? fun other => decide (Mentions other.words text.toList) with
  | none => exact .inl rfl
  | some other => exact .inr (mem_of_find?_eq_some found)

/-- If sections only move to earlier topics and no topic is left empty, none has moved. -/
theorem fixed_of_onto {filed : Topic → Topic} (down : ∀ topic, filed topic = topic ∨ filed topic ∈ topic.earlier)
    (onto : ∀ topic, ∃ origin, filed origin = topic) (topic : Topic) : filed topic = topic := by
  have reached : Topic.all ⊆ Topic.all.map filed := by
    intro topic _
    obtain ⟨origin, rfl⟩ := onto topic
    exact mem_map_of_mem (mem_topics origin)
  have perm := (subperm_of_subset nodup_topics reached).perm_of_length_le (length_map filed).le
  have apart {a b : Topic} (same : filed a = filed b) : a = b :=
    inj_on_of_nodup_map (perm.nodup_iff.1 nodup_topics) (mem_topics a) (mem_topics b) same
  -- an earlier topic that keeps its own section has no room for another
  have step (topic : Topic) (below : ∀ other ∈ topic.earlier, filed other = other) : filed topic = topic :=
    (down topic).elim id fun lower => apart (below _ lower)
  have childhood := step .childhood (forall_mem_nil _)
  have family := step .family (forall_mem_singleton.2 childhood)
  have goals := step .goals (forall_mem_cons.2 ⟨childhood, forall_mem_singleton.2 family⟩)
  cases topic with
  | childhood => exact childhood
  | family => exact family
  | goals => exact goals
  | achievements =>
    exact step _ (forall_mem_cons.2 ⟨childhood, forall_mem_cons.2 ⟨family, forall_mem_singleton.2 goals⟩⟩)

theorem whole_answer_iff (paragraphs : ∀ topic, IsParagraph (bodies topic).toList) :
    (ofAnswer (answer bodies)).Whole ↔ Undisputed bodies := by
  have filled (topic : Topic) : topic ∈ (ofAnswer (answer bodies)).map Prod.fst ↔
      ∃ origin : Topic, origin.filed (bodies origin) = topic := by
    rw [ofAnswer_answer paragraphs, mem_topics_ofSections]
    simp [topic?_sectionOn, mem_topics]
  constructor
  · intro whole topic
    rw [← filed_eq_self_iff]
    exact fixed_of_onto (fun topic => filed_eq_self_or_mem topic (bodies topic))
      (fun topic => (filled topic).1 (whole topic (mem_topics topic))) topic
  · intro undisputed topic _
    exact (filled topic).2 ⟨topic, (filed_eq_self_iff topic _).2 (undisputed topic)⟩

/-- An answer of four paragraphs, each under the heading of its topic, is read as it was written exactly if no body
mentions a topic that is looked for before its own, and only then does it count as complete. -/
theorem filed_by_heading_iff {bodies : Topic → String}
    (paragraphs : ∀ topic, Text.IsParagraph (bodies topic).toList) :
    (ofAnswer (answer bodies) = Topic.all.map (fun topic => (topic, tidied (bodies topic))) ↔ Undisputed bodies) ∧
      ((ofAnswer (answer bodies)).complete = true ↔ Undisputed bodies) := by
  have complete := (complete_iff_whole (answer bodies)).trans (whole_answer_iff paragraphs)
  refine ⟨⟨fun read => ?_, fun undisputed => ?_⟩, complete⟩
  · rw [read] at complete
    exact complete.1 rfl
  · have meant : ∀ topic ∈ Topic.all, topic? (sectionOn topic (bodies topic)).toList = some topic := by
      intro topic _
      rw [topic?_sectionOn, (filed_eq_self_iff topic _).2 (undisputed topic)]
    rw [ofAnswer_answer paragraphs, ofSections_map nodup_topics meant]
    refine List.map_congr_left fun topic _ => ?_
    rw [body_sectionOn topic (paragraphs topic).bare, tidied]

/-- An answer whose bodies repeat their headings is read back; of one that praises the family under every heading, the
goals and the achievements pass for the family. -/
theorem family_praised_everywhere :
    ofAnswer (answer Topic.heading) = Topic.all.map (fun topic => (topic, tidied topic.heading)) ∧
      (ofAnswer (answer fun _ => "All for my family")).complete = false := by
  have headings (topic : Topic) : Text.IsParagraph topic.heading.toList := by cases topic <;> decide +kernel
  have praise : Text.IsParagraph "All for my family".toList := by decide +kernel
  have mentioned : Text.Mentions Topic.family.words "All for my family".toList := by decide +kernel
  refine ⟨(filed_by_heading_iff headings).1.2 undisputed_heading, Bool.eq_false_iff.2 fun complete => ?_⟩
  exact (filed_by_heading_iff fun _ => praise).2.1 complete .goals .family (by decide) mentioned

end Playhouse.Narrative
