import Playhouse.Proofs.Character.Sketch
import Playhouse.Proofs.Data.Entries

/-!
The narrative of a character. Whatever the services answer, one text on each topic is added, all of them from one
source; to a sketch they are put behind the traits, and without a service they are the composed ones. Enhancing a
character that can be described always succeeds and leaves everything else.
-/
namespace Playhouse
open Prod Value Act Option Casting Muses

variable {service : Service}

/-- A reply is a text, nothing or a failure. -/
def Reply.IsWorded : Reply → Prop
  | .content (.text _) | .content .null | .failure | .nothing => True
  | .content _ => False

/-- The services reply in texts, if at all. -/
structure Muses.Worded (muses : Muses) : Prop where
  chat : ∀ reply ∈ muses.chat.replies, reply.IsWorded
  author : ∀ reply ∈ muses.author.replies, reply.IsWorded

/-- No service can be used. -/
def Muses.Silent (muses : Muses) : Prop := muses.chat.available = false ∧ muses.author.available = false

/-- The text that a service replies with next, if it can be used and replies with one. -/
def Service.says? (service : Service) : Option String :=
  if service.available then
    match service.replies.head? with
    | some (.content (.text content)) => some content
    | _ => none
  else none

namespace Fields

theorem set_of_absent {fields : Fields} {name : String} (absent : .text name ∉ fields.map fst) (value : Value) :
    fields.set (.text name) value = fields ++ [(.text name, value)] := by
  induction fields with
  | nil => rfl
  | cons field rest ih =>
    obtain ⟨key, old⟩ := field
    rw [List.map_cons, List.mem_cons, not_or] at absent
    have other : ¬ (key == .text name) = true := by
      rw [Key.beq_text]
      exact Ne.symm absent.1
    rw [set, if_neg other, ih absent.2]
    rfl

/-- Fields that a record does not have are put behind those it has. -/
theorem update_of_absent {fields : Fields} {more : List (String × Value)} (once : (more.map fst).Nodup)
    (absent : ∀ pair ∈ more, .text pair.1 ∉ fields.map fst) :
    fields.update (more.map fun pair => (.text pair.1, pair.2)) =
      fields ++ more.map fun pair => (.text pair.1, pair.2) := by
  induction more generalizing fields with
  | nil => exact (List.append_nil fields).symm
  | cons pair rest ih =>
    obtain ⟨name, value⟩ := pair
    obtain ⟨other, once_rest⟩ := List.nodup_cons.1 once
    have sets := set_of_absent (absent (name, value) List.mem_cons_self) value
    have later : ∀ pair ∈ rest, .text pair.1 ∉ (fields ++ [(.text name, value)] : Fields).map fst := by
      intro pair member found
      rw [List.map_append, List.mem_append] at found
      rcases found with before | last
      · exact absent pair (List.mem_cons_of_mem _ member) before
      · have same : pair.1 = name := Key.text.inj (List.mem_singleton.1 last)
        exact other (List.mem_map.2 ⟨pair, member, same⟩)
    calc fields.update ((.text name, value) :: rest.map fun pair => (.text pair.1, pair.2))
        = (fields.set (.text name) value).update (rest.map fun pair => (.text pair.1, pair.2)) := rfl
      _ = (fields ++ [(.text name, value)]) ++ rest.map fun pair => (.text pair.1, pair.2) := by
        rw [sets]
        exact ih once_rest later
      _ = fields ++ (.text name, value) :: rest.map fun pair => (.text pair.1, pair.2) := List.append_assoc ..

end Fields

namespace Narrative

/-! ### Texts by topic -/

theorem nodup_ofAnswer (content : String) : ((ofAnswer content).map fst).Nodup := by
  refine List.foldlRecOn (motive := fun texts : Texts => (texts.map fst).Nodup) _ _ List.nodup_nil
    fun texts once section_ _ => ?_
  split
  · exact Entries.nodup_put (Entries.tests_beq _) once _
  · exact once

theorem nodup_topics : Topic.all.Nodup := by decide

theorem mem_topics (topic : Topic) : topic ∈ Topic.all := by cases topic <;> decide

theorem perm_of_complete {content : String} (complete : (ofAnswer content).complete = true) :
    ((ofAnswer content).map fst).Perm Topic.all := by
  have four : Topic.all.length ≤ ((ofAnswer content).map fst).length := by
    simpa [Texts.complete, Topic.all] using complete
  have within := List.subperm_of_subset (nodup_ofAnswer content) fun topic _ => mem_topics topic
  exact within.perm_of_length_le four

/-- There is a text on every topic. -/
def Texts.Whole (texts : Texts) : Prop := ∀ topic ∈ Topic.all, topic ∈ texts.map fst

instance (texts : Texts) : Decidable texts.Whole :=
  inferInstanceAs (Decidable (∀ topic ∈ Topic.all, topic ∈ texts.map fst))

/-- Counting the texts of an answer is enough to see that no topic is left out. -/
theorem complete_iff_whole (content : String) : (ofAnswer content).complete = true ↔ (ofAnswer content).Whole := by
  constructor
  · intro complete topic known
    exact (perm_of_complete complete).mem_iff.2 known
  · intro whole
    have four := (List.subperm_of_subset nodup_topics whole).length_le
    simpa [Texts.complete, Topic.all] using four

/-! ### Whose texts -/

/-- The texts of an answer that has one on every topic. -/
def whole? (answer : Option String) : Option Texts := (answer.map ofAnswer).filter fun texts => decide texts.Whole

/-- The texts that a character gets: those of the chat service if it tells all, else for family-friendly content those
of the author service if it does, else others. -/
def narrated (visitor : Visitor) (muses : Muses) (others : Texts) : Texts :=
  ((whole? muses.chat.says?).or (if visitor.level.equal (.int 1) then whole? muses.author.says? else none)).getD others

variable {texts others : Texts}

theorem perm_of_whole? {answer : Option String} (found : whole? answer = some texts) :
    (texts.map fst).Perm Topic.all := by
  obtain ⟨read, whole⟩ := filter_eq_some_iff.1 found
  obtain ⟨content, -, rfl⟩ := map_eq_some_iff.1 read
  exact perm_of_complete ((complete_iff_whole content).2 (of_decide_eq_true whole))

theorem narrated_perm (visitor : Visitor) (muses : Muses)
    (all : (others.map fst).Perm Topic.all) : ((narrated visitor muses others).map fst).Perm Topic.all := by
  unfold narrated
  cases chat : whole? muses.chat.says? with
  | some texts => exact perm_of_whole? chat
  | none =>
    rw [none_or]
    split
    · cases author : whole? muses.author.says? with
      | some texts => exact perm_of_whole? author
      | none => exact all
    · exact all

theorem complete?_text (content : String) : complete? (some (.text content)) = .ok (whole? (some content)) := by
  by_cases empty : content = ""
  · subst empty
    have unsaid : whole? (some "") = none := by decide
    rw [unsaid]
    rfl
  · have counted := complete_iff_whole content
    by_cases whole : (ofAnswer content).Whole
    · simp [complete?, truthy, empty, ofContent, needText, whole?, counted.2 whole, Option.filter, whole]
    · simp [complete?, truthy, empty, ofContent, needText, whole?, mt counted.1 whole, Option.filter, whole]

theorem complete?_answer (usable : service.available = true) (worded : ∀ reply ∈ service.replies, reply.IsWorded) :
    complete? service.answer.1 = .ok (whole? service.says?) := by
  unfold Service.answer Service.says?
  rw [if_pos usable]
  cases replies : service.replies with
  | nil => rfl
  | cons reply rest =>
    have first := worded reply (replies ▸ List.mem_cons_self)
    cases reply with
    | content value =>
      cases value with
      | null => rfl
      | text content => exact complete?_text content
      | _ => cases first
    | failure | nothing => rfl

variable {muses : Muses}

theorem complete?_askChat (worded : muses.Worded) (system user : String) (temperature : Float) :
    complete? (muses.askChat system user temperature).1 = .ok (whole? muses.chat.says?) := by
  unfold askChat
  by_cases usable : muses.chat.available = true
  · rw [if_pos usable]
    exact complete?_answer usable worded.chat
  · simp [usable, Service.says?, complete?, whole?]

theorem askChat_author (muses : Muses) (system user : String) (temperature : Float) :
    (muses.askChat system user temperature).2.author = muses.author := by
  unfold askChat
  split <;> rfl

theorem complete?_askAuthor (worded : muses.Worded) (prompt : String) :
    complete? (muses.askAuthor prompt).1 = .ok (whole? muses.author.says?) := by
  unfold askAuthor
  by_cases usable : muses.author.available = true
  · rw [if_pos usable]
    exact complete?_answer usable worded.author
  · simp [usable, Service.says?, complete?, whole?]

/-! ### Adding the texts -/

theorem topicField_inj {topic other : Topic} (same : topic.field = other.field) : topic = other := by
  have apart : ∀ topic ∈ Topic.all, ∀ other ∈ Topic.all, topic.field = other.field → topic = other := by decide
  exact apart topic (mem_topics topic) other (mem_topics other) same

/-- Texts are put behind the traits of a sketch. -/
theorem update_texts {fields : Fields} (names : fields.map fst = traitNames.map Key.text)
    (once : (texts.map fst).Nodup) : fields.update texts.fields = fields ++ texts.fields := by
  have pairs : texts.fields = (texts.map fun entry => (entry.1.field, Value.text entry.2)).map fun pair =>
      (Key.text pair.1, pair.2) := by
    rw [Texts.fields, List.map_map]
    rfl
  rw [pairs]
  refine Fields.update_of_absent ?_ fun pair member => ?_
  · have fields_once := List.Nodup.map (fun _ _ => topicField_inj) once
    rw [List.map_map] at fields_once ⊢
    exact fields_once
  · obtain ⟨⟨topic, text⟩, -, rfl⟩ := List.mem_map.1 member
    have apart : ∀ topic ∈ Topic.all, topic.field ∉ traitNames := by decide
    rw [names]
    intro found
    obtain ⟨name, known, same⟩ := List.mem_map.1 found
    cases same
    exact apart topic (mem_topics topic) known

/-- A sketch with one text on each topic has all fields of a character. -/
theorem isCast_append {fields : Fields} (names : fields.map fst = traitNames.map Key.text)
    (plain : ∀ field ∈ fields, field.2.IsPlain) (all : (texts.map fst).Perm Topic.all) :
    IsCast (fields ++ texts.fields) := by
  refine ⟨?_, fun field member => ?_⟩
  · have texts_named : texts.fields.map fst = (texts.map fst).map fun topic => Key.text topic.field := by
      rw [Texts.fields, List.map_map, List.map_map]
      rfl
    rw [List.map_append, names, fieldNames, List.map_append, texts_named]
    refine List.Perm.append_left _ ?_
    rw [@List.map_map _ _ _ Key.text Topic.field Topic.all]
    exact all.map _
  · rcases List.mem_append.1 member with trait | text
    · exact plain field trait
    · obtain ⟨pair, -, rfl⟩ := List.mem_map.1 text
      trivial

theorem answer_worded (worded : ∀ reply ∈ service.replies, reply.IsWorded) :
    ∀ reply ∈ service.answer.2.replies, reply.IsWorded := by
  have rest : service.answer.2.replies = service.replies.tail := by
    unfold Service.answer
    rcases service.replies with _ | ⟨_ | _ | _, _⟩ <;> rfl
  rw [rest]
  exact fun reply member => worded reply (List.mem_of_mem_tail member)

theorem askChat_worded (worded : muses.Worded) (system user : String) (temperature : Float) :
    (muses.askChat system user temperature).2.Worded := by
  unfold askChat
  split
  · exact ⟨answer_worded worded.chat, worded.author⟩
  · exact worded

theorem askAuthor_worded (worded : muses.Worded) (prompt : String) : (muses.askAuthor prompt).2.Worded := by
  unfold askAuthor
  split
  · exact ⟨worded.chat, answer_worded worded.author⟩
  · exact worded

section
variable {history : History} {fields : Fields} {muses : Muses} {name hobbies occupation : String}

theorem need_trait (names : fields.map fst = traitNames.map Key.text) (known : name ∈ traitNames) :
    ∃ value, need fields (.text name) = .ok value := by
  have there : (fields.get? (.text name)).isSome = true := by
    rw [Fields.get?, isSome_map, List.find?_isSome]
    have member : Key.text name ∈ fields.map fst := names ▸ List.mem_map_of_mem known
    obtain ⟨field, among, key⟩ := List.mem_map.1 member
    exact ⟨field, among, by rw [Key.beq_text, key]⟩
  obtain ⟨value, found⟩ := isSome_iff_exists.1 there
  exact ⟨value, by rw [need, found]⟩

/-- The fields that a request quotes. -/
def quoted : List String :=
  ["name", "age", "occupation", "height", "hair_color", "eye_color", "style_preference", "communication_style",
    "hobbies", "quirks"]

theorem request_ok (need : ∀ name ∈ quoted, ∃ value, Value.need fields (.text name) = .ok value) :
    ∃ prompt, request fields = .ok prompt := by
  obtain ⟨_, name⟩ := need "name" (by decide)
  obtain ⟨_, age⟩ := need "age" (by decide)
  obtain ⟨_, occupation⟩ := need "occupation" (by decide)
  obtain ⟨_, height⟩ := need "height" (by decide)
  obtain ⟨_, hair⟩ := need "hair_color" (by decide)
  obtain ⟨_, eyes⟩ := need "eye_color" (by decide)
  obtain ⟨_, style⟩ := need "style_preference" (by decide)
  obtain ⟨_, communication⟩ := need "communication_style" (by decide)
  obtain ⟨_, hobbies⟩ := need "hobbies" (by decide)
  obtain ⟨_, habits⟩ := need "quirks" (by decide)
  simp only [request, name, age, occupation, height, hair, eyes, style, communication, hobbies, habits, bind, Except.bind]
  exact ⟨_, rfl⟩

theorem request_sketch (names : fields.map fst = traitNames.map Key.text) : ∃ prompt, request fields = .ok prompt := by
  have traits : ∀ name ∈ quoted, name ∈ traitNames := by decide
  exact request_ok fun name among => need_trait names (traits name among)

/-- The texts that are composed are added to a character whose name, occupation and hobbies are texts. -/
theorem compose_eq (has_name : fields.get? (.text "name") = some (.text name))
    (has_occupation : fields.get? (.text "occupation") = some (.text occupation))
    (has_hobbies : fields.get? (.text "hobbies") = some (.text hobbies)) :
    compose fields = .ok (fields.update (composed name (lowered occupation) hobbies).fields) := by
  simp only [compose, need, has_name, has_occupation, has_hobbies, needText, asText, bind, Except.bind]
  rfl

/-- Whatever the services reply, the texts of one source are added. -/
theorem enhance_eq {prompt : String} (requested : request fields = .ok prompt)
    (composes : compose fields = .ok (fields.update others.fields)) (visitor : Visitor) (worded : muses.Worded) :
    ∃ left : Muses, left.Worded ∧
      (enhance visitor fields).runFrom muses = (.ok (fields.update (narrated visitor muses others).fields), left) := by
  have chat_left := askChat_worded worded (instruction visitor.level) prompt 0.7
  have chat_said := complete?_askChat worded (instruction visitor.level) prompt 0.7
  have author := askChat_author muses (instruction visitor.level) prompt 0.7
  generalize asked : muses.askChat (instruction visitor.level) prompt 0.7 = chat at chat_left chat_said author
  obtain ⟨answer, left⟩ := chat
  cases chat_texts : whole? muses.chat.says? with
  | some texts =>
    refine ⟨left, chat_left, ?_⟩
    simp [enhance, requested, asked, chat_said, chat_texts, narrated]
  | none =>
    by_cases friendly : visitor.level.equal (.int 1) = true
    · have author_left := askAuthor_worded chat_left prompt
      have author_said := complete?_askAuthor chat_left prompt
      rw [author] at author_said
      generalize asked_author : left.askAuthor prompt = author at author_left author_said
      obtain ⟨written, left_author⟩ := author
      refine ⟨left_author, author_left, ?_⟩
      cases author_texts : whole? muses.author.says? <;>
        simp [enhance, requested, asked, chat_said, chat_texts, friendly, asked_author, author_said,
          author_texts, narrated, composes]
    · refine ⟨left, chat_left, ?_⟩
      simp [enhance, requested, asked, chat_said, chat_texts, friendly, narrated, composes]

/-- What a sketch has as name, occupation and hobbies. -/
structure Told (fields : Fields) (name occupation hobbies : String) : Prop where
  has_name : fields.get? (.text "name") = some (.text name)
  among_names : name ∈ Traits.names
  has_occupation : fields.get? (.text "occupation") = some (.text occupation)
  among_occupations : occupation ∈ Traits.occupations
  has_hobbies : fields.get? (.text "hobbies") = some (.text hobbies)
  among_hobbies : hobbies ∈ Traits.hobbies

theorem exists_told (sketched : Sketched history fields) :
    ∃ name occupation hobbies, Told fields name occupation hobbies := by
  obtain ⟨name, among_names, has_name, -⟩ := sketched.varied ("name", Traits.names) (by decide)
  obtain ⟨occupation, among_occupations, has_occupation, -⟩ :=
    sketched.varied ("occupation", Traits.occupations) (by decide)
  obtain ⟨hobbies, among_hobbies, has_hobbies, -⟩ := sketched.varied ("hobbies", Traits.hobbies) (by decide)
  exact ⟨name, occupation, hobbies, has_name, among_names, has_occupation, among_occupations, has_hobbies, among_hobbies⟩

theorem compose_told (told : Told fields name occupation hobbies) :
    compose fields = .ok (fields.update (composed name (lowered occupation) hobbies).fields) :=
  compose_eq told.has_name told.has_occupation told.has_hobbies

/-- Whatever the services reply, one text on each topic is put behind the traits. -/
theorem enhance_run (sketched : Sketched history fields) (visitor : Visitor) (worded : muses.Worded) :
    ∃ (texts : Texts) (left : Muses), (enhance visitor fields).runFrom muses = (.ok (fields ++ texts.fields), left) ∧
      (texts.map fst).Perm Topic.all ∧ left.Worded := by
  obtain ⟨prompt, requested⟩ := request_sketch sketched.names
  obtain ⟨name, occupation, hobbies, told⟩ := exists_told sketched
  obtain ⟨left, left_worded, run⟩ := enhance_eq requested (compose_told told) visitor worded
  have composed_all : ((composed name (lowered occupation) hobbies).map fst).Perm Topic.all := .refl _
  have all := narrated_perm visitor muses composed_all
  rw [update_texts sketched.names (all.nodup_iff.2 nodup_topics)] at run
  exact ⟨_, left, run, all, left_worded⟩

/-- Of the services, enhancing changes only what they were asked: the chat service with the instruction for the level of
the visitor, and for family-friendly content the author service. -/
theorem keeps_enhance {M : Muses → Prop} {visitor : Visitor}
    (chat : ∀ muses prompt, request fields = .ok prompt → M muses → M (muses.askChat (instruction visitor.level)
      prompt 0.7).2)
    (author : ∀ muses prompt, visitor.level.equal (.int 1) = true → M muses → M (muses.askAuthor prompt).2) :
    Keeps M (enhance visitor fields) := by
  intro muses holds
  cases requested : request fields with
  | error fault => simpa [enhance, requested] using holds
  | ok prompt =>
    have after_chat := chat muses prompt requested holds
    generalize asked : muses.askChat (instruction visitor.level) prompt 0.7 = chat at after_chat
    obtain ⟨answer, left⟩ := chat
    rcases first : complete? answer with fault | _ | texts
    · simpa [enhance, requested, asked, first] using after_chat
    · by_cases friendly : visitor.level.equal (.int 1) = true
      · have after_author := author left prompt friendly after_chat
        generalize asked_author : left.askAuthor prompt = author at after_author
        obtain ⟨written, left_author⟩ := author
        rcases second : complete? written with fault | _ | texts <;>
          simpa [enhance, requested, asked, first, friendly, asked_author, second] using after_author
      · simpa [enhance, requested, asked, first, friendly] using after_chat
    · simpa [enhance, requested, asked, first] using after_chat

/-- Without a service the texts are composed. -/
theorem enhance_silent (sketched : Sketched history fields) (visitor : Visitor) (silent : muses.Silent)
    (told : Told fields name occupation hobbies) :
    (enhance visitor fields).runFrom muses =
      (.ok (fields ++ (composed name (lowered occupation) hobbies).fields), muses) := by
  obtain ⟨prompt, requested⟩ := request_sketch sketched.names
  have once : ((composed name (lowered occupation) hobbies).map fst).Nodup := nodup_topics
  have composes := compose_told told
  rw [update_texts sketched.names once] at composes
  have none_ : complete? none = .ok none := rfl
  by_cases friendly : visitor.level.equal (.int 1) = true
  · simp [enhance, requested, askChat, askAuthor, silent.1, silent.2, none_, friendly, composes]
  · simp [enhance, requested, askChat, silent.1, none_, friendly, composes]

end

/-! ### Enhancing -/

section
variable {fields : Fields}

theorem update_cons (fields : Fields) (topic : Topic) (text : String) (texts : Texts) :
    fields.update (Texts.fields ((topic, text) :: texts)) =
      (fields.set (.text topic.field) (.text text)).update texts.fields := rfl

theorem get?_update_of_other {key : Key} (other : ∀ topic ∈ texts.map fst, key ≠ .text topic.field) :
    (fields.update texts.fields).get? key = fields.get? key := by
  induction texts generalizing fields with
  | nil => rfl
  | cons first rest ih =>
    obtain ⟨topic, text⟩ := first
    obtain ⟨other_first, other_rest⟩ := List.forall_mem_cons.1 other
    rw [update_cons, ih other_rest]
    exact Fields.get?_set_of_key_ne other_first _ _

theorem get?_update_text (once : (texts.map fst).Nodup) {topic : Topic} {text : String}
    (member : (topic, text) ∈ texts) : (fields.update texts.fields).get? (.text topic.field) = some (.text text) := by
  induction texts generalizing fields with
  | nil => cases member
  | cons first rest ih =>
    obtain ⟨held, old⟩ := first
    obtain ⟨absent, once_rest⟩ := List.nodup_cons.1 once
    rw [update_cons]
    rcases List.mem_cons.1 member with same | later
    · cases same
      -- no later text is on the topic, so that this one stays
      rw [get?_update_of_other, Fields.get?_set_self]
      intro other among same
      exact absent (topicField_inj (Key.text.inj same) ▸ among)
    · exact ih once_rest later

end

/-- A character with the fields that a request quotes gets one text on each topic, whatever the services do: those of
the chat service if it tells all, else for family-friendly content those of the author service if it does, else the
composed ones. Nothing else about the character changes. -/
theorem enhance_adds_one_narrative {character : Fields} {name occupation hobbies : String}
    (quotes : ∀ key ∈ quoted, (character.get? (.text key)).isSome = true)
    (has_name : character.get? (.text "name") = some (.text name))
    (has_occupation : character.get? (.text "occupation") = some (.text occupation))
    (has_hobbies : character.get? (.text "hobbies") = some (.text hobbies))
    (visitor : Visitor) {muses : Muses} (worded : muses.Worded) :
    ∃ enhanced, ((enhance visitor character).runFrom muses).1 = .ok enhanced ∧
      ((narrated visitor muses (composed name (lowered occupation) hobbies)).map fst).Perm Topic.all ∧
      (∀ entry ∈ narrated visitor muses (composed name (lowered occupation) hobbies),
        enhanced.get? (.text entry.1.field) = some (.text entry.2)) ∧
      ∀ key, (∀ topic : Topic, key ≠ .text topic.field) → enhanced.get? key = character.get? key := by
  obtain ⟨prompt, requested⟩ : ∃ prompt, request character = .ok prompt := by
    refine request_ok fun key among => ?_
    obtain ⟨value, found⟩ := Option.isSome_iff_exists.1 (quotes key among)
    exact ⟨value, by rw [Value.need, found]⟩
  have composes := compose_eq has_name has_occupation has_hobbies
  have composed_all : ((composed name (lowered occupation) hobbies).map fst).Perm Topic.all := .refl _
  have all := narrated_perm visitor muses composed_all
  obtain ⟨left, -, run⟩ := enhance_eq requested composes visitor worded
  refine ⟨_, congrArg fst run, all, fun entry member => ?_, fun key other => ?_⟩
  · exact get?_update_text (all.nodup_iff.2 nodup_topics) member
  · exact get?_update_of_other fun topic _ => other topic

/-- The chat service leaves a topic out and the author service tells all, for someone with an old text. -/
theorem author_tells_when_chat_is_short :
    let character : Fields := ("achievements", .text "none") :: quoted.map fun key => (.text key, .text key)
    let muses : Muses :=
      { chat := { key := some "k", replies := [.content (.text "Childhood: calm\n\nFamily: big\n\nLife goals: fame")] }
        author := { key := some "k", replies := [.content (.text
          "Childhood: wild\n\nFamily: small\n\nAchievements: many\n\nLife goals: peace")] } }
    narrated .anonymous muses (composed "name" (lowered "occupation") "hobbies") =
        [(.childhood, "wild"), (.family, "small"), (.achievements, "many"), (.goals, "peace")] ∧
      ∃ enhanced, ((enhance .anonymous character).runFrom muses).1 = .ok enhanced ∧
        enhanced.get? "achievements" = some (.text "many") ∧ enhanced.get? "quirks" = some (.text "quirks") := by
  intro character muses
  have told : narrated .anonymous muses (composed "name" (lowered "occupation") "hobbies") =
      [(.childhood, "wild"), (.family, "small"), (.achievements, "many"), (.goals, "peace")] := by decide +kernel
  have worded : muses.Worded :=
    ⟨List.forall_mem_singleton.2 trivial, List.forall_mem_singleton.2 trivial⟩
  obtain ⟨enhanced, run, -, texts, others⟩ :=
    @enhance_adds_one_narrative character _ _ _ (by decide +kernel) rfl rfl rfl .anonymous _ worded
  refine ⟨told, enhanced, run, texts (.achievements, "many") ?_, ?_⟩
  · rw [told]
    decide
  · have apart : ∀ topic ∈ Topic.all, "quirks" ≠ topic.field := by decide
    exact others "quirks" fun topic same => apart topic (mem_topics topic) (Key.text.inj same)

end Narrative
end Playhouse
