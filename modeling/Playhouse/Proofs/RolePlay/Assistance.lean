import Playhouse.Proofs.Session.Expiry
import Playhouse.Proofs.Tale.Telling
import Playhouse.RolePlay.Engine

/-!
Runs of the assistant. Every opening makes a session of its own, but all players share one tale, which is told
without a choice: only a tale that nobody has begun has something to tell then. Main statement: what an opening
gives as the session's id is the session itself, which the store takes for no id at all, while the id inside it
leads to a live session of the player; and there is a story with choices in the first opening and in no other.
-/
namespace Playhouse.Assistant
open Sessions Act
open Sessions (idOf opening)

/-- One call of the assistant, or the time that passes between two. -/
inductive Call where
  | open_ (user : Value)
  | wait (seconds : Number)

def Call.act : Call → Act Assistant Unit
  | open_ user => discard (Assistant.open_ user)
  | wait seconds => (Sessions.wait seconds).on (·.store) fun store a => { a with store }

/-- The assistant after some calls, whatever became of each. -/
def after (assistant : Assistant) (calls : List Call) : Assistant :=
  calls.foldl (fun assistant call => (call.act.runFrom assistant).2) assistant

theorem after_concat (assistant : Assistant) (calls : List Call) (call : Call) :
    assistant.after (calls ++ [call]) = (call.act.runFrom (assistant.after calls)).2 := by
  rw [after, List.foldl_append]
  rfl

/-! ### What an opening gives -/

/-- What an opening answers. -/
def replyOf (session story : Value) : Fields := [("session_id", session), ("story", story)]

/-- A value stands for a live session of a player. -/
def Resolves (store : Sessions) (id user : Value) : Prop :=
  ∃ session, ((get? id).runFrom store).1 = .ok (some session) ∧ session.get? "user_id" = some user

/-- A story has a text and choices. -/
def HasStory (story : Value) : Prop :=
  ∃ text choices, story.field? "story_text" = some (.text text) ∧ story.field? "choices" = some (.list choices) ∧
    choices ≠ []

theorem not_hasStory_note (message : Value) : ¬ HasStory (.record [("error", message), ("choices", .list [])]) := by
  rintro ⟨text, choices, told, -, -⟩
  simp at told

theorem hasStory_segment (node : Value) (text : String) (first : Choice) (others : List Choice) :
    HasStory (Tale.segment node text (first :: others)) := by
  refine ⟨text, (first :: others).map Choice.document, ?_, ?_, by simp⟩
  all_goals simp [Tale.segment, Choice.documents]

/-- An opening makes a session, or fails as making one does, and the tale is told if there is one. -/
theorem open_run (assistant : Assistant) (user : Value) :
    ∃ story, (Tale.tell .empty).runFrom assistant.tale =
        (.ok story, ((Tale.tell .empty).runFrom assistant.tale).2) ∧
      (open_ user).runFrom assistant =
        match (create user).runFrom assistant.store with
        | (.ok session, store) => (.ok (replyOf (.record session) story),
            ⟨store, ((Tale.tell .empty).runFrom assistant.tale).2⟩)
        | (.error fault, store) => (.error fault, { assistant with store }) := by
  obtain ⟨story, told⟩ := Tale.tell_answers .empty assistant.tale
  refine ⟨story, by rw [told], ?_⟩
  rw [open_, runFrom_bind, runFrom_on]
  rcases (create user).runFrom assistant.store with ⟨fault | session, store⟩
  · rfl
  · simp only [runFrom_bind, runFrom_on, told, runFrom_pure, replyOf]

/-- A session that has just been made is a live session of its player. -/
theorem resolves_opened {user : Value} {entries : List (Value × Value)} {before store : Sessions}
    (opened : Opened user entries before store) (dated : before.now.InCalendar) :
    Resolves store (.text (idOf store.made)) user := by
  have active := get?_opening before.now (idOf store.made) user
  have found : store.current (idOf store.made) = some (.record (opening before.now (idOf store.made) user)) := by
    rw [current, opened.find?, if_pos rfl, Option.some_or]
  have live : isExpired store.now (.record (opening before.now (idOf store.made) user)) = .ok false := by
    rw [opened.now, isExpired_eq (lastActivity_of_get? dated active), isIdle_now dated active]
  refine ⟨_, get?_live found (by simp [opening]) live, ?_⟩
  simp [refreshed, opening]

/-! ### Runs -/

/-- Some player has opened a session, or tried to. -/
def Called (calls : List Call) : Prop := ∃ user, .open_ user ∈ calls

/-- An assistant after some calls: the tale has begun as soon as anybody has called, and until then the store is
unused. -/
structure Stands (prompts : Tale.Prompts) (calls : List Call) (assistant : Assistant) : Prop where
  housed : Housed assistant.store.tree
  prompts_eq : assistant.tale.prompts = prompts
  limit : assistant.store.limit = 3
  unused : ¬ Called calls → assistant.store.active = []
  begun_iff : assistant.tale.current.truthy = true ↔ Called calls

theorem called_concat_open (calls : List Call) (user : Value) : Called (calls ++ [.open_ user]) :=
  ⟨user, by simp⟩

theorem called_concat_wait (calls : List Call) (seconds : Number) : Called (calls ++ [.wait seconds]) ↔ Called calls := by
  simp [Called]

variable {prompts : Tale.Prompts} {calls : List Call} {assistant : Assistant}

/-- The first opening of all is never refused. -/
theorem Stands.create_first (stands : Stands prompts calls assistant) (first : ¬ Called calls) (user : Value) :
    ∃ session store, (create user).runFrom assistant.store = (.ok session, store) := by
  obtain ⟨store, created, -⟩ := Sessions.create_first stands.housed (stands.unused first)
    (by rw [stands.limit]; decide) user
  exact ⟨_, store, created⟩

theorem Stands.open_ (stands : Stands prompts calls assistant) (compose_ : prompts.Compose) (user : Value) :
    Stands prompts (calls ++ [.open_ user]) ((open_ user).runFrom assistant).2 := by
  have called := called_concat_open calls user
  have composing : assistant.tale.prompts.Compose := stands.prompts_eq ▸ compose_
  have begins := Tale.tell_begins composing .empty
  obtain ⟨_, moves, -⟩ := Tale.tell_moves .empty assistant.tale
  have created := create_created stands.housed user
  have first (unbegun : ¬ Called calls) := stands.create_first unbegun user
  obtain ⟨story, -, ran⟩ := open_run assistant user
  rw [ran]
  generalize (create user).runFrom assistant.store = outcome at created first ⊢
  -- A call that is refused was not the first, so the tale had begun before it.
  have refused_begun {fault : Fault} {store : Sessions} (refused : outcome = (.error fault, store)) :
      assistant.tale.current.truthy = true := by
    refine stands.begun_iff.2 (Classical.byContradiction fun unbegun => ?_)
    obtain ⟨session, other, opened⟩ := first unbegun
    cases refused.symm.trans opened
  cases created with
  | stuck undated | refused live full =>
    exact ⟨stands.housed, stands.prompts_eq, stands.limit, fun uncalled => absurd called uncalled,
      iff_of_true (refused_begun rfl) called⟩
  | @opened _ _ store live listed few opened =>
    have inside := inside_plain (plain_idOf store.made)
    exact ⟨stands.housed.filed inside opened.filed, moves.prompts_eq.trans stands.prompts_eq,
      opened.limit.trans stands.limit, fun uncalled => absurd called uncalled, iff_of_true begins called⟩

theorem Stands.after (stands : Stands prompts [] assistant) (compose_ : prompts.Compose) (calls : List Call) :
    Stands prompts calls (assistant.after calls) := by
  induction calls using List.reverseRecOn with
  | nil => exact stands
  | append_singleton calls call ih =>
    rw [after_concat]
    cases call with
    | open_ user => simpa [Call.act] using ih.open_ compose_ user
    | wait seconds =>
      refine ⟨ih.housed, ih.prompts_eq, ih.limit, fun uncalled => ih.unused ?_, ?_⟩
      · rwa [called_concat_wait] at uncalled
      · rw [called_concat_wait]
        exact ih.begun_iff

theorem stands_start {now : Moment} {chance : Chance} {templates : Except Fault (Option Value)}
    {prompts : Except Fault Tale.Prompts} {assistant : Assistant}
    (started : start now chance templates prompts = .ok assistant) : Stands assistant.tale.prompts [] assistant := by
  obtain ⟨told, -, loading⟩ := bind_eq_ok_iff.1 started
  obtain ⟨file, -, making⟩ := bind_eq_ok_iff.1 loading
  obtain ⟨responder, -, ⟨⟩⟩ := bind_eq_ok_iff.1 making
  refine ⟨housed_start now, rfl, rfl, fun _ => rfl, ?_⟩
  simp [Called, Value.truthy]

/-- In every run of openings by any players on an assistant whose prompts give texts, an opening that is answered
at a date of the calendar gives a session, under the name of its id, that the store refuses as an id; the id inside
it stands for a live session of the player; and there is a story with a text and choices exactly if nobody had
called before. -/
theorem story_iff_first_opening {now : Moment} {chance : Chance} {templates : Except Fault (Option Value)}
    {prompts : Except Fault Tale.Prompts} {assistant later : Assistant}
    (started : start now chance templates prompts = .ok assistant) (compose_ : assistant.tale.prompts.Compose)
    (calls : List Call) (dated : (assistant.after calls).store.now.InCalendar) {user : Value} {answer : Fields}
    (answered : (open_ user).runFrom (assistant.after calls) = (.ok answer, later)) :
    ∃ session id story, answer = replyOf session story ∧
      ((Sessions.get? session).runFrom later.store).1 = .error (.mismatch (.notKey "dict")) ∧
      session.field? "session_id" = some id ∧ Resolves later.store id user ∧
      (HasStory story ↔ ¬ Called calls) := by
  have stands := (stands_start started).after compose_ calls
  generalize assistant.after calls = reached at stands dated answered
  have created := Sessions.create_created stands.housed user
  obtain ⟨story, told, ran⟩ := open_run reached user
  rw [ran] at answered
  generalize (Sessions.create user).runFrom reached.store = outcome at created answered
  cases created with
  | stuck undated | refused live full => cases answered
  | @opened _ _ store live listed few opened =>
    cases answered
    refine ⟨_, .text (idOf store.made), story, rfl, ?_, ?_, resolves_opened opened dated, ?_⟩
    · simp [Sessions.get?, Value.isKey, Value.key?, Value.kind]
    · simp [opening]
    · rw [← stands.begun_iff]
      by_cases begun : reached.tale.current.truthy = true
      · rw [Tale.tell_choiceless begun] at told
        cases told
        exact iff_of_false (not_hasStory_note _) (not_not_intro begun)
      · obtain ⟨text, composed⟩ := (stands.prompts_eq ▸ compose_ : reached.tale.prompts.Compose).1 reached.tale.chance
        rw [Tale.tell_introduction begun (Prod.ext composed rfl)] at told
        cases told
        exact iff_of_true (hasStory_segment _ _ _ _) begun

/-- Ann opens a session and then Bob does: neither is given an id that the store takes, and Bob is told no story. -/
theorem second_opening_without_story : ∃ assistant,
    start ⟨0⟩ {} (.ok (some .empty)) (.ok Tale.builtIn) = .ok assistant ∧
    (∃ session story later, (open_ (.text "ann")).runFrom assistant =
        (.ok (replyOf session story), later) ∧
      ¬ Resolves later.store session (.text "ann") ∧ HasStory story) ∧
    ∃ session story later, (open_ (.text "bob")).runFrom (assistant.after [.open_ (.text "ann")]) =
        (.ok (replyOf session story), later) ∧
      ¬ Resolves later.store session (.text "bob") ∧ ¬ HasStory story := by
  let assistant : Assistant := { store := Sessions.start ⟨0⟩, tale := { prompts := Tale.builtIn, chance := {} } }
  have started : start ⟨0⟩ {} (.ok (some .empty)) (.ok Tale.builtIn) = .ok assistant := rfl
  have opens (calls : List Call) (user : Value) (dated : (assistant.after calls).store.now.InCalendar)
      (answers : ((open_ user).runFrom (assistant.after calls)).1.toBool = true) :
      ∃ session story later, (open_ user).runFrom (assistant.after calls) =
          (.ok (replyOf session story), later) ∧
        ¬ Resolves later.store session user ∧ (HasStory story ↔ ¬ Called calls) := by
    rcases answered : (open_ user).runFrom (assistant.after calls) with ⟨fault | answer, later⟩
    · rw [answered] at answers
      cases answers
    · obtain ⟨session, id, story, rfl, refused, -, -, story_iff⟩ :=
        story_iff_first_opening started Tale.builtIn_compose calls dated answered
      refine ⟨session, story, later, rfl, ?_, story_iff⟩
      rintro ⟨other, given, -⟩
      cases refused.symm.trans given
  refine ⟨assistant, started, ?_, ?_⟩
  · obtain ⟨session, story, later, answered, unresolved, story_iff⟩ :=
      opens [] (.text "ann") ⟨by decide, by decide⟩ (by decide +kernel)
    exact ⟨session, story, later, answered, unresolved, story_iff.2 (by simp [Called])⟩
  · obtain ⟨session, story, later, answered, unresolved, story_iff⟩ :=
      opens [.open_ (.text "ann")] (.text "bob") (by decide +kernel) (by decide +kernel)
    refine ⟨session, story, later, answered, unresolved, fun told => story_iff.1 told ⟨.text "ann", by simp⟩⟩

end Playhouse.Assistant
