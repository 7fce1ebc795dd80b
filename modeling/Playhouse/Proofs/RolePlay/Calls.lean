import Playhouse.Proofs.Data.Entries
import Playhouse.Proofs.Tale.Telling
import Playhouse.RolePlay.Engine

/-!
Runs of the engine. Players call it in any order, and a call that fails leaves the state it failed
in. Whoever holds a session has begun the tale, so in every run a choice is told by the table of
consequences and never by the introduction.
-/
namespace Playhouse.Engine
open Tale Act Sessions

variable {templates : Except Fault (Option Value)} {session : Fields} {user : Value} {chance : Chance} {now : Moment}

/-- One call of the engine, or the time that passes between two. -/
inductive Call where
  | open_ (user : Value)
  | choose (user choice : Value)
  | analyze (user : Value)
  | close
  | wait (seconds : Number)

def Call.act : Call → Act Engine Unit
  | open_ user => discard (Engine.open_ user)
  | choose user choice => discard (Engine.choose user choice)
  | analyze user => discard (Engine.analyze user)
  | close => Engine.close
  | wait seconds => onStore (Sessions.wait seconds)

/-- The engine after some calls, whatever became of each. -/
def after (engine : Engine) (calls : List Call) : Engine :=
  calls.foldl (fun engine call => (call.act.runFrom engine).2) engine

/-- Whether the engine would follow a player's choice. -/
def Accepts (engine : Engine) (user choice : Value) : Prop :=
  ∃ reply, ((Engine.choose user choice).runFrom engine).1 = .ok reply

instance (engine : Engine) (user choice : Value) : Decidable (engine.Accepts user choice) :=
  match answered : ((Engine.choose user choice).runFrom engine).1 with
  | .ok reply => isTrue ⟨reply, answered⟩
  | .error _ => isFalse fun ⟨_, accepted⟩ => nomatch answered.symm.trans accepted

/-! ### The session of a player -/

/-- The choices that a session counts as made: an untouched one has made the start. -/
def pathOf (session : Fields) : List Value :=
  if (choicesOf session).isEmpty then [.text "start"] else choicesOf session

@[simp] theorem choicesOf_set (session : Fields) (made : List Value) :
    choicesOf (session.set (.text "user_choices") (.list made)) = made := by
  simp [choicesOf]

/-- The engine with a session of a player changed. -/
def changed (user : Value) (session : Fields) (engine : Engine) : Engine :=
  { engine with
    held := holdIn user session engine.held
    store := if (engine.store.find? (id session)).isSome then
      { engine.store with active := putIn (id session) (.record session) engine.store.active }
      else engine.store }

section
variable (user : Value) (session : Fields) (engine : Engine)

@[simp] theorem runFrom_change : (change user session).runFrom engine = (.ok (), changed user session engine) := rfl

@[simp] theorem changed_tale : (changed user session engine).tale = engine.tale := rfl

@[simp] theorem changed_tree : (changed user session engine).store.tree = engine.store.tree := by
  simp only [changed]
  split <;> rfl

@[simp] theorem changed_made : (changed user session engine).store.made = engine.store.made := by
  simp only [changed]
  split <;> rfl

@[simp] theorem changed_limit : (changed user session engine).store.limit = engine.store.limit := by
  simp only [changed]
  split <;> rfl

theorem now_changed : (changed user session engine).store.now = engine.store.now := by
  simp only [changed]
  split <;> rfl

end

variable {engine : Engine} {prompts : Tale.Prompts}

/-- A player who finds a session has a place for it, and for any other in its stead. -/
theorem place_of_find? (found : engine.find? user = some session) :
    ∃ before key after, engine.held = before ++ (key, session) :: after ∧ key.equal user = true ∧
      (∀ entry ∈ before, (!entry.1.equal user) = true) ∧
      ∀ old other, holdIn user other (before ++ (key, old) :: after) = before ++ (key, other) :: after := by
  obtain ⟨entry, here, rfl⟩ := Option.map_eq_some_iff.1 found
  obtain ⟨same, before, after, split, absent⟩ := List.find?_eq_some_iff_append.1 here
  refine ⟨before, entry.1, after, split, same, absent, fun old other => ?_⟩
  rw [holdIn, Entries.put_append (by simpa using absent) (by simpa using same)]

theorem find?_changed {old : Fields} (found : engine.find? user = some old) (session : Fields) :
    (changed user session engine).find? user = some session := by
  obtain ⟨before, key, after, held, same, absent, puts⟩ := place_of_find? found
  have holds : (changed user session engine).held = before ++ (key, session) :: after := by
    rw [← puts old session, ← held]
    rfl
  exact Option.map_eq_some_iff.2 ⟨(key, session),
    List.find?_eq_some_iff_append.2 ⟨same, before, after, holds, absent⟩, rfl⟩

theorem analyze_run (engine : Engine) (user : Value) : ((analyze user).runFrom engine).2 = engine := by
  cases key : user.isKey <;> cases found : engine.find? user <;>
    simp [analyze, sessionOf, key, found]

theorem sessionOf_run (key : user.isKey = true)
    (found : engine.find? user = some session) : (sessionOf user).runFrom engine = (.ok session, engine) := by
  simp [sessionOf, key, found]

/-! ### Following a choice -/

/-- What a player who is at a session may choose. -/
def Follows (session : Fields) (choice : Value) : Prop :=
  ∃ options, choicesAfter ((pathOf session).getLastD .null) = .ok options ∧ ∃ option ∈ options, choice = .text option.id

/-- A session whose first choice, the start, has been noted. -/
def begun (session : Fields) : Fields := session.set (.text "user_choices") (.list (pathOf session))

theorem any_equal_iff (options : List Choice) (choice : Value) :
    (options.any fun option => choice.equal (.text option.id)) = true ↔
      ∃ option ∈ options, choice = .text option.id := by
  simp

/-- The session after a choice has been told. -/
def advanced (session : Fields) (choice : Value) (text : String) (now : Moment) : Fields :=
  (((begun session).set (.text "story_text") (.text (storyOf (begun session) ++ "\n" ++ text))).set
    (.text "user_choices") (.list (pathOf session ++ [choice]))).set (.text "last_activity") (.text now.iso)

theorem choicesOf_advanced (session : Fields) (choice : Value) (text : String) (now : Moment) :
    choicesOf (advanced session choice text now) = pathOf session ++ [choice] := by
  simp [advanced, choicesOf]

/-- The text that a reply tells, from what the tale answered. -/
def textOf (answer : Value) : String :=
  ((answer.field? "story_text").bind Value.text?).getD "No story text available"

/-- The engine once a choice has been told and the tale has moved on. -/
def followed (engine : Engine) (user choice : Value) (session : Fields) (answer : Value) (tale : Tale) : Engine :=
  changed user (advanced session choice (textOf answer) engine.store.now)
    { changed user (begun session) engine with tale }

/-- What a player is told. -/
def replyOf (answer : Value) : Fields :=
  [("status", .text "success"), ("content", .text (textOf answer)),
    ("choices", (answer.field? "choices").getD (.list []))]

/-- Everything that a choice can lead to: it is refused before the session is touched, it is refused as
a turn that the session may not take, or it is followed. -/
inductive Chosen (engine : Engine) (user choice : Value) : Except Fault Fields × Engine → Prop
  | refused (fault : Fault) : Chosen engine user choice (.error fault, engine)
  | strayed (session : Fields) (fault : Fault) (found : engine.find? user = some session) :
      Chosen engine user choice (.error fault, changed user (begun session) engine)
  | follows (session : Fields) (answer : Value) (tale : Tale) (isOpen : engine.isOpen = true)
      (key : user.isKey = true) (found : engine.find? user = some session) (may : Follows session choice)
      (told : (Tale.tell (.record [("choice", choice)])).runFrom engine.tale = (.ok answer, tale)) :
      Chosen engine user choice (.ok (replyOf answer), followed engine user choice session answer tale)

open Chosen

/-- What becomes of a choice of a player who has a session. -/
theorem choose_found {choice : Value} (isOpen : engine.isOpen = true)
    (key : user.isKey = true) (found : engine.find? user = some session) :
    (choose user choice).runFrom engine =
      match choicesAfter ((pathOf session).getLastD .null) with
      | .error fault => (.error fault, changed user (begun session) engine)
      | .ok options =>
        if options.any fun option => choice.equal (.text option.id) then
          match (Tale.tell (.record [("choice", choice)])).runFrom engine.tale with
          | (.ok answer, tale) => (.ok (replyOf answer), followed engine user choice session answer tale)
          | (.error fault, tale) => (.error fault, { changed user (begun session) engine with tale })
        else (.error (.wrongTurn choice ((pathOf session).getLastD .null)), changed user (begun session) engine) := by
  have path : (if (choicesOf session).isEmpty = true then [Value.text "start"] else choicesOf session)
      = pathOf session := rfl
  simp only [choose, runFrom_bind, runFrom_get, isOpen, Bool.not_true, Bool.false_eq_true, if_false,
    sessionOf_run key found, path, runFrom_change, runFrom_liftM]
  cases choicesAfter ((pathOf session).getLastD .null) with
  | error fault => rfl
  | ok options =>
    cases valid : options.any fun option => choice.equal (.text option.id) with
    | false => simp [valid, begun]
    | true =>
      rcases told : (Tale.tell (.record [("choice", choice)])).runFrom engine.tale with ⟨_ | answer, tale⟩
      · simp [valid, onTale, told, begun]
      · simp only [valid, Bool.not_true, Bool.false_eq_true, if_false, if_true, runFrom_bind, onTale,
          runFrom_on, changed_tale, told, runFrom_get, now_changed, runFrom_change, runFrom_pure]
        rfl

theorem choose_chosen (engine : Engine) (user choice : Value) :
    Chosen engine user choice ((choose user choice).runFrom engine) := by
  cases isOpen : engine.isOpen with
  | false => simpa [choose, isOpen] using refused .closed
  | true =>
    cases key : user.isKey with
    | false =>
      simpa [choose, sessionOf, isOpen, key] using refused (.mismatch (.notKey user.kind))
    | true =>
      cases found : engine.find? user with
      | none => simpa [choose, sessionOf, isOpen, key, found] using refused .noPlayer
      | some session =>
        rw [choose_found isOpen key found]
        cases after : choicesAfter ((pathOf session).getLastD .null) with
        | error fault => exact .strayed session fault found
        | ok options =>
          cases valid : options.any fun option => choice.equal (.text option.id) with
          | false => simpa [valid] using strayed session (.wrongTurn choice _) found
          | true =>
            obtain ⟨answer, told⟩ := tell_answers (.record [("choice", choice)]) engine.tale
            simpa only [valid, if_true, told] using follows session answer _ isOpen key found
              ⟨options, after, (any_equal_iff options choice).mp valid⟩ told

theorem accepts_iff {choice : Value} :
    engine.Accepts user choice ↔ engine.isOpen = true ∧ user.isKey = true ∧
      ∃ session, engine.find? user = some session ∧ Follows session choice := by
  constructor
  · rintro ⟨reply, answered⟩
    have chosen := choose_chosen engine user choice
    generalize (choose user choice).runFrom engine = outcome at chosen answered
    cases chosen with
    | refused | strayed => cases answered
    | follows session answer tale isOpen key found may => exact ⟨isOpen, key, session, found, may⟩
  · rintro ⟨isOpen, key, session, found, options, after, member⟩
    obtain ⟨answer, told⟩ := tell_answers (.record [("choice", choice)]) engine.tale
    refine ⟨replyOf answer, ?_⟩
    rw [choose_found isOpen key found]
    simp only [after, (any_equal_iff options choice).mpr member, if_true, told]

/-! ### Runs -/

/-- Whoever holds a session has begun the tale. -/
structure Begun (prompts : Prompts) (engine : Engine) : Prop where
  prompts_eq : engine.tale.prompts = prompts
  begun : engine.held ≠ [] → engine.tale.current.truthy = true

/-- An engine starts with no session, at the given time. -/
theorem start_eq {prompts : Except Fault Prompts} (started : start now chance templates prompts = .ok engine) :
    ∃ told, prompts = .ok told ∧ engine = { store := Sessions.start now, tale := { prompts := told, chance } } := by
  obtain ⟨file, -, loading⟩ := bind_eq_ok_iff.1 started
  obtain ⟨responder, -, making⟩ := bind_eq_ok_iff.1 loading
  obtain ⟨told, given, made⟩ := bind_eq_ok_iff.1 making
  exact ⟨told, given, (Except.ok.inj made).symm⟩

theorem begun_start {prompts : Except Fault Prompts} (started : start now chance templates prompts = .ok engine) :
    Begun engine.tale.prompts engine := by
  obtain ⟨told, -, rfl⟩ := start_eq started
  exact ⟨rfl, fun holds => absurd rfl holds⟩

theorem Begun.onStore {α : Type} (begun : Begun prompts engine) (act : Act Sessions α) :
    Begun prompts ((onStore act).runFrom engine).2 :=
  ⟨begun.prompts_eq, begun.begun⟩

theorem Begun.open_ (compose_ : prompts.Compose) (begun : Begun prompts engine) (user : Value) :
    Begun prompts ((open_ user).runFrom engine).2 := by
  have created := begun.onStore (create user)
  rw [Engine.open_, runFrom_bind]
  rcases made : (Engine.onStore (create user)).runFrom engine with ⟨_ | session, stored⟩
  · simpa [made] using created
  · replace created : Begun prompts stored := by simpa [made] using created
    cases key : user.isKey with
    | false => simpa [hold, key] using created
    | true =>
      have composes : stored.tale.prompts.Compose := created.prompts_eq ▸ compose_
      obtain ⟨answer, told⟩ := tell_answers (.record [("choice", .text "start")]) stored.tale
      obtain ⟨_, moves, -⟩ := tell_moves (.record [("choice", .text "start")]) stored.tale
      have begins := tell_begins composes (.record [("choice", .text "start")])
      simp only [told] at moves begins
      simp only [hold, key, Bool.not_true, Bool.false_eq_true, if_false, runFrom_bind, runFrom_modify,
        Engine.onTale, runFrom_on, told, runFrom_pure]
      exact ⟨moves.prompts_eq.trans created.prompts_eq, fun _ => begins⟩

theorem find?_eq_some_held (found : engine.find? user = some session) : engine.held ≠ [] := by
  intro empty
  simp [find?, empty] at found

theorem Begun.choose (begun : Begun prompts engine) (user choice : Value) :
    Begun prompts ((choose user choice).runFrom engine).2 := by
  have chosen := choose_chosen engine user choice
  generalize (Engine.choose user choice).runFrom engine = outcome at chosen ⊢
  cases chosen with
  | refused fault => exact begun
  | strayed session fault found =>
    exact ⟨begun.prompts_eq, fun _ => begun.begun (find?_eq_some_held found)⟩
  | follows session answer tale isOpen key found may told =>
    obtain ⟨_, moves, -⟩ := tell_moves (.record [("choice", choice)]) engine.tale
    rw [told] at moves
    exact ⟨moves.prompts_eq.trans begun.prompts_eq,
      fun _ => moves.begun_iff.2 (.inl (begun.begun (find?_eq_some_held found)))⟩

theorem Begun.call (compose_ : prompts.Compose) (begun : Begun prompts engine) (call : Call) :
    Begun prompts (call.act.runFrom engine).2 := by
  cases call with
  | open_ user => simpa [Call.act] using begun.open_ compose_ user
  | choose user choice => simpa [Call.act] using begun.choose user choice
  | analyze user => simpa [Call.act, analyze_run] using begun
  | close => exact ⟨begun.prompts_eq, fun holds => absurd rfl holds⟩
  | wait seconds => exact begun.onStore _

theorem Begun.after (compose_ : prompts.Compose) (begun : Begun prompts engine) (calls : List Call) :
    Begun prompts (engine.after calls) := by
  induction calls generalizing engine with
  | nil => exact begun
  | cons call rest ih => exact ih (begun.call compose_ call)

end Playhouse.Engine
