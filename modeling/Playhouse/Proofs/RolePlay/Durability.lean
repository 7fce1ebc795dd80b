import Playhouse.Proofs.RolePlay.Idleness

/-!
Restarts. The engine changes the sessions that it holds in memory only: the file of a session stays as the
store wrote it when the session was opened. So a store that starts again over the same files gives back what
the engine has exactly for the sessions in which nobody has made a choice, and these only until two hours
have passed since they were opened.
-/
namespace Playhouse.Engine
open Sessions List Value
open Sessions (idOf isIdle lastActivity hasLongName)

/-- A call that opens sessions only for players that JSON keeps as they are. -/
def Call.IsJson : Call → Prop
  | open_ user => user.IsJson
  | _ => True

/-- A choice was made in the session of an id on the open engine, whether it was followed or refused. -/
def Touched (engine : Engine) (calls : List Call) (name : Value) : Prop :=
  ∃ before user choice session, before ++ [.choose user choice] <+: calls ∧ (engine.after before).isOpen = true ∧
    (engine.after before).find? user = some session ∧ id session = name

/-- A store that starts again over the same files gives a session with the same choices and story. -/
def Reloads (engine : Engine) (session : Fields) : Prop :=
  ∃ again, ((get? (id session)).runFrom engine.store.restarted).1 = .ok (some again) ∧
    again.get? (.text "user_choices") = session.get? (.text "user_choices") ∧
    again.get? (.text "story_text") = session.get? (.text "story_text")

theorem touched_concat (engine : Engine) (calls : List Call) (call : Call) (name : Value) :
    Touched engine (calls ++ [call]) name ↔ Touched engine calls name ∨ ∃ user choice session,
      call = .choose user choice ∧ (engine.after calls).isOpen = true ∧
        (engine.after calls).find? user = some session ∧ id session = name := by
  simp only [Touched, concat_prefix_concat_iff]
  constructor
  · rintro ⟨before, user, choice, session, ⟨rfl, rfl⟩ | leads, rest⟩
    · exact .inr ⟨user, choice, session, rfl, rest⟩
    · exact .inl ⟨before, user, choice, session, leads, rest⟩
  · rintro (⟨before, user, choice, session, leads, rest⟩ | ⟨user, choice, session, rfl, rest⟩)
    · exact ⟨before, user, choice, session, .inr leads, rest⟩
    · exact ⟨calls, user, choice, session, .inl ⟨rfl, rfl⟩, rest⟩

/-! ### What a choice leaves -/

section
variable {engine : Engine} {user choice : Value} {session later : Fields} {now : Moment}

theorem pathOf_ne_nil (session : Fields) : pathOf session ≠ [] := by
  unfold pathOf
  split
  · exact cons_ne_nil _ _
  · rename_i some_
    simpa using some_

/-- Whatever becomes of a choice, the session that it is made in has choices afterwards. -/
theorem Turned.choices_ne_nil (turned : Turned now choice session later) : choicesOf later ≠ [] := by
  cases turned with
  | begun =>
    rw [Engine.begun, choicesOf_set]
    exact pathOf_ne_nil session
  | advanced text => simp [choicesOf_advanced]

theorem Turned.began (turned : Turned now choice session later) :
    later.get? (.text "start_time") = session.get? (.text "start_time") := by
  cases turned <;> simp [Engine.advanced, Engine.begun]

theorem choose_turns (shared : Shared engine) (isOpen : engine.isOpen = true)
    (found : engine.find? user = some session) (choice : Value) :
    ∃ later tale, ((choose user choice).runFrom engine).2 = { changed user later engine with tale } ∧
      Turned engine.store.now choice session later := by
  rw [choose_found isOpen (shared.isKey found) found]
  cases Tale.choicesAfter ((pathOf session).getLastD .null) with
  | error fault => exact ⟨_, engine.tale, rfl, .begun⟩
  | ok options =>
    dsimp only
    split
    · obtain ⟨answer, told⟩ := Tale.tell_answers (.record [("choice", choice)]) engine.tale
      rw [told]
      exact ⟨_, _, shared.followed_eq found choice answer _, .advanced _⟩
    · exact ⟨_, engine.tale, rfl, .begun⟩

theorem choose_closed (closed : ¬ (engine.isOpen = true ∧ ∃ session, engine.find? user = some session))
    (choice : Value) : ((choose user choice).runFrom engine).2 = engine := by
  have chosen := choose_chosen engine user choice
  cases isOpen : engine.isOpen with
  | false => simp [choose, isOpen]
  | true =>
    have unfound : ∀ session, engine.find? user ≠ some session := fun session found => closed ⟨isOpen, session, found⟩
    generalize (choose user choice).runFrom engine = outcome at chosen
    cases chosen with
    | refused fault => rfl
    | strayed session fault found
    | follows session answer tale isOpen key found may told => exact absurd found (unfound session)

end

/-! ### What is on file -/

/-- A session of a player, and what its file holds: what the session was when it was opened. -/
structure Opening (tree : FileTree) (opened : Moment) (n : Nat) (user : Value) (session : Fields) : Prop where
  named : id session = .text (idOf n)
  began : session.get? (.text "start_time") = some (.text opened.iso)
  dated : opened.InCalendar
  json : user.IsJson
  key : user.isKey = true
  filed : hasLongName (.text (idOf n)) = false → tree.text? (path (.text (idOf n))) =
    some (Json.spread 2 (.record (opening opened (idOf n) user)))

/-- In a run, what is on file lags behind: a held session is as its file has it until a choice is made in it,
and has choices from then on. -/
structure Lags (first : Engine) (calls : List Call) (engine : Engine) : Prop where
  sound : Sound jsonRegime engine.store.restarted
  held : ∀ entry ∈ engine.held, ∃ opened n user, Opening engine.store.tree opened n user entry.2 ∧
    (¬ Touched first calls (id entry.2) ∧ entry.2 = opening opened (idOf n) user ∨
      Touched first calls (id entry.2) ∧ choicesOf entry.2 ≠ [])
  made : ∀ name, Touched first calls name → ∃ n ≤ engine.store.made, name = .text (idOf n)

section
variable {first engine next : Engine} {calls : List Call} {call : Call} {user : Value} {session : Fields}
  {entries : List (Value × Value)} {store : Sessions}

theorem touched_other (other : ∀ user choice, call ≠ .choose user choice) (name : Value) :
    Touched first (calls ++ [call]) name ↔ Touched first calls name := by
  rw [touched_concat, or_iff_left]
  rintro ⟨user, choice, -, chooses, -⟩
  exact other user choice chooses

/-- A call that makes no choice and no file leaves what is on file as it was. -/
theorem Lags.frame (lags : Lags first calls engine) (other : ∀ user choice, call ≠ .choose user choice)
    (held : next.held.Sublist engine.held) (tree : next.store.tree = engine.store.tree)
    (made : next.store.made = engine.store.made) (sound : Sound jsonRegime next.store.restarted) :
    Lags first (calls ++ [call]) next := by
  refine ⟨sound, fun entry member => ?_, fun name touched => ?_⟩
  · rw [tree, touched_other other]
    exact lags.held entry (held.subset member)
  · rw [made]
    exact lags.made name ((touched_other other name).1 touched)

section
variable (opened : Opened user entries engine.store store)
include opened

theorem sound_opened (sound : Sound jsonRegime engine.store.restarted) (json : user.IsJson) :
    Sound jsonRegime store.restarted := by
  refine sound.filed (t := store.restarted) (jsonRegime.opening store.made trivial json)
    ⟨_, Nat.le_refl _, .refl _⟩ ?_ opened.now opened.filed nodup_nil nofun
  exact opened.made ▸ Nat.le_succ _

/-- The files of the sessions made before stay where a new session gets its own. -/
theorem Opening.stays {opened_at : Moment} {n : Nat} {owner : Value}
    (opening : Opening engine.store.tree opened_at n owner session) (below : n ≤ engine.store.made) :
    Opening store.tree opened_at n owner session := by
  refine { opening with filed := fun short => ?_ }
  have older : idOf n ≠ idOf store.made :=
    fun same => ne_next ⟨n, below, rfl⟩ (congrArg text (opened.made ▸ same))
  rw [opened.filed.text?_of_ne (plain_idOf _) (plain_idOf _) older]
  exact opening.filed short

theorem Lags.held_opened (shared : Shared engine) (lags : Lags first calls engine) {entry : Value × Fields}
    (member : entry ∈ engine.held) :
    ∃ opened n user, Opening store.tree opened n user entry.2 ∧
      (¬ Touched first calls (id entry.2) ∧ entry.2 = Sessions.opening opened (idOf n) user ∨
        Touched first calls (id entry.2) ∧ choicesOf entry.2 ≠ []) := by
  obtain ⟨opened_at, n, owner, opening, state⟩ := lags.held entry member
  obtain ⟨m, below, named⟩ := shared.named entry member
  have number := idOf_inj (text.inj (named.symm.trans opening.named))
  exact ⟨opened_at, n, owner, opening.stays opened (number ▸ below), state⟩

theorem Lags.made_opened (lags : Lags first calls engine) (name : Value) (touched : Touched first calls name) :
    ∃ n ≤ store.made, name = .text (idOf n) :=
  given_mono (opened.made ▸ Nat.le_succ _) (lags.made name touched)

/-- A session that was just opened is as its file has it, and untouched. -/
theorem Lags.opening_new (lags : Lags first calls engine) (dated : engine.store.now.InCalendar) (json : user.IsJson)
    (key : user.isKey = true) :
    Opening store.tree engine.store.now store.made user (opening engine.store.now (idOf store.made) user) ∧
      ¬ Touched first calls (.text (idOf store.made)) := by
  refine ⟨⟨id_opening .., by simp [opening], dated, json, key, fun short => ?_⟩, ?_⟩
  · rw [opened.filed.text?, if_pos ⟨short, rfl⟩]
  · rw [opened.made]
    exact fun touched => ne_next (lags.made _ touched) rfl

end

theorem Lags.opens (shared : Shared engine) (dated : engine.store.now.InCalendar) (lags : Lags first calls engine)
    (json : user.IsJson) {outcome : Except Fault Fields × Engine} (entered : Entered engine user outcome) :
    Lags first (calls ++ [.open_ user]) outcome.2 := by
  have other : ∀ player choice, Call.open_ user ≠ .choose player choice := nofun
  cases entered with
  | stuck undated | refused live full => exact lags.frame other (Sublist.refl _) rfl rfl lags.sound
  | unkeyed key opened =>
    refine ⟨sound_opened opened lags.sound json, fun entry member => ?_, fun name touched => ?_⟩
    · rw [touched_other other]
      exact lags.held_opened opened shared member
    · exact lags.made_opened opened name ((touched_other other name).1 touched)
  | opened key listed few opened told =>
    refine ⟨sound_opened opened lags.sound json, fun entry member => ?_, fun name touched => ?_⟩
    · rw [touched_other other]
      rcases mem_holdIn member with ⟨new, -⟩ | held
      · obtain ⟨opening, untouched⟩ := lags.opening_new opened dated json key
        rw [new, id_opening]
        exact ⟨_, _, user, opening, .inl ⟨untouched, rfl⟩⟩
      · exact lags.held_opened opened shared held
    · exact lags.made_opened opened name ((touched_other other name).1 touched)

theorem restarted_changed (user : Value) (session : Fields) (engine : Engine) :
    (changed user session engine).store.restarted = engine.store.restarted := by
  simp only [changed]
  split <;> rfl

/-- A choice touches the session that its player is at, and no file. -/
theorem Lags.chooses (shared : Shared (first.after calls)) (lags : Lags first calls (first.after calls))
    (user choice : Value) :
    Lags first (calls ++ [.choose user choice]) ((choose user choice).runFrom (first.after calls)).2 := by
  by_cases here : (first.after calls).isOpen = true ∧ ∃ session, (first.after calls).find? user = some session
  · obtain ⟨isOpen, session, found⟩ := here
    obtain ⟨later, tale, next_eq, turned⟩ := choose_turns shared isOpen found choice
    have touched_iff (name : Value) : Touched first (calls ++ [.choose user choice]) name ↔
        Touched first calls name ∨ id session = name := by
      rw [touched_concat]
      refine or_congr_right ⟨?_, fun same => ⟨user, choice, session, rfl, isOpen, found, same⟩⟩
      rintro ⟨player, other, at_, same, -, finds, named⟩
      cases same
      rw [found] at finds
      cases finds
      exact named
    obtain ⟨place, -, inside⟩ := mem_held_of_find? found
    rw [next_eq]
    have sound := restarted_changed user later (first.after calls) ▸ lags.sound
    refine ⟨sound, fun entry member => ?_, fun name touched => ?_⟩
    · rw [touched_iff, changed_tree]
      rcases mem_changed shared found member with ⟨new, -⟩ | ⟨held, elsewhere⟩
      · obtain ⟨opened, n, owner, opening, -⟩ := lags.held _ inside
        rw [new]
        have reopened : Opening (first.after calls).store.tree opened n owner later :=
          { opening with named := turned.id_eq.trans opening.named, began := turned.began.trans opening.began }
        exact ⟨opened, n, owner, reopened, .inr ⟨.inr turned.id_eq.symm, turned.choices_ne_nil⟩⟩
      -- The others are held under other ids, so the choice did not touch them.
      · rw [or_iff_left (Ne.symm elsewhere)]
        exact lags.held entry held
    · rw [changed_made]
      rcases (touched_iff name).1 touched with earlier | rfl
      · exact lags.made name earlier
      · exact shared.named _ inside
  · have touched_iff (name : Value) :
        Touched first (calls ++ [.choose user choice]) name ↔ Touched first calls name := by
      rw [touched_concat, or_iff_left]
      rintro ⟨player, other, session, same, isOpen, finds, -⟩
      cases same
      exact here ⟨isOpen, session, finds⟩
    rw [choose_closed here]
    refine ⟨lags.sound, fun entry member => ?_, fun name touched => lags.made name ((touched_iff name).1 touched)⟩
    rw [touched_iff]
    exact lags.held entry member

theorem Lags.does (shared : Shared (first.after calls)) (dated : (first.after calls).store.now.InCalendar)
    (json : call.IsJson) (lags : Lags first calls (first.after calls)) (does : Does (first.after calls) call next) :
    Lags first (calls ++ [call]) next := by
  cases does with
  | opens ran entered => exact lags.opens shared dated json entered
  | chooses ran chosen => exact ran ▸ lags.chooses shared _ _
  | analyzes user => exact lags.frame nofun (Sublist.refl _) rfl rfl lags.sound
  | closes => exact lags.frame nofun (nil_sublist _) rfl rfl lags.sound
  | waits seconds =>
    have waits : Change (first.after calls).store.restarted (.wait seconds) _ := .waits seconds
    have allowed : jsonRegime.Allowed (.wait seconds) := trivial
    exact lags.frame nofun (Sublist.refl _) rfl rfl (lags.sound.change allowed waits)

end

theorem lags_after {engine : Engine} {calls : List Call} (shared : Shared engine) (unheld : engine.held = [])
    (sound : Sound jsonRegime engine.store.restarted) (dated : Dated engine.store.now calls)
    (json : ∀ call ∈ calls, call.IsJson) : Lags engine calls (engine.after calls) := by
  refine shared.along (P := fun before reached => Lags engine before reached) calls ?_ ?_
  · refine ⟨sound, fun entry member => absurd (unheld ▸ member) not_mem_nil, ?_⟩
    rintro name ⟨before, user, choice, session, leads, -⟩
    simp at leads
  · intro before call next leads reached does lags
    have earlier := (mem_inits _ _).2 ((prefix_append _ _).trans leads)
    have last : call ∈ calls := leads.subset (mem_append_right _ mem_cons_self)
    exact lags.does reached (shared.now_after before ▸ dated before earlier) (json call last) does

/-! ### Starting again -/

theorem nesting_of_isKey {user : Value} (key : user.isKey = true) : user.nesting = 0 := by
  cases user with
  | list items | record fields => cases key
  | _ => rfl

/-- What a store that starts again gives for a session: the session as it was opened, unless that is more
than two hours ago. -/
theorem Opening.reloaded {store : Sessions} {opened : Moment} {n : Nat} {user : Value} {session : Fields}
    (sound : Sound jsonRegime store.restarted)
    (opening : Opening store.tree opened n user session) (short : hasLongName (id session) = false) :
    ((get? (id session)).runFrom store.restarted).1 = .ok (if store.now.micros - opened.micros ≤ timeout then
        some (refreshed store.now (Sessions.opening opened (idOf n) user)) else none) := by
  rw [opening.named] at short ⊢
  have fits : Fits (idOf n) (.record (Sessions.opening opened (idOf n) user)) := by
    refine ⟨short, ?_⟩
    simp [Sessions.opening, nesting, nestingFields, nestingItems, nesting_of_isKey opening.key, empty, Json.depthLimit]
  have json := fieldsJson_opening opened n opening.json
  have housed : Housed store.tree := sound.housed
  have on_file := stored_of_text? housed (passable_plain (plain_idOf n)) json fits (opening.filed short)
  have active := lastActivity_opening opening.dated (idOf n) user
  have now_eq : store.restarted.now = store.now := rfl
  rw [get?_answer sound.ordered, restarted_current, on_file, answer,
    isExpired_eq active, now_eq, isIdle, active, Option.any_some]
  by_cases recent : store.now.micros - opened.micros ≤ timeout
  · rw [if_pos recent, decide_eq_false (Int.not_lt.2 recent)]
    rfl
  · rw [if_neg recent, decide_eq_true (Int.not_le.1 recent)]
    rfl

/-- In every run on which the clock shows dates of the calendar, a store that starts again over the same files
gives a held session with the choices and the story that the engine has exactly if the session was opened at
most two hours ago and nobody has made a choice in it; and what it gives has neither choices nor a story, so
that every choice that was accepted is lost. -/
theorem reloads_iff_untouched {now : Moment} {chance : Chance} {templates : Except Fault (Option Value)}
    {prompts : Except Fault Tale.Prompts} {engine : Engine} (started : start now chance templates prompts = .ok engine)
    {calls : List Call} (dated : Dated now calls) (json : ∀ call ∈ calls, call.IsJson) {key : Value} {session : Fields}
    (held : (key, session) ∈ (engine.after calls).held) (short : hasLongName (id session) = false) :
    ∃ opened : Moment, session.get? (.text "start_time") = some (.text opened.iso) ∧
      (Reloads (engine.after calls) session ↔
        (clock now calls).micros - opened.micros ≤ Sessions.timeout ∧ ¬ Touched engine calls (id session)) ∧
      ((clock now calls).micros - opened.micros ≤ Sessions.timeout →
        ∃ again, ((Sessions.get? (id session)).runFrom (engine.after calls).store.restarted).1 = .ok (some again) ∧
          again.get? (.text "user_choices") = some (.list []) ∧ again.get? (.text "story_text") = none) := by
  have begins := shared_start started
  obtain ⟨unheld, at_now, sound⟩ : engine.held = [] ∧ engine.store.now = now ∧
      Sessions.Sound Sessions.jsonRegime engine.store.restarted := by
    obtain ⟨told, -, rfl⟩ := start_eq started
    exact ⟨rfl, rfl, Sessions.sound_start trivial⟩
  subst at_now
  have lags := lags_after begins unheld sound dated json
  obtain ⟨opened, n, user, opening, state⟩ := lags.held _ held
  have reloaded := opening.reloaded lags.sound short
  rw [begins.now_after] at reloaded
  have choices : (Sessions.refreshed (clock engine.store.now calls) (Sessions.opening opened (idOf n) user)).get?
      (.text "user_choices") = some (.list []) := by
    simp [Sessions.refreshed, Sessions.opening]
  have story : (Sessions.refreshed (clock engine.store.now calls) (Sessions.opening opened (idOf n) user)).get?
      (.text "story_text") = none := by
    simp [Sessions.refreshed, Sessions.opening]
  refine ⟨opened, opening.began, ?_, fun recent => ⟨_, by rw [reloaded, if_pos recent], choices, story⟩⟩
  constructor
  · rintro ⟨again, got, same_choices, -⟩
    rw [reloaded] at got
    by_cases recent : (clock engine.store.now calls).micros - opened.micros ≤ Sessions.timeout
    · rw [if_pos recent] at got
      cases got
      rw [choices] at same_choices
      have none_made : choicesOf session = [] := by simp [choicesOf, ← same_choices]
      rcases state with ⟨untouched, -⟩ | ⟨-, some_made⟩
      · exact ⟨recent, untouched⟩
      · exact absurd none_made some_made
    · rw [if_neg recent] at got
      cases got
  · rintro ⟨recent, untouched⟩
    rcases state with ⟨-, as_opened⟩ | ⟨touched, -⟩
    · refine ⟨_, by rw [reloaded, if_pos recent], choices.trans ?_, story.trans ?_⟩
      all_goals
        rw [show session = Sessions.opening opened (idOf n) user from as_opened]
        simp [Sessions.opening]
    · exact absurd touched untouched

/-- A player who has investigated has lost that after a restart. -/
theorem restart_loses_choice : ∃ engine session, ∃ calls : List Call,
    calls = [.open_ (.text "ann"), .choose (.text "ann") (.text "investigate")] ∧
    start ⟨0⟩ {} (.ok (some .empty)) (.ok Tale.builtIn) = .ok engine ∧
    (engine.after calls).find? (.text "ann") = some session ∧
    (choicesOf session).map Value.text? = [some "start", some "investigate"] ∧
    ¬ Reloads (engine.after calls) session := by
  let engine : Engine := { store := Sessions.start ⟨0⟩, tale := { prompts := Tale.builtIn, chance := {} } }
  let calls : List Call := [.open_ (.text "ann"), .choose (.text "ann") (.text "investigate")]
  have started : start ⟨0⟩ {} (.ok (some .empty)) (.ok Tale.builtIn) = .ok engine := rfl
  have path : ((engine.after calls).find? (.text "ann")).map
      (fun session => ((choicesOf session).map Value.text?, hasLongName (id session))) =
        some ([some "start", some "investigate"], false) := by
    decide +kernel
  obtain ⟨session, found, shape⟩ := Option.map_eq_some_iff.1 path
  obtain ⟨made, short⟩ := Prod.mk.inj shape
  obtain ⟨key, same, held⟩ := mem_held_of_find? found
  have json : ∀ call ∈ calls, call.IsJson := by
    intro call member
    simp only [calls, List.mem_cons, List.not_mem_nil, or_false] at member
    rcases member with rfl | rfl
    · exact Text.paired_of_all (by decide)
    · trivial
  obtain ⟨opened, -, reloads_iff, empty⟩ := reloads_iff_untouched started (by decide) json held short
  refine ⟨engine, session, calls, rfl, started, found, made, fun reloads => ?_⟩
  obtain ⟨again, got, none_made, -⟩ := empty (reloads_iff.1 reloads).1
  obtain ⟨other, got_other, same_choices, -⟩ := reloads
  obtain rfl : again = other := Option.some.inj (Except.ok.inj (got.symm.trans got_other))
  rw [none_made] at same_choices
  simp [choicesOf, ← same_choices] at made

end Playhouse.Engine
