import Playhouse.Proofs.RolePlay.Calls
import Playhouse.Proofs.Session.Calls

/-!
What a player is told and offered after a choice, against what the engine takes next. The flow says
which choice is accepted; the table of consequences says what it is answered with and what is offered
after it. The two tables name different choices, and how far they agree is settled here for every
run of the engine.
-/
namespace Playhouse.Engine
open Tale Fields Sessions List Value Prod

variable {name : String} {options : List Choice} {option : Choice} {engine : Engine} {last answer : Value}

/-- A reply tells the text of a choice: the one that chance makes from the template of the choice's
consequence. -/
def Tells (engine : Engine) (name : String) (reply : Fields) : Prop :=
  ∃ consequence text, (consequences engine.tale.prompts).lookup name = some consequence ∧
    ((compose consequence.template).runFrom engine.tale.chance).1 = .ok text ∧
    reply.get? (.text "content") = some (.text text)

/-- The ids of the choices that a reply offers. -/
def offered (reply : Fields) : List Value :=
  match reply.get? (.text "choices") with
  | some (.list options) => options.filterMap (·.field? "id")
  | _ => []

/-- A reply offers exactly what the engine will take from the player next. -/
def OffersWhatFollows (engine : Engine) (user : Value) (reply : Fields) : Prop :=
  ∀ following, engine.Accepts user following ↔ following ∈ offered reply

/-! ### The two tables -/

/-- The choices that the flow allows after some other one. -/
def turns : List String :=
  ["investigate", "retreat", "explore", "continue", "hide", "run", "wait", "emerge", "move_stealthily", "proceed"]

/-- The turns that have no consequence. -/
def untold : List String := ["continue", "emerge", "move_stealthily", "proceed"]

/-- The turns after which nothing is offered and nothing is taken. -/
def closing : List String := ["emerge", "move_stealthily", "proceed"]

/-- What the flow allows after a choice. -/
def followers (name : String) : List String := ((flow.lookup name).getD []).map Choice.id

/-- What is offered after a choice. -/
def offers (name : String) : List String :=
  (((consequences builtIn).lookup name).map fun consequence => consequence.choices.map Choice.id).getD []

/-- Only a text that the flow knows has followers. -/
theorem choicesAfter_mem (after : choicesAfter last = .ok options) (member : option ∈ options) :
    ∃ name allowed, last = .text name ∧ flow.lookup name = some allowed ∧ option ∈ allowed := by
  unfold choicesAfter inTable at after
  split at after
  · rename_i name
    cases found : flow.lookup name with
    | none =>
      rw [found] at after
      cases after
      cases member
    | some allowed =>
      rw [found] at after
      cases after
      exact ⟨name, allowed, rfl, found, member⟩
  · split at after
    · cases after
      cases member
    · cases after

theorem mem_turns (after : choicesAfter last = .ok options) (member : option ∈ options) : option.id ∈ turns := by
  have every : ∀ entry ∈ flow, ∀ option ∈ entry.2, option.id ∈ turns := by decide
  obtain ⟨name, allowed, -, found, inside⟩ := choicesAfter_mem after member
  obtain ⟨before, rest, split, -⟩ := lookup_eq_some_iff.mp found
  exact every (name, allowed) (by simp [split]) option inside

/-- The two tables agree after a turn only if the turn closes the tale. -/
theorem offers_followers_iff (turn : name ∈ turns) :
    (∀ following, following ∈ followers name ↔ following ∈ offers name) ↔ name ∈ closing := by
  have apart : ∀ name ∈ turns, name ∉ closing →
      ∃ following ∈ followers name ++ offers name, ¬(following ∈ followers name ↔ following ∈ offers name) := by
    decide
  have none_ : ∀ name ∈ closing, followers name = offers name := by decide
  constructor
  · intro agree
    by_cases closes : name ∈ closing
    · exact closes
    · obtain ⟨following, -, differs⟩ := apart name turn closes
      exact absurd (agree following) differs
  · intro closes following
    rw [none_ name closes]

theorem lookup_consequences_eq_none_iff (prompts : Prompts) (name : String) :
    (consequences prompts).lookup name = none ↔ name ∉ (consequences builtIn).map fst := by
  have names : (consequences builtIn).map fst = (consequences prompts).map fst := rfl
  rw [lookup_eq_none_iff, names]
  simp only [mem_map, bne_iff_ne, ne_eq, not_exists, not_and]
  exact ⟨fun absent entry member same => absent entry member same.symm,
    fun absent entry member same => absent entry member same.symm⟩

/-- A turn has a consequence unless it is among the untold ones, whatever the prompts. -/
theorem lookup_consequences_turn (turn : name ∈ turns) (prompts : Prompts) :
    (consequences prompts).lookup name = none ↔ name ∈ untold := by
  have names : ∀ name ∈ turns, name ∉ (consequences builtIn).map fst ↔ name ∈ untold := by decide
  exact (lookup_consequences_eq_none_iff prompts name).trans (names name turn)

/-- The prompts have no say in what is offered. -/
theorem offers_of_consequence {prompts : Prompts} {consequence : Consequence}
    (found : (consequences prompts).lookup name = some consequence) :
    consequence.choices.map Choice.id = offers name := by
  have same : ((consequences prompts).lookup name).map (fun consequence => consequence.choices.map Choice.id) =
      ((consequences builtIn).lookup name).map fun consequence => consequence.choices.map Choice.id := by
    simp only [consequences, lookup_cons, lookup_nil]
    repeat' split
    all_goals rfl
  rw [offers, ← same, found]
  rfl

/-! ### A followed choice -/

/-- After a choice the player may take exactly what the flow allows after it. -/
theorem accepts_followed {user : Value} {session : Fields} {tale : Tale}
    (isOpen : engine.isOpen = true) (key : user.isKey = true) (found : engine.find? user = some session)
    (following : Value) :
    (followed engine user (.text name) session answer tale).Accepts user following ↔
      ∃ next ∈ followers name, following = .text next := by
  have held : (followed engine user (.text name) session answer tale).find? user =
      some (advanced session (.text name) (textOf answer) engine.store.now) :=
    find?_changed (find?_changed found _) _
  have path : pathOf (advanced session (.text name) (textOf answer) engine.store.now) =
      pathOf session ++ [.text name] := by
    simp [pathOf, choicesOf_advanced]
  have stillOpen : (followed engine user (.text name) session answer tale).isOpen = true := isOpen
  rw [accepts_iff]
  simp only [held, Option.some.injEq, stillOpen, key, true_and, exists_eq_left']
  simp only [Follows, path, getLastD_concat, choicesAfter, inTable, bind, Except.bind, pure, Except.pure,
    Except.ok.injEq, exists_eq_left', followers, mem_map]
  constructor
  · rintro ⟨option, member, rfl⟩
    exact ⟨option.id, ⟨option, member, rfl⟩, rfl⟩
  · rintro ⟨next, ⟨option, member, rfl⟩, rfl⟩
    exact ⟨option, member, rfl⟩

theorem offered_segment (node : Value) (text : String) (choices : List Choice) :
    offered (replyOf (Tale.segment node text choices)) = (choices.map Choice.id).map .text := by
  have ids : (choices.map Choice.document).filterMap (·.field? "id") = (choices.map Choice.id).map .text := by
    induction choices with
    | nil => rfl
    | cons choice rest ih => simpa [Choice.document] using ih
  simp [offered, replyOf, Tale.segment, Choice.documents, -filterMap_map, ids]

theorem content_replyOf (answer : Value) : (replyOf answer).get? (.text "content") = some (.text (textOf answer)) := by
  simp [replyOf]

/-- A turn is told from its consequence, or by the placeholder if it has none; what is offered after it
is in either case what the table has. -/
theorem tell_turn {tale after : Tale} (begun : tale.current.truthy = true)
    (compose_ : tale.prompts.Compose) (turn : name ∈ turns)
    (told : (Tale.tell (.record [("choice", .text name)])).runFrom tale = (.ok answer, after)) :
    offered (replyOf answer) = (offers name).map .text ∧
      ((∃ consequence, (consequences tale.prompts).lookup name = some consequence ∧
          ((compose consequence.template).runFrom tale.chance).1 = .ok (textOf answer)) ∨
        ((consequences tale.prompts).lookup name = none ∧ textOf answer = "No story text available")) := by
  have named : name ≠ "" := by
    rintro rfl
    revert turn
    decide
  cases found : (consequences tale.prompts).lookup name with
  | some consequence =>
    obtain ⟨text, composed⟩ := composes_consequence compose_ found tale.chance
    rw [tell_consequence begun named found (Prod.ext composed rfl)] at told
    obtain rfl : Tale.segment (.text name) text consequence.choices = answer :=
      Except.ok.inj (congrArg fst told)
    refine ⟨by rw [offered_segment, offers_of_consequence found], .inl ⟨consequence, rfl, ?_⟩⟩
    simpa [textOf, Tale.segment, text?] using composed
  | none =>
    rw [tell_unknown begun named found] at told
    obtain rfl := Except.ok.inj (congrArg fst told)
    have unoffered : offers name = [] := by
      have absent := (lookup_consequences_eq_none_iff builtIn name).mpr
        ((lookup_consequences_eq_none_iff tale.prompts name).mp found)
      simp [offers, absent]
    refine ⟨?_, .inr ⟨rfl, ?_⟩⟩
    · simp [unoffered, offered, replyOf]
    · simp [textOf]

/-- A player who opens the first session of an engine is at the start of the tale. -/
theorem find?_open (housed : Housed engine.store.tree) (unused : engine.store.active = [])
    (room : 0 < engine.store.limit) (unheld : engine.held = []) (name : String) :
    ∃ session, (engine.after [.open_ (.text name)]).find? (.text name) = some session ∧
      pathOf session = [.text "start"] ∧ (engine.after [.open_ (.text name)]).isOpen = engine.isOpen := by
  obtain ⟨store, created, -⟩ := create_first housed unused room (.text name)
  obtain ⟨answer, told⟩ := tell_answers (.record [("choice", .text "start")]) engine.tale
  refine ⟨opening engine.store.now (idOf store.made) (.text name), ?_, ?_, ?_⟩
  · simp [after, Call.act, open_, onStore, onTale, created, hold, isKey, key?, told,
      unheld, holdIn, Entries.put, find?]
  · simp [pathOf, choicesOf, opening]
  · simp [after, Call.act, open_, onStore, onTale, created, hold, isKey, key?, told]

private theorem texts_agree_iff (taken shown : List String) :
    (∀ next, (∃ follower ∈ taken, next = text follower) ↔ next ∈ shown.map text) ↔
      ∀ following, following ∈ taken ↔ following ∈ shown := by
  constructor
  · intro agree following
    simpa using agree (.text following)
  · intro agree next
    simp only [agree, mem_map, eq_comm]

/-- In every run, an accepted choice is told by its own text exactly when it has a consequence, and by
the placeholder otherwise; what is offered after it is what the engine takes next exactly when the choice
closes the tale. So no accepted choice has both. -/
theorem choose_told_and_offered {now : Moment} {chance : Chance} {templates : Except Fault (Option Value)}
    {prompts : Except Fault Prompts} {engine : Engine} (started : start now chance templates prompts = .ok engine)
    (compose_ : engine.tale.prompts.Compose) (calls : List Call) {user choice : Value} {reply : Fields}
    {next : Engine} (accepted : (Engine.choose user choice).runFrom (engine.after calls) = (.ok reply, next)) :
    ∃ name ∈ turns, choice = .text name ∧
      (Tells (engine.after calls) name reply ↔ name ∉ untold) ∧
      (name ∈ untold → reply.get? (.text "content") = some (.text "No story text available")) ∧
      (OffersWhatFollows next user reply ↔ name ∈ closing) := by
  have reached := (begun_start started).after compose_ calls
  generalize engine.after calls = current at reached accepted
  have chosen := choose_chosen current user choice
  rw [accepted] at chosen
  cases chosen with
  | follows session answer tale isOpen key found may told =>
    obtain ⟨options, after, option, member, rfl⟩ := may
    have turn := mem_turns after member
    refine ⟨option.id, turn, rfl, ?_⟩
    have begun := reached.begun (find?_eq_some_held found)
    have composes : current.tale.prompts.Compose := reached.prompts_eq ▸ compose_
    obtain ⟨shown, text⟩ := tell_turn begun composes turn told
    have untold_iff := lookup_consequences_turn turn current.tale.prompts
    refine ⟨?_, ?_, ?_⟩
    · rcases text with ⟨consequence, known, composed⟩ | ⟨unknown, -⟩
      · have isTold : option.id ∉ untold := by simp [← untold_iff, known]
        exact ⟨fun _ => isTold, fun _ => ⟨consequence, textOf answer, known, composed, content_replyOf answer⟩⟩
      · refine ⟨?_, fun isTold => absurd (untold_iff.mp unknown) isTold⟩
        rintro ⟨consequence, text, known, -⟩
        simp [unknown] at known
    · intro isUntold
      rcases text with ⟨consequence, known, -⟩ | ⟨-, placeholder⟩
      · simp [untold_iff.mpr isUntold] at known
      · rw [content_replyOf, placeholder]
    · rw [← offers_followers_iff turn, ← texts_agree_iff, ← shown]
      exact forall_congr' fun next => iff_congr (accepts_followed isOpen key found next) Iff.rfl

/-- A player who investigates is offered other choices than the engine will take. -/
theorem investigate_offers_apart : ∃ engine reply next,
    start ⟨0⟩ {} (.ok (some .empty)) (.ok builtIn) = .ok engine ∧ engine.tale.prompts.Compose ∧
    (Engine.choose (.text "ann") (.text "investigate")).runFrom (engine.after [.open_ (.text "ann")]) =
      (.ok reply, next) ∧ ¬ OffersWhatFollows next (.text "ann") reply := by
  obtain ⟨engine, started⟩ : ∃ engine, start ⟨0⟩ {} (.ok (some .empty)) (.ok builtIn) = .ok engine := ⟨_, rfl⟩
  have compose_ : engine.tale.prompts.Compose := by
    cases started
    exact builtIn_compose
  obtain ⟨session, found, path, isOpen⟩ : ∃ session,
      (engine.after [.open_ (.text "ann")]).find? (.text "ann") = some session ∧
      pathOf session = [.text "start"] ∧ (engine.after [.open_ (.text "ann")]).isOpen = true := by
    cases started
    exact find?_open (Sessions.housed_start ⟨0⟩) rfl (by decide) rfl "ann"
  have may : Follows session (.text "investigate") := by
    rw [Follows, path]
    exact ⟨openingChoices, rfl, ⟨"investigate", "Investigate further"⟩, List.mem_cons_self, rfl⟩
  obtain ⟨reply, answered⟩ := accepts_iff.2 ⟨isOpen, rfl, session, found, may⟩
  obtain ⟨name, -, same, -, -, offers_iff⟩ :=
    choose_told_and_offered started compose_ [.open_ (.text "ann")] (Prod.ext answered rfl)
  cases same
  exact ⟨engine, reply, _, started, compose_, Prod.ext answered rfl, mt offers_iff.1 (by decide)⟩

end Playhouse.Engine
