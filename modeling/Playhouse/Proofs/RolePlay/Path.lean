import Playhouse.Proofs.RolePlay.Offers
import Playhouse.Proofs.RolePlay.Sharing

/-!
The path of a session. In every run a held session is the record of the choices that were followed in it:
its choices are a path through the flow, its story is what the replies told, and where the flow ends it
stays as it is.
-/
namespace Playhouse.Engine
open Tale List Sessions Value

variable {choice : Value}

/-! ### The flow -/

/-- The flow has a choice among those that may follow another. -/
def Allows (last choice : Value) : Prop :=
  ∃ name options, last = .text name ∧ flow.lookup name = some options ∧ ∃ option ∈ options, choice = .text option.id

/-- How many choices can still follow one. -/
def height : Value → Nat
  | .text "start" => 3
  | .text "investigate" => 2
  | .text "hide" | .text "continue" => 1
  | _ => 0

theorem height_lt {last : Value} (allows : Allows last choice) : height choice < height last := by
  have every : ∀ entry ∈ flow, ∀ option ∈ entry.2, height (.text option.id) < height (.text entry.1) := by decide
  obtain ⟨name, options, rfl, found, option, member, rfl⟩ := allows
  obtain ⟨before, after, split, -⟩ := lookup_eq_some_iff.mp found
  exact every (name, options) (by simp [split]) option member

theorem length_le_height {first : Value} {rest : List Value} (chain : (first :: rest).IsChain Allows) :
    rest.length ≤ height first := by
  induction rest generalizing first with
  | nil => exact Nat.zero_le _
  | cons next rest ih =>
    obtain ⟨allows, chain_rest⟩ := isChain_cons_cons.1 chain
    have below := height_lt allows
    have shorter := ih chain_rest
    simp only [length_cons]
    omega

theorem Follows.allows {session : Fields} (may : Follows session choice) :
    Allows ((pathOf session).getLastD .null) choice := by
  obtain ⟨options, after, option, member, rfl⟩ := may
  obtain ⟨name, allowed, last, found, inside⟩ := choicesAfter_mem after member
  exact ⟨name, allowed, last, found, option, inside, rfl⟩

/-! ### Turns -/

/-- A choice that was followed: the id of the session it was made in, and the reply. -/
structure Turn where
  session : Value
  choice : Value
  reply : Fields

/-- The turn that a call takes, if it does. -/
def Call.turn? (engine : Engine) : Call → Option Turn
  | choose user choice =>
    match engine.find? user, ((Engine.choose user choice).runFrom engine).1 with
    | some session, .ok reply => some ⟨id session, choice, reply⟩
    | _, _ => none
  | _ => none

/-- The turns that a run takes, in order. -/
def turnsTaken (engine : Engine) : List Call → List Turn
  | [] => []
  | call :: rest => (call.turn? engine).toList ++ turnsTaken (call.act.runFrom engine).2 rest

/-- The turns of a run that are taken in one session. -/
def turnsIn (engine : Engine) (calls : List Call) (session : Fields) : List Turn :=
  (engine.turnsTaken calls).filter fun turn => turn.session.equal (id session)

theorem turnsTaken_concat (engine : Engine) (calls : List Call) (call : Call) :
    engine.turnsTaken (calls ++ [call]) = engine.turnsTaken calls ++ (call.turn? (engine.after calls)).toList := by
  induction calls generalizing engine with
  | nil => simp [turnsTaken, after]
  | cons first rest ih => simp [turnsTaken, ih, after]

/-! ### Traced sessions -/

/-- A session as some turns have made it. -/
structure Traced (session : Fields) (turns : List Turn) : Prop where
  choices : session.get? (.text "user_choices") = some (.list []) ∧ turns = [] ∨
    session.get? (.text "user_choices") = some (.list (.text "start" :: turns.map Turn.choice))
  chain : (.text "start" :: turns.map Turn.choice).IsChain Allows
  untold : turns = [] → session.get? (.text "story_text") = none
  story : turns ≠ [] → ∃ contents : List String,
    turns.map (fun turn => turn.reply.get? (.text "content")) = contents.map (fun content => some (.text content)) ∧
      session.get? (.text "story_text") = some (.text (String.join (contents.map ("\n" ++ ·))))

theorem traced_opening (now : Moment) (name : String) (user : Value) : Traced (opening now name user) [] := by
  refine ⟨.inl ⟨?_, rfl⟩, isChain_singleton _, fun _ => ?_, fun taken => absurd rfl taken⟩
  all_goals simp [opening]

section
variable {session : Fields} {turns : List Turn} (traced : Traced session turns)
include traced

theorem Traced.pathOf : pathOf session = .text "start" :: turns.map Turn.choice := by
  rcases traced.choices with ⟨untouched, rfl⟩ | path
  · simp [Engine.pathOf, choicesOf, untouched]
  · simp [Engine.pathOf, choicesOf, path]

theorem Traced.begun : Traced (begun session) turns := by
  refine ⟨.inr ?_, traced.chain, fun none_ => ?_, fun taken => ?_⟩
  · simp [Engine.begun, traced.pathOf]
  · simpa [Engine.begun] using traced.untold none_
  · simpa [Engine.begun] using traced.story taken

/-- The story so far, whether a turn was taken or not. -/
theorem Traced.storyOf : ∃ contents : List String,
    turns.map (fun turn => turn.reply.get? (.text "content")) = contents.map (fun content => some (.text content)) ∧
      storyOf session = String.join (contents.map ("\n" ++ ·)) := by
  by_cases taken : turns = []
  · exact ⟨[], by simp [taken], by simp [Engine.storyOf, traced.untold taken]⟩
  · obtain ⟨contents, told, story⟩ := traced.story taken
    exact ⟨contents, told, by simp [Engine.storyOf, story, text?]⟩

/-- A turn adds its choice to the path and its content to the story. -/
theorem Traced.advanced (may : Follows session choice) (answer : Value) (now : Moment) :
    Traced (advanced session choice (textOf answer) now) (turns ++ [⟨id session, choice, replyOf answer⟩]) := by
  have path := traced.pathOf
  have last := may.allows
  rw [path] at last
  obtain ⟨contents, told, story⟩ := traced.begun.storyOf
  refine ⟨.inr ?_, ?_, fun none_ => ?_, fun _ => ⟨contents ++ [textOf answer], ?_, ?_⟩⟩
  · simp [Engine.advanced, path]
  · rw [map_append, ← cons_append, isChain_append]
    refine ⟨traced.chain, isChain_singleton _, fun x ends y begins => ?_⟩
    rw [getLastD_eq_getLast?, ends, Option.getD_some] at last
    obtain rfl : choice = y := by simpa using begins
    exact last
  · simp at none_
  · simp [told, content_replyOf]
  · simp [Engine.advanced, story, String.append_assoc]

end

/-! ### Runs -/

/-- In a run, every held session is as the turns taken in it have made it, and turns were taken only in
sessions that were made. -/
structure Traces (turns : List Turn) (engine : Engine) : Prop where
  held : ∀ entry ∈ engine.held, Traced entry.2 (turns.filter fun turn => turn.session.equal (id entry.2))
  made : ∀ turn ∈ turns, ∃ n ≤ engine.store.made, turn.session = .text (idOf n)

section
variable {engine next : Engine} {turns : List Turn} {user : Value} {session : Fields} (traces : Traces turns engine)
include traces

theorem Traces.changed (shared : Shared engine) (found : engine.find? user = some session) {later : Fields}
    (same_id : id later = id session) (taken : List Turn) (here : ∀ turn ∈ taken, turn.session = id session)
    (traced : Traced later ((turns.filter fun turn => turn.session.equal (id session)) ++ taken)) :
    Traces (turns ++ taken) (changed user later engine) := by
  obtain ⟨key, n, inside, below, named⟩ := shared.of_find? found
  refine ⟨fun entry member => ?_, ?_⟩
  · rcases mem_changed shared found member with ⟨now, -⟩ | ⟨held, elsewhere⟩
    · have all : (taken.filter fun turn => turn.session.equal (id session)) = taken := by
        refine filter_eq_self.2 fun turn member => ?_
        rw [here turn member, named, equal_text]
      rwa [now, same_id, filter_append, all]
    · obtain ⟨m, -, named_entry⟩ := shared.named entry held
      have none_ : (taken.filter fun turn => turn.session.equal (id entry.2)) = [] := by
        refine filter_eq_nil_iff.2 fun turn member same => ?_
        rw [here turn member, named_entry, equal_text] at same
        exact elsewhere (named_entry.trans same.symm)
      rw [filter_append, none_, append_nil]
      exact traces.held entry held
  · rw [changed_made]
    exact forall_mem_append.2 ⟨traces.made, fun turn member => ⟨n, below, (here turn member).trans named⟩⟩

/-- Nothing that leaves the held sessions alone takes a turn. -/
theorem Traces.frame (held : next.held.Sublist engine.held)
    (made : engine.store.made ≤ next.store.made) : Traces turns next := by
  exact ⟨fun entry member => traces.held entry (held.subset member),
    fun turn member => given_mono made (traces.made turn member)⟩

theorem Traces.entered {entries : List (Value × Value)} {store : Sessions} {tale : Tale}
    (opened : Opened user entries engine.store store) : Traces turns (entered user store tale engine) := by
  have grown : engine.store.made ≤ store.made := opened.made ▸ Nat.le_succ _
  refine ⟨fun entry member => ?_, fun turn member => ?_⟩
  · rcases mem_holdIn member with ⟨new, -⟩ | held
    -- No turn was taken yet under an id that is new.
    · have fresh : (turns.filter fun turn => turn.session.equal (id entry.2)) = [] := by
        refine filter_eq_nil_iff.2 fun turn member same => ?_
        rw [new, id_opening, equal_text, opened.made] at same
        exact ne_next (traces.made turn member) same
      rw [fresh, new]
      exact traced_opening _ _ _
    · exact traces.held entry held
  · exact given_mono grown (traces.made turn member)

/-- Every call keeps the held sessions traced, by the turn that it takes if it does. -/
theorem Traces.does {call : Call} (shared : Shared engine) (does : Does engine call next) :
    Traces (turns ++ (call.turn? engine).toList) next := by
  have frame (held : next.held.Sublist engine.held) (made : engine.store.made ≤ next.store.made)
      (quiet : call.turn? engine = none) : Traces (turns ++ (call.turn? engine).toList) next := by
    simpa [quiet] using traces.frame held made
  cases does with
  | opens ran entered =>
    cases entered with
    | stuck undated | refused live full => exact frame (Sublist.refl _) (Nat.le_refl _) rfl
    | unkeyed key opened => exact frame (Sublist.refl _) (opened.made ▸ Nat.le_succ _) rfl
    | opened key listed few opened told => simpa [Call.turn?] using traces.entered opened
  | @chooses user choice _ ran chosen =>
    cases chosen with
    | refused fault => exact frame (Sublist.refl _) (Nat.le_refl _) (by simp [Call.turn?, ran])
    | strayed session fault found =>
      have quiet : (Call.choose user choice).turn? engine = none := by simp [Call.turn?, ran]
      obtain ⟨key, -, inside⟩ := mem_held_of_find? found
      have traced := (traces.held _ inside).begun
      simpa [quiet] using traces.changed shared found (id_begun session) [] nofun (by simpa using traced)
    | follows session answer tale isOpen key found may told =>
      have takes : (Call.choose user choice).turn? engine = some ⟨id session, choice, replyOf answer⟩ := by
        simp [Call.turn?, ran, found]
      obtain ⟨key, -, inside⟩ := mem_held_of_find? found
      have traced := (traces.held _ inside).advanced may answer engine.store.now
      have changed := traces.changed shared found (id_advanced session choice (textOf answer) engine.store.now)
        [⟨id session, choice, replyOf answer⟩] (forall_mem_singleton.2 rfl) traced
      rw [takes, shared.followed_eq found]
      exact changed.frame (Sublist.refl _) (Nat.le_refl _)
  | analyzes user => exact frame (Sublist.refl _) (Nat.le_refl _) rfl
  | closes => exact frame (nil_sublist _) (Nat.le_refl _) rfl
  | waits seconds => exact frame (Sublist.refl _) (Nat.le_refl _) rfl

end

theorem traces_after {now : Moment} {chance : Chance} {templates : Except Fault (Option Value)}
    {prompts : Except Fault Prompts} {engine : Engine} (started : start now chance templates prompts = .ok engine)
    (calls : List Call) : Traces (engine.turnsTaken calls) (engine.after calls) := by
  refine (shared_start started).along (P := fun before reached => Traces (engine.turnsTaken before) reached) calls ?_ ?_
  · obtain ⟨told, -, rfl⟩ := start_eq started
    exact ⟨nofun, nofun⟩
  · intro before call next leads reached does traces
    rw [turnsTaken_concat]
    exact traces.does reached does

theorem begun_of_chosen {session : Fields} (chosen : choicesOf session ≠ []) : begun session = session := by
  have path : pathOf session = choicesOf session := by simp [pathOf, chosen]
  have held : session.get? (.text "user_choices") = some (.list (choicesOf session)) := by
    unfold choicesOf at chosen ⊢
    split at chosen
    · rename_i choices held
      simp [held]
    · exact absurd rfl chosen
  rw [begun, path]
  exact Fields.set_of_get? held

/-- A choice is refused and changes nothing where the flow does not go on. -/
theorem choose_at_end {engine : Engine} {user : Value} {session : Fields} {name : String} (shared : Shared engine)
    (found : engine.find? user = some session) (last : (choicesOf session).getLast? = some (.text name))
    (ends : flow.lookup name = none) (choice : Value) :
    ∃ fault : Fault, fault.family = .value ∧ (choose user choice).runFrom engine = (.error fault, engine) := by
  cases isOpen : engine.isOpen with
  | false => exact ⟨.closed, rfl, by simp [choose, isOpen]⟩
  | true =>
    have chosen : choicesOf session ≠ [] := by
      intro none_
      rw [none_] at last
      cases last
    have path : pathOf session = choicesOf session := by simp [pathOf, chosen]
    have none_left : choicesAfter ((pathOf session).getLastD .null) = .ok [] := by
      rw [path, getLastD_eq_getLast?, last]
      simp [choicesAfter, inTable, ends]
    refine ⟨.wrongTurn choice ((pathOf session).getLastD .null), rfl, ?_⟩
    rw [choose_found isOpen (shared.isKey found) found, none_left, begun_of_chosen chosen, shared.changed_self found]
    rfl

/-- In every run, the choices of a held session are none, or the start and then exactly those that were
followed in the session, in order; the flow allows each after the one before it, so that they are at most
three; the story is what the replies told, each on a new line; and once the flow has nothing to follow the
last choice, every further one is refused and changes nothing. -/
theorem held_session_traces_flow {now : Moment} {chance : Chance} {templates : Except Fault (Option Value)}
    {prompts : Except Fault Prompts} {engine : Engine} (started : start now chance templates prompts = .ok engine)
    (calls : List Call) {key : Value} {session : Fields} (held : (key, session) ∈ (engine.after calls).held) :
    let turns := engine.turnsIn calls session
    (session.get? (.text "user_choices") = some (.list []) ∧ turns = [] ∨
      session.get? (.text "user_choices") = some (.list (.text "start" :: turns.map Turn.choice))) ∧
    (choicesOf session).IsChain Allows ∧
    (turns ≠ [] → ∃ contents : List String,
      turns.map (fun turn => turn.reply.get? (.text "content")) = contents.map (fun content => some (.text content)) ∧
        session.get? (.text "story_text") = some (.text (String.join (contents.map ("\n" ++ ·))))) ∧
    turns.length ≤ 3 ∧
    ∀ name, (choicesOf session).getLast? = some (.text name) → flow.lookup name = none →
      ∀ user, (engine.after calls).find? user = some session → ∀ choice, ∃ fault : Fault, fault.family = .value ∧
        (choose user choice).runFrom (engine.after calls) = (.error fault, engine.after calls) := by
  intro turns
  have traced : Traced session turns := (traces_after started calls).held _ held
  refine ⟨traced.choices, ?_, traced.story, ?_, fun name last ends user found choice => ?_⟩
  · rcases traced.choices with ⟨untouched, -⟩ | path
    · simp [choicesOf, untouched]
    · simpa [choicesOf, path] using traced.chain
  · simpa [height] using length_le_height traced.chain
  · exact choose_at_end ((shared_start started).after calls) found last ends choice

/-- Investigating, hiding and waiting takes a player to the end of the flow; fighting on the way is refused
and leaves no trace. -/
theorem hidden_player_reaches_end : ∃ engine session, ∃ calls : List Call,
    calls = [.open_ (.text "ann"), .choose (.text "ann") (.text "investigate"), .choose (.text "ann") (.text "hide"),
      .choose (.text "ann") (.text "fight"), .choose (.text "ann") (.text "wait")] ∧
    start ⟨0⟩ {} (.ok (some .empty)) (.ok builtIn) = .ok engine ∧
    (.text "ann", session) ∈ (engine.after calls).held ∧ (engine.turnsIn calls session).length = 3 ∧
    ∀ choice, ((choose (.text "ann") choice).runFrom (engine.after calls)).2 = engine.after calls := by
  let engine : Engine := { store := Sessions.start ⟨0⟩, tale := { prompts := builtIn, chance := {} } }
  let calls : List Call := [.open_ (.text "ann"), .choose (.text "ann") (.text "investigate"),
    .choose (.text "ann") (.text "hide"), .choose (.text "ann") (.text "fight"), .choose (.text "ann") (.text "wait")]
  have path : ((engine.after calls).find? (.text "ann")).map (fun session => (choicesOf session).map Value.text?) =
      some [some "start", some "investigate", some "hide", some "wait"] := by
    decide +kernel
  obtain ⟨session, found, made⟩ := Option.map_eq_some_iff.1 path
  obtain ⟨key, same, held⟩ := mem_held_of_find? found
  obtain rfl : key = .text "ann" := by simpa using same
  have last : (choicesOf session).getLast? = some (.text "wait") := by
    have texts := congrArg List.getLast? made
    rw [List.getLast?_map] at texts
    obtain ⟨choice, here, text⟩ := Option.map_eq_some_iff.1 texts
    cases choice <;> simp_all [Value.text?]
  obtain ⟨choices, -, -, -, ends⟩ := held_session_traces_flow
    (rfl : start ⟨0⟩ {} (.ok (some .empty)) (.ok builtIn) = .ok engine) calls held
  refine ⟨engine, session, calls, rfl, rfl, held, ?_, fun choice => ?_⟩
  · rcases choices with ⟨untouched, -⟩ | choices
    · simp [choicesOf, untouched] at made
    · have count := congrArg List.length made
      simpa [choicesOf, choices] using count
  · obtain ⟨fault, -, refused⟩ := ends "wait" last rfl (.text "ann") found choice
    rw [refused]

end Playhouse.Engine
