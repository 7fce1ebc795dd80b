import Playhouse.Proofs.RolePlay.Idleness
import Playhouse.Proofs.RolePlay.Offers
import Playhouse.Proofs.Session.Count

/-!
What a player has of the engine: the choices made in the session that is held, and of each session in
memory when it was last active. What becomes of the player's calls, and of what the player has, depends on
nothing else; and other players touch it only by clearing idle sessions away.
-/
namespace Playhouse.Engine
open Sessions List Tale Value Except
open Sessions (idOf isIdle lastActivity ownerIs)

variable {entries : List (Value × Value)} {store : Sessions} {user : Value} {now : Moment}

/-! ### Plays -/

/-- What a player does, or the time that passes. -/
inductive Play where
  | open_ (name : String)
  | choose (name : String) (choice : Value)
  | wait (seconds : Number)

open Play

def Play.call : Play → Call
  | open_ name => .open_ (.text name)
  | choose name choice => .choose (.text name) choice
  | wait seconds => .wait seconds

/-- The engine after some plays. -/
def played (engine : Engine) (plays : List Play) : Engine := engine.after (plays.map call)

theorem played_concat (engine : Engine) (plays : List Play) (play : Play) :
    engine.played (plays ++ [play]) = (play.call.act.runFrom (engine.played plays)).2 := by
  rw [played, map_append, map_singleton, after_concat, played]

/-- What a player's call leaves, whatever it answers. -/
theorem next_open (engine : Engine) (name : String) :
    ((Play.open_ name).call.act.runFrom engine).2 = ((Engine.open_ (.text name)).runFrom engine).2 := by
  simp [call, Call.act]

theorem next_choose (engine : Engine) (name : String) (choice : Value) :
    ((Play.choose name choice).call.act.runFrom engine).2 = ((Engine.choose (.text name) choice).runFrom engine).2 := by
  simp [call, Call.act]

/-! ### Owners -/

/-- Each session in memory has an owner, and each that is held is its holder's. -/
structure Tended (engine : Engine) : Prop where
  active : ∀ entry ∈ engine.store.active, ∃ fields, entry.2 = .record fields ∧ Owned fields
  held : ∀ entry ∈ engine.held, ∃ name, entry.1 = .text name ∧ entry.2.get? (.text "user_id") = some (.text name)

/-- An engine as plays leave it. -/
structure Steady (prompts : Prompts) (engine : Engine) : Prop extends Tended engine where
  shared : Shared engine
  timely : Timely engine
  begun : Begun prompts engine
  isOpen : engine.isOpen = true
  limit : engine.store.limit = 3

theorem Turned.owner {choice : Value} {session later : Fields} (turned : Turned now choice session later) :
    later.get? (.text "user_id") = session.get? (.text "user_id") := by
  cases turned <;> simp [Engine.advanced, Engine.begun]

theorem owner_opening (now : Moment) (id : String) (user : Value) :
    (opening now id user).get? (.text "user_id") = some user := by
  simp [opening]

theorem choicesOf_opening (now : Moment) (id : String) (user : Value) : choicesOf (opening now id user) = [] := by
  simp [choicesOf, opening]

/-- What a player finds after a player's session has been held. -/
theorem find?_holdIn_text (name other : String) (session : Fields) (held : List (Value × Fields)) :
    ((holdIn (.text name) session held).find? fun entry => entry.1.equal (.text other)).map Prod.snd =
      if other = name then some session else (held.find? fun entry => entry.1.equal (.text other)).map Prod.snd := by
  have put := Entries.find?_put (tests_text name) (tests_text other) session held
  simp only [text_equal, text.injEq] at put
  exact put

theorem find?_changed_text (later : Fields) (engine : Engine) (name other : String) :
    (changed (.text name) later engine).find? (.text other) =
      if other = name then some later else engine.find? (.text other) :=
  find?_holdIn_text name other later engine.held

theorem find?_entered (store : Sessions) (tale : Tale) (engine : Engine) (name other : String) :
    (entered (.text name) store tale engine).find? (.text other) =
      if other = name then some (opening engine.store.now (idOf store.made) (.text name))
      else engine.find? (.text other) :=
  find?_holdIn_text name other _ engine.held

section
variable {prompts : Tale.Prompts} {engine : Engine} {session later : Fields} {name : String} {choice : Value}

section
variable (steady : Steady prompts engine)
include steady

theorem Steady.owner (found : engine.find? (.text name) = some session) :
    session.get? (.text "user_id") = some (.text name) := by
  obtain ⟨key, same, inside⟩ := mem_held_of_find? found
  obtain ⟨other, rfl, owner⟩ := steady.held _ inside
  obtain rfl : other = name := by simpa using same
  exact owner

theorem Steady.tended_changed (found : engine.find? (.text name) = some session)
    (turned : Turned now choice session later) : Tended (changed (.text name) later engine) := by
  refine ⟨steady.shared.forall_active_changed found turned.id_eq steady.active
    ⟨later, rfl, name, turned.owner.trans (steady.owner found)⟩, fun entry member => ?_⟩
  rcases mem_changed steady.shared found member with ⟨here, held⟩ | ⟨held, -⟩
  · obtain ⟨other, key, owned⟩ := steady.held _ held
    exact ⟨other, key, here ▸ turned.owner.trans owned⟩
  · exact steady.held entry held

theorem Steady.tended_entered (opened : Opened (.text name) entries engine.store store) (tale : Tale) :
    Tended (entered (.text name) store tale engine) := by
  refine ⟨fun entry member => ?_, fun entry member => ?_⟩
  · rw [entered, opened.active, mem_putIn_iff (steady.shared.cleaned opened.live).once] at member
    rcases member with rfl | ⟨member, -⟩
    · exact ⟨_, rfl, name, owner_opening _ _ _⟩
    · exact steady.active entry ((filterM_sublist opened.live).subset member)
  · rcases mem_holdIn member with ⟨new, here⟩ | held
    · have key : entry.1 = .text name := here.elim (fun new => new) fun old => by simpa using old.1
      exact ⟨name, key, new ▸ owner_opening _ _ _⟩
    · exact steady.held entry held

end

/-- Every play leaves the engine steady. -/
theorem Steady.play (compose_ : prompts.Compose) (steady : Steady prompts engine) (dated : engine.store.now.InCalendar)
    (play : Play) : Steady prompts (play.call.act.runFrom engine).2 := by
  have shared := steady.shared
  have does := act_does shared.housed play.call
  have shared_next := shared.does does
  have timely_next := steady.timely.does shared dated does
  have begun_next := steady.begun.call compose_ play.call
  generalize (play.call.act.runFrom engine).2 = next at does shared_next timely_next begun_next
  have rest : next.isOpen = true ∧ next.store.limit = 3 ∧ Tended next := by
    cases play with
    | open_ name =>
      cases does with
      | opens ran entered =>
        cases entered with
        | stuck undated => exact ⟨steady.isOpen, steady.limit, steady.toTended⟩
        | refused live full =>
          have fewer := filterM_sublist live
          exact ⟨steady.isOpen, steady.limit, fun entry member => steady.active entry (fewer.subset member), steady.held⟩
        | unkeyed key opened => cases key
        | opened key listed few opened told =>
          exact ⟨steady.isOpen, opened.limit.trans steady.limit, steady.tended_entered opened _⟩
    | choose name choice =>
      cases does with
      | chooses ran chosen =>
        rcases shared.chosen chosen with same | ⟨session, later, tale, found, turned, left⟩
        · exact same ▸ ⟨steady.isOpen, steady.limit, steady.toTended⟩
        · have tended := steady.tended_changed found turned
          refine left ▸ ⟨steady.isOpen, ?_, tended.active, tended.held⟩
          exact (changed_limit (.text name) _ engine).trans steady.limit
    | wait seconds =>
      cases does with
      | waits => exact ⟨steady.isOpen, steady.limit, ⟨steady.active, steady.held⟩⟩
  exact ⟨rest.2.2, shared_next, timely_next, begun_next, rest.1, rest.2.1⟩

variable {plays : List Play}

/-- The clock of a run shows a date of the calendar when it comes to a play. -/
theorem Steady.dated_played (steady : Steady prompts engine) {play : Play}
    (dated : Dated engine.store.now ((plays ++ [play]).map call)) :
    (engine.played plays).store.now.InCalendar := by
  rw [played, steady.shared.now_after]
  exact dated _ ((mem_inits _ _).2 (by simp))

theorem dated_of_concat {play : Play} (dated : Dated now ((plays ++ [play]).map call)) :
    Dated now (plays.map call) :=
  dated.of_prefix (by simp)

theorem Steady.played (compose_ : prompts.Compose) (steady : Steady prompts engine)
    (dated : Dated engine.store.now (plays.map call)) : Steady prompts (engine.played plays) := by
  induction plays using reverseRecOn with
  | nil => exact steady
  | append_singleton before play ih =>
    rw [played_concat]
    exact (ih (dated_of_concat dated)).play compose_ (steady.dated_played dated) play

end

/-! ### Seats -/

/-- What matters of a player's session: when it was last active, and whether the player is at it. -/
structure Seat where
  last : Option Moment
  isTaken : Bool

namespace Seat

def isIdle (now : Moment) (seat : Seat) : Bool := seat.last.any fun last => timeout < now.micros - last.micros

/-- The seat once its player has been active, if the player is at it. -/
def renewed (last : Option Moment) (seat : Seat) : Seat := if seat.isTaken then ⟨last, true⟩ else seat

/-- The seat once its player has gone to another. -/
def left (seat : Seat) : Seat := { seat with isTaken := false }

end Seat

/-- A session as its player left it: the one that the player is at, if it is that one. -/
def asLeft (current : Option Fields) (entry : Value × Value) : Value × Value :=
  match current with
  | some session => if entry.1.equal (id session) then (entry.1, .record session) else entry
  | none => entry

def seatOf (current : Option Fields) (entry : Value × Value) : Seat where
  last := lastActivity (asLeft current entry).2
  isTaken := current.any fun session => entry.1.equal (id session)

/-- The seats of a player in memory. -/
def seats (engine : Engine) (name : String) : List Seat :=
  (engine.store.active.filter fun entry => ownerIs (.text name) entry.2).map (seatOf (engine.find? (.text name)))

theorem isIdle_asLeft (now : Moment) (current : Option Fields) (entry : Value × Value) :
    isIdle now (asLeft current entry).2 = (seatOf current entry).isIdle now := rfl

section
variable {prompts : Tale.Prompts} {engine : Engine} {session later : Fields} {name : String} {entry : Value × Value}

section
variable (shared : Shared engine)
include shared

/-- What is in memory is as its player left it. -/
theorem Shared.asLeft_eq (member : entry ∈ engine.store.active) : asLeft (engine.find? (.text name)) entry = entry := by
  cases found : engine.find? (.text name) with
  | none => rfl
  | some session =>
    obtain ⟨key, n, inside, -, named⟩ := shared.of_find? found
    rw [asLeft]
    split
    · rename_i here
      rw [named, equal_text] at here
      have stored : engine.store.find? (.text (idOf n)) = some entry.2 := by
        rw [find?_eq_some_iff shared.once, ← here]
        exact member
      exact Prod.ext rfl (shared.same _ inside _ (named ▸ stored)).symm
    · rfl

theorem Shared.isIdle_eq (member : entry ∈ engine.store.active) (name : String) (now : Moment) :
    isIdle now entry.2 = (seatOf (engine.find? (.text name)) entry).isIdle now := by
  rw [← isIdle_asLeft, shared.asLeft_eq member]

/-- Sessions of a player that are picked by whether they are idle are the seats picked so. -/
theorem Shared.seats_where (name : String) (keeps : Bool → Bool) : (engine.store.active.filter fun entry =>
        ownerIs (.text name) entry.2 && keeps (isIdle engine.store.now entry.2)).map
        (seatOf (engine.find? (.text name))) =
      (seats engine name).filter fun seat => keeps (seat.isIdle engine.store.now) := by
  rw [seats, filter_map, filter_filter]
  refine congrArg (List.map _) (filter_congr fun entry member => ?_)
  rw [shared.isIdle_eq member name, Bool.and_comm]
  rfl

/-- The seats that are kept where the idle sessions are cleared away. -/
theorem Shared.seats_cleared (name : String) :
    ((engine.store.active.filter fun entry => !isIdle engine.store.now entry.2).filter
        fun entry => ownerIs (.text name) entry.2).map (seatOf (engine.find? (.text name))) =
      (seats engine name).filter fun seat => !seat.isIdle engine.store.now := by
  rw [filter_filter]
  exact shared.seats_where name not

end
/-! ### Choices and openings -/

theorem seatOf_later (same_id : id later = id session) (entry : Value × Value) :
    seatOf (some later) entry = (seatOf (some session) entry).renewed (lastActivity (.record later)) := by
  cases here : entry.1.equal (id session) <;> simp [seatOf, asLeft, Seat.renewed, same_id, here]

/-- The choices that count as made. -/
def counted (made : List Value) : List Value := if made.isEmpty then [.text "start"] else made

/-- The choices made in the session that a player is at. -/
def madeBy (engine : Engine) (name : String) : Option (List Value) := (engine.find? (.text name)).map choicesOf

/-- What a player is offered for a choice, or why it is refused, by the choices made before. -/
def verdict (made : Option (List Value)) (choice : Value) : Except Fault (List Value) :=
  match made with
  | none => .error .noPlayer
  | some made =>
    match choicesAfter ((counted made).getLastD .null) with
    | .error fault => .error fault
    | .ok options =>
      if options.any fun option => choice.equal (.text option.id) then
        .ok (((choice.text?.map offers).getD []).map .text)
      else .error (.wrongTurn choice ((counted made).getLastD .null))

/-- A seat after a choice of its player. -/
def Seat.moved (now : Moment) : Except Fault (List Value) → Seat → Seat
  | .ok _, seat => seat.renewed (some now)
  | .error _, seat => seat

/-- The choices made once one more has got its verdict. -/
def madeNext (choice : Value) (made : List Value) : Except Fault (List Value) → List Value
  | .ok _ => counted made ++ [choice]
  | .error _ => counted made

/-- What has become of what a player has, once a choice has got its verdict. -/
structure Moved (engine next : Engine) (name : String) (choice : Value) (result : Except Fault (List Value)) :
    Prop where
  made : madeBy next name = (madeBy engine name).map fun made => madeNext choice made result
  seats : seats next name = (seats engine name).map (Seat.moved engine.store.now result)
  seat : ∀ entry, seatOf (next.find? (.text name)) entry =
    Seat.moved engine.store.now result (seatOf (engine.find? (.text name)) entry)

theorem seatOf_begun (session : Fields) : seatOf (some (begun session)) = seatOf (some session) := by
  funext entry
  rw [seatOf_later (id_begun session), lastActivity_begun, ← seatOf_later rfl]

theorem seatOf_opening {n : Nat} (older : entry.1 ≠ .text (idOf n)) :
    seatOf (some (opening now (idOf n) user)) entry = ⟨lastActivity entry.2, false⟩ := by
  simp [seatOf, asLeft, id_opening, older]

/-- The seats of a player that are not idle. -/
def liveSeats (engine : Engine) (name : String) : List Seat :=
  (seats engine name).filter fun seat => !seat.isIdle engine.store.now

theorem Shared.length_liveSeats (shared : Shared engine) (name : String) :
    (liveSeats engine name).length = engine.store.liveCount (.text name) := by
  rw [liveSeats, ← shared.seats_cleared, length_map, filter_filter, ← countP_eq_length_filter]
  rfl

/-- What has become of what a player has, once the player has opened a session or was refused one. -/
inductive Seated (engine next : Engine) (name : String) : Except Fault (List Value) → Prop
  | full (many : 3 ≤ (liveSeats engine name).length) (finds : next.find? (.text name) = engine.find? (.text name))
      (seats : seats next name = liveSeats engine name) : Seated engine next name (.error (.sessionLimit 3))
  | fresh (few : (liveSeats engine name).length < 3)
      (finds : next.find? (.text name) = some (opening engine.store.now (idOf (engine.store.made + 1)) (.text name)))
      (seats : seats next name = (liveSeats engine name).map Seat.left ++ [⟨some engine.store.now, true⟩]) :
      Seated engine next name (.ok (openingChoices.map fun choice => .text choice.id))

section
variable {other : String} {choice : Value} (steady : Steady prompts engine)
include steady

/-! ### A change of a session -/

/-- A change of the session that a player is at shows in the player's seat there. -/
theorem Steady.seats_changed (found : engine.find? (.text name) = some session)
    (turned : Turned now choice session later) : seats (changed (.text name) later engine) name =
      (seats engine name).map (Seat.renewed (lastActivity (.record later))) := by
  obtain ⟨key, n, -, -, named⟩ := steady.shared.of_find? found
  have owned := steady.owner found
  have later_seat : seatOf (some later) = Seat.renewed (lastActivity (.record later)) ∘ seatOf (some session) :=
    funext (seatOf_later turned.id_eq)
  simp only [seats, find?_changed_text, if_pos, found, map_map]
  rcases steady.shared.active_changed found turned.id_eq with same | ⟨before, after, active, put⟩
  · rw [same, later_seat]
  · have mine : ownerIs (.text name) (.record session) = true := (ownerIs_iff owned).2 rfl
    have mine_later : ownerIs (.text name) (.record later) = true := (ownerIs_iff (turned.owner.trans owned)).2 rfl
    -- The entry of the held session counts as the player has it, whichever of the two memory has.
    have here : seatOf (some session) (id session, .record later) =
        seatOf (some session) (id session, .record session) := by
      simp [seatOf, asLeft, named]
    rw [put, active]
    simp [mine, mine_later, here, later_seat]

/-- A change of one player's session is not seen by the others. -/
theorem Steady.seats_changed_other (found : engine.find? (.text name) = some session)
    (turned : Turned now choice session later) (differs : other ≠ name) :
    seats (changed (.text name) later engine) other = seats engine other := by
  have owned := steady.owner found
  simp only [seats, find?_changed_text, if_neg differs]
  rcases steady.shared.active_changed found turned.id_eq with same | ⟨before, after, active, put⟩
  · rw [same]
  · have foreign {fields : Fields} (owned : fields.get? (.text "user_id") = some (.text name)) :
        ownerIs (.text other) (.record fields) = false := by
      rw [← Bool.not_eq_true, ownerIs_iff owned]
      simpa using differs
    rw [put, active]
    simp [foreign owned, foreign (turned.owner.trans owned)]

/-! ### A choice -/

theorem Steady.strays (found : engine.find? (.text name) = some session) (choice : Value) (fault : Fault) :
    Moved engine (changed (.text name) (Engine.begun session) engine) name choice (.error fault) := by
  have finds := find?_changed found (Engine.begun session)
  refine ⟨?_, ?_, fun entry => ?_⟩
  · rw [madeBy, madeBy, finds, found]
    exact congrArg some (choicesOf_set session (pathOf session))
  · rw [steady.seats_changed found (@Turned.begun engine.store.now choice session), seats, found, ← seatOf_begun,
      map_map, map_map]
    refine map_congr_left fun entry member => ?_
    exact (seatOf_later rfl entry).symm
  · rw [finds, found, seatOf_begun]
    rfl

theorem Steady.follows (dated : engine.store.now.InCalendar)
    (found : engine.find? (.text name) = some session) (choice answer : Value) (tale : Tale) (offers : List Value) :
    Moved engine (followed engine (.text name) choice session answer tale) name choice (.ok offers) := by
  rw [steady.shared.followed_eq found]
  have active := lastActivity_advanced dated session choice (textOf answer)
  have turned := @Turned.advanced engine.store.now choice session (textOf answer)
  have choices := choicesOf_advanced session choice (textOf answer) engine.store.now
  have moves := steady.seats_changed found turned
  generalize advanced session choice (textOf answer) engine.store.now = later at active turned choices moves
  rw [active] at moves
  have finds := find?_changed found later
  have made : madeBy (changed (.text name) later engine) name = some (counted (choicesOf session) ++ [choice]) := by
    rw [madeBy, finds, Option.map_some, choices]
    rfl
  have seat (entry : Value × Value) : seatOf ((changed (.text name) later engine).find? (.text name)) entry =
      (seatOf (engine.find? (.text name)) entry).renewed (some engine.store.now) := by
    rw [finds, found, seatOf_later turned.id_eq, active]
  refine ⟨made.trans ?_, moves, seat⟩
  rw [madeBy, found]
  rfl

/-- What becomes of a choice is settled by the choices that its player has made. -/
theorem Steady.chooses (compose_ : prompts.Compose) (dated : engine.store.now.InCalendar) (name : String) (choice : Value) :
    ((choose (.text name) choice).runFrom engine).1.map offered = verdict (madeBy engine name) choice ∧
      Moved engine ((choose (.text name) choice).runFrom engine).2 name choice
        (verdict (madeBy engine name) choice) := by
  cases found : engine.find? (.text name) with
  | none =>
    have run : (choose (.text name) choice).runFrom engine = (.error .noPlayer, engine) := by
      simp [choose, sessionOf, steady.isOpen, isKey, key?, found]
    have none_made : madeBy engine name = none := by rw [madeBy, found]; rfl
    rw [run, none_made]
    refine ⟨rfl, ?_, ?_, fun entry => rfl⟩
    · rw [none_made]
      rfl
    · exact (map_id _).symm
  | some session =>
    have made : madeBy engine name = some (choicesOf session) := by rw [madeBy, found]; rfl
    have path : pathOf session = counted (choicesOf session) := rfl
    rw [choose_found steady.isOpen rfl found, made, verdict, path]
    cases after : choicesAfter ((counted (choicesOf session)).getLastD .null) with
    | error fault => exact ⟨rfl, steady.strays found choice fault⟩
    | ok options =>
      cases valid : options.any fun option => choice.equal (.text option.id) with
      | false =>
        simp only [valid, Bool.false_eq_true, if_false]
        exact ⟨rfl, steady.strays found choice _⟩
      | true =>
        obtain ⟨answer, told⟩ := tell_answers (.record [("choice", choice)]) engine.tale
        obtain ⟨option, member, rfl⟩ := (any_equal_iff options choice).1 valid
        have begun := steady.begun.begun (find?_eq_some_held found)
        have composes : engine.tale.prompts.Compose := steady.begun.prompts_eq ▸ compose_
        have shown := (tell_turn begun composes (mem_turns after member) told).1
        simp only [valid, if_true, told]
        exact ⟨by simp [shown, text?], steady.follows dated found _ _ _ _⟩

/-- A player does not see the choices of the others. -/
theorem Steady.chooses_other (differs : other ≠ name) (choice : Value) :
    ((choose (.text name) choice).runFrom engine).2.find? (.text other) = engine.find? (.text other) ∧
      seats ((choose (.text name) choice).runFrom engine).2 other = seats engine other := by
  rcases steady.shared.chosen (choose_chosen engine (.text name) choice) with
    same | ⟨session, later, tale, found, turned, left⟩
  · rw [same]
    exact ⟨rfl, rfl⟩
  · rw [left]
    refine ⟨(find?_changed_text _ engine ..).trans (if_neg differs), ?_⟩
    exact steady.seats_changed_other found turned differs

/-! ### An opening -/

/-- The sessions that are listed when a player opens one. -/
theorem Steady.listed (name : String) : ∃ sessions,
    ((ofUser (.text name)).runFrom { engine.store with
      active := engine.store.active.filter fun entry => !isIdle engine.store.now entry.2 }).1 = .ok sessions ∧
    sessions.length = (liveSeats engine name).length := by
  have within {entry : Value × Value}
      (member : entry ∈ engine.store.active.filter fun entry => !isIdle engine.store.now entry.2) :
      entry ∈ engine.store.active := mem_of_mem_filter member
  obtain ⟨sessions, listed, count⟩ := @length_listed
    { engine.store with active := engine.store.active.filter fun entry => !isIdle engine.store.now entry.2 }
    (fun entry member => steady.timely.active entry (within member))
    (fun entry member => steady.active entry (within member)) (.text name)
  refine ⟨sessions, listed, count.trans ?_⟩
  rw [steady.shared.length_liveSeats, liveCount, liveCount, countP_filter]
  refine countP_congr fun entry member => ?_
  simp [isLiveOf]

/-- In memory a new session stands behind those that are not idle. -/
theorem Steady.active_opened (opened : Opened user entries engine.store store) :
    store.active = (engine.store.active.filter fun entry => !isIdle engine.store.now entry.2) ++
      [(.text (idOf (engine.store.made + 1)),
        .record (opening engine.store.now (idOf (engine.store.made + 1)) user))] := by
  obtain rfl := ok.inj (opened.live.symm.trans steady.timely.liveEntries)
  rw [opened.active, opened.made, putIn_of_absent]
  exact fun entry member => steady.shared.unmade entry (mem_of_mem_filter member)

theorem Steady.seats_opened (dated : engine.store.now.InCalendar)
    (opened : Opened (.text name) entries engine.store store) :
    (store.active.filter fun entry => ownerIs (.text name) entry.2).map
        (seatOf (some (opening engine.store.now (idOf (engine.store.made + 1)) (.text name)))) =
      (liveSeats engine name).map Seat.left ++ [⟨some engine.store.now, true⟩] := by
  have shared := steady.shared
  rw [steady.active_opened opened]
  generalize new_eq : opening engine.store.now (idOf (engine.store.made + 1)) (.text name) = new
  have new_owner : ownerIs (.text name) (.record new) = true :=
    (ownerIs_iff (new_eq ▸ owner_opening ..)).2 rfl
  have new_seat : seatOf (some new) (.text (idOf (engine.store.made + 1)), .record new) =
      ⟨some engine.store.now, true⟩ := by
    simp [seatOf, asLeft, ← new_eq, id_opening, lastActivity_opening dated]
  rw [filter_append, filter_cons_of_pos (by exact new_owner), filter_nil, map_append,
    map_singleton, new_seat, liveSeats, ← shared.seats_cleared, map_map]
  congr 1
  refine map_congr_left fun entry member => ?_
  have inside := mem_of_mem_filter (mem_of_mem_filter member)
  rw [← new_eq, seatOf_opening (shared.unmade entry inside), Function.comp_apply, seatOf, shared.asLeft_eq inside]
  rfl

/-- Whether a player is refused a session is settled by the player's live seats. -/
theorem Steady.opens (compose_ : prompts.Compose) (dated : engine.store.now.InCalendar) (name : String) :
    Seated engine ((open_ (.text name)).runFrom engine).2 name
      (((open_ (.text name)).runFrom engine).1.map offered) := by
  have shared := steady.shared
  have live_eq := steady.timely.liveEntries
  have entered := open_entered shared.housed (.text name)
  obtain ⟨sessions, listed, count⟩ := steady.listed name
  generalize (open_ (.text name)).runFrom engine = outcome at entered
  cases entered with
  | stuck undated => rw [live_eq] at undated; cases undated
  | refused live full =>
    obtain rfl := ok.inj (live_eq.symm.trans live)
    obtain ⟨many, rfl⟩ := full sessions listed
    rw [steady.limit] at many ⊢
    refine .full (by omega) rfl ?_
    exact shared.seats_cleared name
  | unkeyed key opened => cases key
  | @opened entries found store answer tale key also few opened told =>
    obtain rfl := ok.inj (live_eq.symm.trans opened.live)
    obtain rfl := ok.inj (listed.symm.trans also)
    rw [steady.limit, count] at few
    have composes : engine.tale.prompts.Compose := steady.begun.prompts_eq ▸ compose_
    obtain ⟨node, text, rfl⟩ := tell_start composes told
    have finds : (Engine.entered (.text name) store tale engine).find? (.text name) =
        some (opening engine.store.now (idOf (engine.store.made + 1)) (.text name)) := by
      rw [find?_entered, if_pos rfl, opened.made]
    have shown : (ok (welcome (opening engine.store.now (idOf store.made) (.text name))
        (Tale.segment node text openingChoices)) : Except Fault Fields).map offered =
          .ok (openingChoices.map fun choice => .text choice.id) := by
      have same := offered_segment node text openingChoices
      rw [map_map] at same
      exact congrArg ok same
    rw [shown]
    refine .fresh (by omega) finds ?_
    rw [seats, finds]
    exact steady.seats_opened dated opened

/-- To a player, the opening of another clears the idle sessions away and is no more. -/
theorem Steady.opens_other (differs : other ≠ name) :
    ((open_ (.text name)).runFrom engine).2.find? (.text other) = engine.find? (.text other) ∧
      seats ((open_ (.text name)).runFrom engine).2 other = liveSeats engine other := by
  have shared := steady.shared
  have live_eq := steady.timely.liveEntries
  have entered := open_entered shared.housed (.text name)
  generalize (open_ (.text name)).runFrom engine = outcome at entered
  cases entered with
  | stuck undated => rw [live_eq] at undated; cases undated
  | refused live full =>
    obtain rfl := ok.inj (live_eq.symm.trans live)
    exact ⟨rfl, shared.seats_cleared other⟩
  | unkeyed key opened => cases key
  | @opened entries found store answer tale key also few opened told =>
    have finds := (find?_entered store tale engine name other).trans (if_neg differs)
    have new_owner : ownerIs (.text other)
        (.record (opening engine.store.now (idOf (engine.store.made + 1)) (.text name))) ≠ true := by
      rw [Ne, ownerIs_iff (owner_opening ..)]
      simpa using differs
    refine ⟨finds, ?_⟩
    rw [seats, finds, Engine.entered, steady.active_opened opened, filter_append,
      filter_cons_of_neg (by exact new_owner), filter_nil, append_nil]
    exact shared.seats_cleared other

end

end

end Playhouse.Engine
