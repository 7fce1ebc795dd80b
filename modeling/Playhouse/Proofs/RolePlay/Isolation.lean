import Playhouse.Proofs.RolePlay.Standing

/-!
Playing among others and playing alone. A player's run is compared with the one in which the others do not
play, on the same clock. All that the others do to the player is that their openings clear idle sessions
away; that shows exactly where such a session has come back to life and counts for the limit.
-/
namespace Playhouse.Engine
open List Sessions Play
open Sessions (idOf isIdle ownerIs)

variable {templates : Except Fault (Option Value)} {now : Moment}

/-! ### Two runs -/

/-- Whether a play stays where one player plays alone; time passes for everyone. -/
def Play.isFor (name : String) : Play → Bool
  | open_ player => player == name
  | choose player _ => player == name
  | wait _ => true

/-- What a player gets for a play: the ids of the choices that are offered, or why there are none. -/
def Play.outcome? (name : String) (engine : Engine) : Play → Option (Except Fault (List Value))
  | open_ player => if player = name then some (((Engine.open_ (.text player)).runFrom engine).1.map offered) else none
  | choose player choice =>
    if player = name then some (((Engine.choose (.text player) choice).runFrom engine).1.map offered) else none
  | wait _ => none

/-- All that a player gets in a run, in order. -/
def outcomes (name : String) (engine : Engine) : List Play → List (Except Fault (List Value))
  | [] => []
  | play :: rest => (play.outcome? name engine).toList ++ outcomes name (play.call.act.runFrom engine).2 rest

/-- A player gets and has made the same in a run on one engine as alone on another. -/
def Isolated (engine alone : Engine) (name : String) (plays : List Play) : Prop :=
  outcomes name engine plays = outcomes name alone (plays.filter (isFor name)) ∧
    madeBy (engine.played plays) name = madeBy (alone.played (plays.filter (isFor name))) name

variable (name : String)

theorem outcomes_concat (engine : Engine) (plays : List Play) (play : Play) :
    outcomes name engine (plays ++ [play]) =
      outcomes name engine plays ++ (play.outcome? name (engine.played plays)).toList := by
  induction plays generalizing engine with
  | nil => simp [outcomes, played, after]
  | cons first rest ih => simp [outcomes, ih, played, after]

/-! ### What the others clear away -/

/-- The sessions of a player that the others have cleared away, after one more play. The player's own
openings would have cleared away those that are idle by then. -/
def Play.clears (name : String) (engine : Engine) (lost : List (Value × Value)) : Play → List (Value × Value)
  | open_ player =>
    if player = name then
      (lost.map (asLeft (engine.find? (.text name)))).filter fun entry => !isIdle engine.store.now entry.2
    else lost ++ engine.store.active.filter fun entry => ownerIs (.text name) entry.2 && isIdle engine.store.now entry.2
  | _ => lost

/-- The sessions of a player that the others have cleared away in a run. -/
def cleared (name : String) (engine : Engine) (lost : List (Value × Value)) : List Play → List (Value × Value)
  | [] => lost
  | play :: rest => cleared name (play.call.act.runFrom engine).2 (play.clears name engine lost) rest

/-- How many of the sessions that the others have cleared away are live, as the player left them. -/
def revived (name : String) (engine : Engine) (lost : List (Value × Value)) : Nat :=
  (lost.map (asLeft (engine.find? (.text name)))).countP fun entry => !isIdle engine.store.now entry.2

/-- No opening of a player finds room that is there only because the others have cleared sessions away. -/
def Undisturbed (name : String) (engine : Engine) (plays : List Play) : Prop :=
  ∀ before, before ++ [.open_ name] <+: plays → (engine.played before).store.liveCount (.text name) < 3 →
    (engine.played before).store.liveCount (.text name) +
      revived name (engine.played before) (cleared name engine [] before) < 3

theorem cleared_concat (engine : Engine) (lost : List (Value × Value)) (plays : List Play) (play : Play) :
    cleared name engine lost (plays ++ [play]) =
      play.clears name (engine.played plays) (cleared name engine lost plays) := by
  induction plays generalizing engine lost with
  | nil => simp [cleared, played, after]
  | cons first rest ih => simp [cleared, ih, played, after]

theorem undisturbed_concat (engine : Engine) (plays : List Play) (play : Play) :
    Undisturbed name engine (plays ++ [play]) ↔ Undisturbed name engine plays ∧ (play = .open_ name →
      (engine.played plays).store.liveCount (.text name) < 3 → (engine.played plays).store.liveCount (.text name) +
        revived name (engine.played plays) (cleared name engine [] plays) < 3) := by
  simp only [Undisturbed, concat_prefix_concat_iff]
  constructor
  · intro holds
    refine ⟨fun before leads => holds before (.inr leads), ?_⟩
    rintro rfl
    exact holds plays (.inl ⟨rfl, rfl⟩)
  · rintro ⟨earlier, last⟩ before (⟨rfl, rfl⟩ | leads)
    · exact last rfl
    · exact earlier before leads

/-! ### Runs that are alike -/

/-- Two engines between which a player sees no difference: to have the seats of the second, the first lacks
those that the others have cleared away. -/
structure Alike (prompts : Tale.Prompts) (name : String) (lost : List (Value × Value)) (engine alone : Engine) :
    Prop where
  steady : Steady prompts engine
  steady_alone : Steady prompts alone
  now_eq : alone.store.now = engine.store.now
  made : madeBy engine name = madeBy alone name
  same_seats : (seats engine name ++ lost.map (seatOf (engine.find? (.text name)))).Perm (seats alone name)
  older : ∀ entry ∈ lost, ∃ n ≤ engine.store.made, entry.1 = .text (idOf n)

section
variable {prompts : Tale.Prompts} {name : String} {lost : List (Value × Value)} {engine alone : Engine} {play : Play}

variable (current : Option Fields) (entry : Value × Value)

theorem fst_asLeft : (asLeft current entry).1 = entry.1 := by
  cases current with
  | none => rfl
  | some session =>
    rw [asLeft]
    split <;> rfl

theorem asLeft_asLeft : asLeft current (asLeft current entry) = asLeft current entry := by
  cases current with
  | none => rfl
  | some session => cases here : entry.1.equal (id session) <;> simp [asLeft, here]

theorem seatOf_asLeft : seatOf current (asLeft current entry) = seatOf current entry := by
  rw [seatOf, asLeft_asLeft, fst_asLeft]
  rfl

/-- The seats of those lost sessions that are live. -/
theorem map_seatOf_live (now : Moment) (lost : List (Value × Value)) :
    ((lost.map (asLeft current)).filter fun entry => !isIdle now entry.2).map (seatOf current) =
      (lost.map (seatOf current)).filter fun seat => !seat.isIdle now := by
  rw [filter_map, filter_map, map_map]
  exact map_congr_left fun entry _ => seatOf_asLeft current entry

/-- The seats that are live where a player plays alone. -/
theorem Alike.length_liveSeats (alike : Alike prompts name lost engine alone) :
    (liveSeats alone name).length = (liveSeats engine name).length + revived name engine lost := by
  have live := alike.same_seats.filter fun seat => !seat.isIdle engine.store.now
  rw [filter_append] at live
  rw [liveSeats, alike.now_eq, ← live.length_eq, length_append, liveSeats, revived, countP_eq_length_filter,
    filter_map, filter_map, length_map, length_map]
  rfl

/-- A player gets the same for a play in both runs unless it opens a session for which there is room only
because others have cleared some away. -/
theorem Alike.outcome_iff (compose_ : prompts.Compose) (alike : Alike prompts name lost engine alone)
    (dated : engine.store.now.InCalendar) (play : Play) :
    play.outcome? name engine = play.outcome? name alone ↔ (play = .open_ name →
      engine.store.liveCount (.text name) < 3 →
      engine.store.liveCount (.text name) + revived name engine lost < 3) := by
  have dated_alone : alone.store.now.InCalendar := alike.now_eq ▸ dated
  cases play with
  | wait seconds => simp [outcome?]
  | choose player choice =>
    simp only [outcome?, reduceCtorEq, false_implies, iff_true]
    split
    · rename_i mine
      rw [mine, (alike.steady.chooses compose_ dated name choice).1,
        (alike.steady_alone.chooses compose_ dated_alone name choice).1, alike.made]
    · rfl
  | open_ player =>
    by_cases mine : player = name
    · subst mine
      have seated := alike.steady.opens compose_ dated player
      have seated_alone := alike.steady_alone.opens compose_ dated_alone player
      have count := alike.length_liveSeats
      simp only [outcome?, if_true, Option.some.injEq, forall_const, ← alike.steady.shared.length_liveSeats]
      generalize ((Engine.open_ (.text player)).runFrom engine).1.map offered = result at seated
      generalize ((Engine.open_ (.text player)).runFrom alone).1.map offered = result_alone at seated_alone
      -- Alone the player has at least as many live seats, so only the second run can refuse where the first does not.
      cases seated with
      | full many _ _ =>
        cases seated_alone with
        | full _ _ _ => exact iff_of_true rfl (by omega)
        | fresh few _ _ => omega
      | fresh few _ _ =>
        cases seated_alone with
        | full many _ _ => exact iff_of_false nofun (by omega)
        | fresh few_alone _ _ => exact iff_of_true rfl (by omega)
    · simp [outcome?, mine]

section
variable (alike : Alike prompts name lost engine alone)
include alike

theorem Alike.unmade : ∀ entry ∈ lost, entry.1 ≠ .text (idOf (engine.store.made + 1)) :=
  fun entry member => ne_next (alike.older entry member)

/-- What is lost after a play was made by then. -/
theorem Alike.older_clears (play : Play) : ∀ entry ∈ play.clears name engine lost,
      ∃ n ≤ (play.call.act.runFrom engine).2.store.made, entry.1 = .text (idOf n) := by
  intro entry member
  refine given_mono (act_does alike.steady.shared.housed play.call).frame.2 ?_
  cases play with
  | open_ player =>
    simp only [clears] at member
    split at member
    · obtain ⟨old, inside, rfl⟩ := mem_map.1 (mem_of_mem_filter member)
      rw [fst_asLeft]
      exact alike.older old inside
    · rcases mem_append.1 member with inside | inside
      · exact alike.older entry inside
      · exact alike.steady.shared.made entry (mem_of_mem_filter inside)
  | choose player choice | wait seconds => exact alike.older entry member

/-- Where the others clear idle seats away, those are lost and the live ones stay. -/
theorem Alike.seats_cleared : (liveSeats engine name ++ (lost ++ engine.store.active.filter fun entry =>
        ownerIs (.text name) entry.2 && isIdle engine.store.now entry.2).map
          (seatOf (engine.find? (.text name)))).Perm (seats alone name) := by
  have idle := alike.steady.shared.seats_where name fun idle => idle
  have parts : (liveSeats engine name ++ (seats engine name).filter fun seat => seat.isIdle engine.store.now).Perm
      (seats engine name) := by
    simpa [liveSeats] using filter_append_perm (fun seat => !seat.isIdle engine.store.now) (seats engine name)
  rw [map_append, idle]
  generalize lost_eq : lost.map (seatOf (engine.find? (.text name))) = gone
  calc (liveSeats engine name ++ (gone ++ (seats engine name).filter fun seat => seat.isIdle engine.store.now)).Perm
        (liveSeats engine name ++ (((seats engine name).filter fun seat => seat.isIdle engine.store.now) ++ gone)) :=
          perm_append_comm.append_left _
    _ = (liveSeats engine name ++ (seats engine name).filter fun seat => seat.isIdle engine.store.now) ++ gone :=
          (append_assoc ..).symm
    Perm _ (seats engine name ++ gone) := parts.append_right _
    Perm _ (seats alone name) := lost_eq ▸ alike.same_seats

end

section
variable (compose_ : prompts.Compose) (alike : Alike prompts name lost engine alone)
  (dated : engine.store.now.InCalendar)
include compose_ alike dated

/-- The plays of others leave the two runs alike. -/
theorem Alike.beside (others : play.isFor name = false) :
    Alike prompts name (play.clears name engine lost) (play.call.act.runFrom engine).2 alone := by
  have steady := alike.steady
  have steady_next := steady.play compose_ dated play
  have now_next := (act_does steady.shared.housed play.call).frame.1
  have older := alike.older_clears play
  cases play with
  | open_ player =>
    have differs : player ≠ name := by simpa [isFor] using others
    obtain ⟨finds, live⟩ := steady.opens_other differs.symm
    refine ⟨steady_next, alike.steady_alone, alike.now_eq.trans now_next.symm, ?_, ?_, older⟩
    · rw [madeBy, next_open, finds]
      exact alike.made
    · rw [next_open, finds, live, clears, if_neg differs]
      exact alike.seats_cleared
  | choose player choice =>
    have differs : player ≠ name := by simpa [isFor] using others
    obtain ⟨finds, same⟩ := steady.chooses_other differs.symm choice
    refine ⟨steady_next, alike.steady_alone, alike.now_eq.trans now_next.symm, ?_, ?_, older⟩
    · rw [madeBy, next_choose, finds]
      exact alike.made
    · rw [next_choose, finds, same]
      exact alike.same_seats
  | wait seconds => cases others

/-- A choice of the player leaves the two runs alike. -/
theorem Alike.chooses (choice : Value) :
    madeBy ((Engine.choose (.text name) choice).runFrom engine).2 name =
        madeBy ((Engine.choose (.text name) choice).runFrom alone).2 name ∧
      (seats ((Engine.choose (.text name) choice).runFrom engine).2 name ++
        lost.map (seatOf (((Engine.choose (.text name) choice).runFrom engine).2.find? (.text name)))).Perm
          (seats ((Engine.choose (.text name) choice).runFrom alone).2 name) := by
  have moved := (alike.steady.chooses compose_ dated name choice).2
  have moved_alone := (alike.steady_alone.chooses compose_ (alike.now_eq ▸ dated) name choice).2
  rw [← alike.made] at moved_alone
  refine ⟨?_, ?_⟩
  · rw [moved.made, moved_alone.made, alike.made]
  · rw [moved.seats, moved_alone.seats, funext moved.seat, alike.now_eq]
    have seats_moved := alike.same_seats.map (Seat.moved engine.store.now (verdict (madeBy engine name) choice))
    rwa [map_append, map_map] at seats_moved

/-- An opening of the player that comes out the same leaves the two runs alike. -/
theorem Alike.opens (same : ((Engine.open_ (.text name)).runFrom engine).1.map offered = ((Engine.open_ (.text
      name)).runFrom alone).1.map offered) :
    madeBy ((Engine.open_ (.text name)).runFrom engine).2 name =
        madeBy ((Engine.open_ (.text name)).runFrom alone).2 name ∧
      (seats ((Engine.open_ (.text name)).runFrom engine).2 name ++ ((Play.open_ name).clears name engine lost).map
          (seatOf (((Engine.open_ (.text name)).runFrom engine).2.find? (.text name)))).Perm
          (seats ((Engine.open_ (.text name)).runFrom alone).2 name) := by
  have seated := alike.steady.opens compose_ dated name
  have seated_alone := alike.steady_alone.opens compose_ (alike.now_eq ▸ dated) name
  rw [same] at seated
  have lost_eq : (Play.open_ name).clears name engine lost =
      (lost.map (asLeft (engine.find? (.text name)))).filter fun entry => !isIdle engine.store.now entry.2 := if_pos rfl
  have live := alike.same_seats.filter fun seat => !seat.isIdle engine.store.now
  rw [filter_append, ← map_seatOf_live, ← lost_eq] at live
  have live_alone : (seats alone name).filter (fun seat => !seat.isIdle engine.store.now) = liveSeats alone name := by
    rw [liveSeats, alike.now_eq]
  rw [live_alone] at live
  generalize ((Engine.open_ (.text name)).runFrom alone).1.map offered = result at seated seated_alone
  cases seated with
  | full _ finds seats =>
    cases seated_alone with
    | full _ finds_alone seats_alone =>
      rw [madeBy, madeBy, finds, finds_alone, seats, seats_alone]
      exact ⟨alike.made, live⟩
  | fresh _ finds seats =>
    cases seated_alone with
    | fresh _ finds_alone seats_alone =>
      rw [madeBy, madeBy, finds, finds_alone, seats, seats_alone, alike.now_eq]
      refine ⟨by simp only [Option.map_some, choicesOf_opening], ?_⟩
      -- What is lost the player leaves as well, for a session that nothing lost can be.
      have lost_left : ((Play.open_ name).clears name engine lost).map
          (seatOf (some (opening engine.store.now (idOf (engine.store.made + 1)) (.text name)))) =
          (((Play.open_ name).clears name engine lost).map (seatOf (engine.find? (.text name)))).map Seat.left := by
        rw [map_map, lost_eq]
        refine map_congr_left fun entry member => ?_
        obtain ⟨old, inside, rfl⟩ := mem_map.1 (mem_of_mem_filter member)
        have unmade := alike.unmade old inside
        rw [← fst_asLeft (engine.find? (.text name))] at unmade
        rw [seatOf_opening unmade, Function.comp_apply, seatOf, asLeft_asLeft]
        rfl
      rw [lost_left, append_assoc]
      refine (perm_append_comm.append_left _).trans ?_
      rw [← append_assoc, ← map_append]
      exact (live.map Seat.left).append_right _

/-- What the player does, with the same outcome, leaves the two runs alike. -/
theorem Alike.together (mine : play.isFor name = true) (same : play.outcome? name engine = play.outcome? name alone) :
    Alike prompts name (play.clears name engine lost) (play.call.act.runFrom engine).2
      (play.call.act.runFrom alone).2 := by
  have now_eq : (play.call.act.runFrom alone).2.store.now = (play.call.act.runFrom engine).2.store.now := by
    rw [(act_does alike.steady.shared.housed play.call).frame.1,
      (act_does alike.steady_alone.shared.housed play.call).frame.1, alike.now_eq]
  have steady := alike.steady.play compose_ dated play
  have steady_alone := alike.steady_alone.play compose_ (alike.now_eq ▸ dated) play
  have older := alike.older_clears play
  cases play with
  | open_ player =>
    obtain rfl : player = name := by simpa [isFor] using mine
    obtain ⟨made, same_seats⟩ := alike.opens compose_ dated (by simpa [outcome?] using same)
    exact ⟨steady, steady_alone, now_eq, by rwa [next_open, next_open], by rwa [next_open, next_open], older⟩
  | choose player choice =>
    obtain rfl : player = name := by simpa [isFor] using mine
    obtain ⟨made, same_seats⟩ := alike.chooses compose_ dated choice
    exact ⟨steady, steady_alone, now_eq, by rwa [next_choose, next_choose], by rwa [next_choose, next_choose], older⟩
  | wait seconds => exact ⟨steady, steady_alone, now_eq, alike.made, alike.same_seats, older⟩

end

theorem outcome?_of_others (others : play.isFor name = false) (engine : Engine) : play.outcome? name engine = none := by
  cases play with
  | open_ player | choose player choice => exact if_neg (by simpa [isFor] using others)
  | wait seconds => cases others

/-- Outcomes that end with those of one play agree exactly if the earlier ones and the last do. -/
theorem append_outcome?_iff (engine alone : Engine) (earlier earlier_alone : List (Except Fault (List Value))) :
    earlier ++ (play.outcome? name engine).toList = earlier_alone ++ (play.outcome? name alone).toList ↔
      earlier = earlier_alone ∧ play.outcome? name engine = play.outcome? name alone := by
  have count : (play.outcome? name engine).toList.length = (play.outcome? name alone).toList.length := by
    cases play <;> simp only [outcome?] <;> split <;> rfl
  constructor
  · intro same
    obtain ⟨before, last⟩ := append_inj' same count
    exact ⟨before, by simpa using congrArg head? last⟩
  · rintro ⟨rfl, last⟩
    rw [last]

/-- By induction on the run: as long as nothing disturbs the player the two runs are alike, and the first
opening that does comes out differently. -/
theorem Alike.along (compose_ : prompts.Compose) (alike : Alike prompts name [] engine alone) (plays : List Play)
    (dated : Dated engine.store.now (plays.map call)) :
    (outcomes name engine plays = outcomes name alone (plays.filter (isFor name)) ↔
      Undisturbed name engine plays) ∧
    (Undisturbed name engine plays → Alike prompts name (cleared name engine [] plays) (engine.played plays)
      (alone.played (plays.filter (isFor name)))) := by
  induction plays using reverseRecOn with
  | nil => exact ⟨iff_of_true rfl fun before leads => by simp at leads, fun _ => alike⟩
  | append_singleton before play ih =>
    obtain ⟨agree_iff, reached⟩ := ih (dated_of_concat dated)
    have dated_here := alike.steady.dated_played dated
    rw [outcomes_concat, undisturbed_concat, cleared_concat, played_concat, filter_append]
    cases mine : play.isFor name with
    | false =>
      have unopened : play ≠ .open_ name := by
        rintro rfl
        simp [isFor] at mine
      rw [outcome?_of_others mine, filter_cons_of_neg (by simp [mine]), filter_nil, Option.toList_none,
        append_nil, append_nil, agree_iff]
      refine ⟨⟨fun calm => ⟨calm, fun opens => absurd opens unopened⟩, And.left⟩, fun calm => ?_⟩
      exact (reached calm.1).beside compose_ dated_here mine
    | true =>
      rw [filter_cons_of_pos (by simp [mine]), filter_nil, outcomes_concat, played_concat,
        append_outcome?_iff, agree_iff]
      have step (calm : Undisturbed name engine before) :=
        (reached calm).outcome_iff compose_ dated_here play
      refine ⟨and_congr_right step, fun calm => ?_⟩
      exact (reached calm.1).together compose_ dated_here mine ((step calm.1).2 calm.2)

end

/-! ### Choices in sessions that are in memory -/

/-- A play that does not set the clock back. -/
def Play.Forward : Play → Prop
  | wait seconds => 0 ≤ Moment.microsOf seconds
  | _ => True

/-- Every choice of a player that is accepted in a run is made in a session that is in memory. -/
def Present (name : String) (engine : Engine) (plays : List Play) : Prop :=
  ∀ before choice session, before ++ [.choose name choice] <+: plays →
    (engine.played before).Accepts (.text name) choice → (engine.played before).find? (.text name) = some session →
    (engine.played before).store.find? (id session) ≠ none

/-- What the others have cleared away is out of memory and idle for good. -/
structure Settled (name : String) (lost : List (Value × Value)) (engine : Engine) : Prop where
  idle : ∀ entry ∈ lost, (seatOf (engine.find? (.text name)) entry).isIdle engine.store.now = true
  gone : ∀ entry ∈ lost, entry.1 ∉ engine.store.active.map Prod.fst
  older : ∀ entry ∈ lost, ∃ n ≤ engine.store.made, entry.1 = .text (idOf n)

section
variable {prompts : Tale.Prompts} {name : String} {lost : List (Value × Value)} {engine next : Engine} {play : Play}

/-- What is in memory after a call was there before, or is new. -/
theorem Does.mem_ids (shared : Shared engine) {call : Call} (does : Does engine call next) {key : Value}
    (member : key ∈ next.store.active.map Prod.fst) :
    key ∈ engine.store.active.map Prod.fst ∨ key = .text (idOf (engine.store.made + 1)) := by
  have opened_ids {user : Value} {entries : List (Value × Value)} {store : Sessions}
      (opened : Opened user entries engine.store store) (member : key ∈ store.active.map Prod.fst) :
      key ∈ engine.store.active.map Prod.fst ∨ key = .text (idOf (engine.store.made + 1)) := by
    rw [opened.active, mem_ids_putIn, opened.made] at member
    exact member.symm.imp_left fun inside => ((filterM_sublist opened.live).map Prod.fst).subset inside
  cases does with
  | opens ran entered =>
    cases entered with
    | stuck undated => exact .inl member
    | refused live full => exact .inl (((filterM_sublist live).map Prod.fst).subset member)
    | unkeyed key opened | opened key listed few opened told => exact opened_ids opened member
  | chooses ran chosen =>
    rcases shared.chosen chosen with same | ⟨session, later, tale, found, turned, left⟩
    · exact .inl (same ▸ member)
    · rw [left] at member
      rcases shared.active_changed found turned.id_eq with same | ⟨before, after, active, put⟩
      · exact .inl (same ▸ member)
      · rw [put] at member
        rw [active]
        exact .inl (by simpa using member)
  | analyzes user | closes | waits seconds => exact .inl member

/-- What is out of memory stays out. -/
theorem Settled.stays (settled : Settled name lost engine) (shared : Shared engine) {call : Call}
    (does : Does engine call next) : (∀ entry ∈ lost, entry.1 ∉ next.store.active.map Prod.fst) ∧
      ∀ entry ∈ lost, ∃ n ≤ next.store.made, entry.1 = .text (idOf n) := by
  refine ⟨fun entry member inside => ?_, fun entry member => given_mono does.frame.2 (settled.older entry member)⟩
  rcases does.mem_ids shared inside with inside | new
  · exact settled.gone entry member inside
  · exact ne_next (settled.older entry member) new

/-- The idle sessions of a player are out of memory once another has opened a session. -/
theorem Steady.idle_gone (steady : Steady prompts engine) (user : Value) {entry : Value × Value}
    (member : entry ∈ engine.store.active) (idle : isIdle engine.store.now entry.2 = true) :
    entry.1 ∉ ((open_ user).runFrom engine).2.store.active.map Prod.fst := by
  have shared := steady.shared
  have unlisted : entry.1 ∉
      (engine.store.active.filter fun entry => !isIdle engine.store.now entry.2).map Prod.fst := by
    intro inside
    obtain ⟨other, kept, same⟩ := mem_map.1 inside
    obtain ⟨inside, live⟩ := mem_filter.1 kept
    obtain rfl := inj_on_of_nodup_map shared.once inside member same
    simp [idle] at live
  rcases steady.timely.entered (open_entered shared.housed user) with active | opened
  · exact active ▸ unlisted
  · rw [opened.active, opened.made, mem_ids_putIn, not_or]
    exact ⟨shared.unmade entry member, unlisted⟩

/-- A choice of the player in a session in memory does nothing to those that are lost. -/
theorem Settled.chooses (compose_ : prompts.Compose) (settled : Settled name lost engine)
    (steady : Steady prompts engine) (dated : engine.store.now.InCalendar) {choice : Value}
    (present : ∀ session, engine.Accepts (.text name) choice → engine.find? (.text name) = some session →
      engine.store.find? (id session) ≠ none) {entry : Value × Value} (member : entry ∈ lost) :
    seatOf (((choose (.text name) choice).runFrom engine).2.find? (.text name)) entry =
      seatOf (engine.find? (.text name)) entry := by
  obtain ⟨answered, moved⟩ := steady.chooses compose_ dated name choice
  rw [moved.seat]
  cases result : verdict (madeBy engine name) choice with
  | error fault => rfl
  | ok shown =>
    rw [result] at answered
    have accepts : engine.Accepts (.text name) choice := by
      cases run : ((choose (.text name) choice).runFrom engine).1 with
      | ok reply => exact ⟨reply, run⟩
      | error fault => rw [run] at answered; cases answered
    obtain ⟨-, -, session, found, -⟩ := accepts_iff.1 accepts
    obtain ⟨key, n, -, -, named⟩ := steady.shared.of_find? found
    -- The player is at a session in memory, so at none of those that are lost.
    have elsewhere : entry.1 ≠ .text (idOf n) := by
      intro same
      obtain ⟨stored, here⟩ := Option.ne_none_iff_exists'.1 (present session accepts found)
      rw [named, find?_eq_some_iff steady.shared.once] at here
      exact settled.gone entry member (mem_map.2 ⟨_, here, same.symm⟩)
    have untaken : (seatOf (engine.find? (.text name)) entry).isTaken = false := by
      rw [seatOf, found, Option.any_some, named, Value.equal_text_false]
      exact elsewhere
    rw [Seat.moved, Seat.renewed, untaken]
    rfl

theorem Settled.plays (compose_ : prompts.Compose) (settled : Settled name lost engine) (steady : Steady prompts engine)
    (dated : engine.store.now.InCalendar) (forward : play.Forward)
    (present : ∀ choice session, play = .choose name choice → engine.Accepts (.text name) choice →
      engine.find? (.text name) = some session → engine.store.find? (id session) ≠ none) :
    Settled name (play.clears name engine lost) (play.call.act.runFrom engine).2 := by
  have does := act_does steady.shared.housed play.call
  obtain ⟨gone, older⟩ := settled.stays steady.shared does
  have now_next := does.frame.1
  cases play with
  | wait seconds =>
    refine ⟨fun entry member => ?_, gone, older⟩
    exact isIdle_mono (Int.le_add_of_nonneg_right forward) (settled.idle entry member)
  | choose player choice =>
    refine ⟨fun entry member => ?_, gone, older⟩
    have same : seatOf (((Engine.choose (.text player) choice).runFrom engine).2.find? (.text name)) entry =
        seatOf (engine.find? (.text name)) entry := by
      by_cases mine : player = name
      · subst mine
        exact settled.chooses compose_ steady dated (fun session => present choice session rfl) member
      · rw [(steady.chooses_other (Ne.symm mine) choice).1]
    rw [now_next, next_choose, same]
    exact settled.idle entry member
  | open_ player =>
    by_cases mine : player = name
    · have none_left : (Play.open_ player).clears name engine lost = [] := by
        rw [clears, if_pos mine, filter_eq_nil_iff]
        intro entry member
        obtain ⟨old, inside, rfl⟩ := mem_map.1 member
        simp [isIdle_asLeft, settled.idle old inside]
      rw [none_left]
      exact ⟨nofun, nofun, nofun⟩
    · have finds := (steady.opens_other (Ne.symm mine)).1
      rw [clears, if_neg mine]
      refine ⟨fun entry member => ?_, fun entry member => ?_, fun entry member => ?_⟩
      all_goals rcases mem_append.1 member with member | member
      · rw [now_next, next_open, finds]
        exact settled.idle entry member
      · obtain ⟨inside, picked⟩ := mem_filter.1 member
        rw [now_next, next_open, finds]
        exact steady.shared.isIdle_eq inside name _ ▸ (Bool.and_eq_true_iff.1 picked).2
      · exact gone entry member
      · obtain ⟨inside, picked⟩ := mem_filter.1 member
        rw [next_open]
        exact steady.idle_gone _ inside (Bool.and_eq_true_iff.1 picked).2
      · exact older entry member
      · exact given_mono does.frame.2 (steady.shared.made entry (mem_of_mem_filter member))

theorem Settled.revived_eq (settled : Settled name lost engine) : revived name engine lost = 0 := by
  rw [revived, countP_eq_zero]
  intro entry member
  obtain ⟨old, inside, rfl⟩ := mem_map.1 member
  simp [isIdle_asLeft, settled.idle old inside]

section
variable {plays : List Play} (compose_ : prompts.Compose) (steady : Steady prompts engine)
  (dated : Dated engine.store.now (plays.map call)) (forward : ∀ play ∈ plays, play.Forward)
  (present : Present name engine plays)
include compose_ steady dated forward present

theorem settled_after : Settled name (cleared name engine [] plays) (engine.played plays) := by
  induction plays using reverseRecOn with
  | nil => exact ⟨nofun, nofun, nofun⟩
  | append_singleton before play ih =>
    have settled := ih (dated_of_concat dated) (forall_mem_append.1 forward).1
      fun earlier choice session leads => present earlier choice session (leads.trans (prefix_append _ _))
    rw [cleared_concat, played_concat]
    refine settled.plays compose_ (steady.played compose_ (dated_of_concat dated)) (steady.dated_played dated)
      (forward play (by simp)) ?_
    rintro choice session rfl
    exact present before choice session (prefix_refl _)

/-- Where the clock goes forward and choices are accepted only in sessions in memory, nothing that was
cleared away comes back. -/
theorem undisturbed_of_present : Undisturbed name engine plays := by
  intro before leads few
  have within : before <+: plays := (prefix_append _ _).trans leads
  have settled := settled_after compose_ steady (dated.of_prefix (within.map _))
    (fun play member => forward play (within.subset member))
    fun earlier choice session inside => present earlier choice session (inside.trans within)
  rwa [settled.revived_eq, Nat.add_zero]

end
end

/-! ### Isolation -/

theorem steady_start {chance : Chance} {prompts : Tale.Prompts}
    {engine : Engine} (started : start now chance templates (.ok prompts) = .ok engine) : Steady prompts engine := by
  have shared := shared_start started
  have timely := timely_start started
  obtain ⟨told, same, rfl⟩ := start_eq started
  cases same
  exact ⟨⟨nofun, nofun⟩, shared, timely, begun_start started, rfl, rfl⟩

theorem alike_start {chance chance_alone : Chance}
    {prompts : Tale.Prompts} {engine alone : Engine} (started : start now chance templates (.ok prompts) = .ok engine)
    (started_alone : start now chance_alone templates (.ok prompts) = .ok alone) (name : String) :
    Alike prompts name [] engine alone := by
  have steady := steady_start started
  have steady_alone := steady_start started_alone
  obtain ⟨told, -, rfl⟩ := start_eq started
  obtain ⟨told_alone, -, rfl⟩ := start_eq started_alone
  exact ⟨steady, steady_alone, rfl, rfl, List.Perm.refl _, nofun⟩

/-- With the shipped prompts or the built-in ones, in every run on which the clock shows dates of the
calendar, a player gets and makes the same as where the others do not play, whatever chance brings in either
run, exactly if no opening of the player finds room only because the others have cleared away sessions that
are live again. On a clock that goes forward that is so whenever the player's choices are accepted only in
sessions in memory. -/
theorem isolated_iff_undisturbed {now : Moment} {chance chance_alone : Chance}
    {templates : Except Fault (Option Value)} {prompts : Tale.Prompts} {engine alone : Engine}
    (known : prompts = Tale.shipped ∨ prompts = Tale.builtIn)
    (started : start now chance templates (.ok prompts) = .ok engine)
    (started_alone : start now chance_alone templates (.ok prompts) = .ok alone)
    {plays : List Play} (dated : Dated now (plays.map Play.call)) (name : String) :
    (Isolated engine alone name plays ↔ Undisturbed name engine plays) ∧
      ((∀ play ∈ plays, play.Forward) → Present name engine plays → Isolated engine alone name plays) := by
  have compose_ : prompts.Compose := by
    rcases known with rfl | rfl
    · exact Tale.shipped_compose
    · exact Tale.builtIn_compose
  have now_eq : engine.store.now = now := by
    obtain ⟨told, -, rfl⟩ := start_eq started
    rfl
  subst now_eq
  obtain ⟨agree_iff, reached⟩ := (alike_start started started_alone name).along compose_ plays dated
  have isolated_iff : Isolated engine alone name plays ↔ Undisturbed name engine plays :=
    ⟨fun isolated => agree_iff.1 isolated.1, fun calm => ⟨agree_iff.2 calm, (reached calm).made⟩⟩
  refine ⟨isolated_iff, fun forward present => isolated_iff.2 ?_⟩
  exact undisturbed_of_present compose_ (steady_start started) dated forward present

/-- A player comes back to a session after more than two hours and goes on, and then opens three more. Where
another player has opened a session in between, the third is not refused. -/
theorem opening_between_makes_room : ∃ engine, start ⟨0⟩ {} (.ok (some .empty)) (.ok Tale.shipped) = .ok engine ∧
    ¬ Isolated engine engine "ann" [.open_ "ann", .wait (.int 7201), .open_ "bob", .choose "ann" (.text "investigate"),
      .open_ "ann", .open_ "ann", .open_ "ann"] := by
  let engine : Engine := { store := Sessions.start ⟨0⟩, tale := { prompts := Tale.shipped, chance := {} } }
  have started : start ⟨0⟩ {} (.ok (some .empty)) (.ok Tale.shipped) = .ok engine := rfl
  let before : List Play := [.open_ "ann", .wait (.int 7201), .open_ "bob", .choose "ann" (.text "investigate"),
    .open_ "ann", .open_ "ann"]
  have room : (engine.played before).store.liveCount (.text "ann") = 2 ∧
      revived "ann" (engine.played before) (cleared "ann" engine [] before) = 1 := by
    decide +kernel
  refine ⟨engine, started, fun isolated => ?_⟩
  have calm := (isolated_iff_undisturbed (.inl rfl) started started (by decide) "ann").1.1 isolated
  have few := calm before (List.prefix_refl _)
  omega

end Playhouse.Engine
