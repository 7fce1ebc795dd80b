import Playhouse.Proofs.RolePlay.Sharing
import Playhouse.Proofs.Session.Expiry

/-!
Idle sessions. The store forgets an idle session only when someone opens one; the engine holds it on and
follows choices in it, whether the store still has it or not. So when an accepted choice was made in a
session that had not expired depends on who opened sessions when.
-/
namespace Playhouse.Engine
open Sessions List
open Sessions (idOf isIdle lastActivity isExpired)

variable {outcome : Except Fault Fields × Engine} {call : Call} {store : Sessions}

/-! ### The last activity -/

/-- Every session, in memory or held, tells when it was last active. -/
structure Timely (engine : Engine) : Prop where
  active : ∀ entry ∈ engine.store.active, ∃ last, lastActivity entry.2 = some last
  held : ∀ entry ∈ engine.held, ∃ last, lastActivity (.record entry.2) = some last

theorem lastActivity_begun (session : Fields) :
    lastActivity (.record (begun session)) = lastActivity (.record session) := by
  simp [lastActivity, begun]

variable {now : Moment} {engine : Engine}

theorem lastActivity_advanced (dated : now.InCalendar) (session : Fields) (choice : Value) (text : String) :
    lastActivity (.record (advanced session choice text now)) = some now :=
  lastActivity_of_get? dated (by simp [advanced])

theorem lastActivity_opening (dated : now.InCalendar) (name : String) (user : Value) :
    lastActivity (.record (opening now name user)) = some now :=
  lastActivity_of_get? dated (get?_opening _ _ _)

section
variable {engine : Engine} {user : Value} {session : Fields} (timely : Timely engine)
include timely

theorem Timely.liveEntries :
    engine.store.liveEntries = .ok (engine.store.active.filter fun entry => !isIdle engine.store.now entry.2) :=
  liveEntries_eq timely.active

theorem Timely.isExpired {entry : Value × Fields} (member : entry ∈ engine.held) :
    isExpired engine.store.now (.record entry.2) = .ok (isIdle engine.store.now (.record entry.2)) := by
  obtain ⟨last, active⟩ := timely.held entry member
  exact isExpired_eq active _

variable (shared : Shared engine)
include shared

theorem Timely.changed (found : engine.find? user = some session) {later : Fields} (same_id : id later = id session)
    {last : Moment} (active : lastActivity (.record later) = some last) : Timely (changed user later engine) := by
  refine ⟨shared.forall_active_changed found same_id timely.active ⟨last, active⟩, fun entry member => ?_⟩
  rcases mem_changed shared found member with ⟨here, -⟩ | ⟨held, -⟩
  · exact ⟨last, here ▸ active⟩
  · exact timely.held entry held

theorem Timely.opened (dated : engine.store.now.InCalendar) {entries : List (Value × Value)}
    (opened : Opened user entries engine.store store) : Timely { engine with store } := by
  have fewer := filterM_sublist opened.live
  refine ⟨fun entry member => ?_, timely.held⟩
  rw [opened.active, mem_putIn_iff (shared.cleaned opened.live).once] at member
  rcases member with rfl | ⟨member, -⟩
  · exact ⟨_, lastActivity_opening dated _ _⟩
  · exact timely.active entry (fewer.subset member)

theorem Timely.does {next : Engine} (dated : engine.store.now.InCalendar) (does : Does engine call next) :
    Timely next := by
  cases does with
  | opens ran entered =>
    cases entered with
    | stuck undated => exact timely
    | refused live full =>
      exact ⟨fun entry member => timely.active entry ((filterM_sublist live).subset member), timely.held⟩
    | unkeyed key opened => exact timely.opened shared dated opened
    | opened key listed few opened told =>
      refine ⟨(timely.opened shared dated opened).active, fun entry member => ?_⟩
      rcases mem_holdIn member with ⟨here, -⟩ | held
      · exact ⟨_, here ▸ lastActivity_opening dated _ _⟩
      · exact timely.held entry held
  | chooses ran chosen =>
    rcases shared.chosen chosen with same | ⟨session, later, tale, found, turned, left⟩
    · exact same ▸ timely
    · obtain ⟨key, -, inside⟩ := mem_held_of_find? found
      have active : ∃ last, lastActivity (.record later) = some last := by
        cases turned with
        | begun => exact lastActivity_begun session ▸ timely.held _ inside
        | advanced text => exact ⟨_, lastActivity_advanced dated ..⟩
      have turns := timely.changed shared found turned.id_eq active.choose_spec
      exact left ▸ ⟨turns.active, turns.held⟩
  | analyzes user => exact timely
  | closes => exact ⟨timely.active, nofun⟩
  | waits seconds => exact ⟨timely.active, timely.held⟩

end

/-! ### The clock -/

/-- The time after a call. -/
def Call.later (now : Moment) : Call → Moment
  | wait seconds => now.plusMicros (Moment.microsOf seconds)
  | _ => now

/-- The time after some calls. -/
def clock (now : Moment) (calls : List Call) : Moment := calls.foldl Call.later now

/-- The clock shows a date of the calendar at every call of a run. -/
def Dated (now : Moment) (calls : List Call) : Prop := ∀ before ∈ calls.inits, (clock now before).InCalendar

instance (now : Moment) (calls : List Call) : Decidable (Dated now calls) :=
  inferInstanceAs (Decidable (∀ before ∈ calls.inits, _))

theorem Dated.of_prefix {calls before : List Call} (dated : Dated now calls) (leads : before <+: calls) :
    Dated now before := fun earlier member =>
  dated earlier ((mem_inits _ _).2 (((mem_inits _ _).1 member).trans leads))

theorem Entered.frame {user : Value} (entered : Entered engine user outcome) :
    outcome.2.store.now = engine.store.now ∧ engine.store.made ≤ outcome.2.store.made := by
  cases entered with
  | stuck undated | refused live full => exact ⟨rfl, Nat.le_refl _⟩
  | unkeyed key opened | opened key listed few opened told => exact ⟨opened.now, opened.made ▸ Nat.le_succ _⟩

/-- Time passes by waiting alone, and sessions are made and never unmade. -/
theorem Does.frame {next : Engine} (does : Does engine call next) :
    next.store.now = call.later engine.store.now ∧ engine.store.made ≤ next.store.made := by
  cases does with
  | opens ran entered => exact entered.frame
  | @chooses user choice _ ran chosen =>
    cases chosen with
    | refused fault => exact ⟨rfl, Nat.le_refl _⟩
    | strayed session fault found => exact ⟨now_changed .., by simp⟩
    | follows session answer tale isOpen key found may told =>
      exact ⟨(now_changed ..).trans (now_changed user (begun session) engine), by simp [followed]⟩
  | analyzes user | closes | waits seconds => exact ⟨rfl, Nat.le_refl _⟩

theorem Shared.now_after (shared : Shared engine) (calls : List Call) :
    (engine.after calls).store.now = clock engine.store.now calls := by
  refine shared.along (P := fun before reached => reached.store.now = clock engine.store.now before) calls rfl ?_
  intro before call next leads reached does now_eq
  rw [does.frame.1, now_eq, clock, clock, foldl_concat]

theorem timely_start {chance : Chance} {templates : Except Fault (Option Value)} {prompts : Except Fault Tale.Prompts}
    (started : start now chance templates prompts = .ok engine) : Timely engine := by
  obtain ⟨told, -, rfl⟩ := start_eq started
  exact ⟨nofun, nofun⟩

theorem Timely.after {calls : List Call} (shared : Shared engine) (timely : Timely engine)
    (dated : Dated engine.store.now calls) : Timely (engine.after calls) := by
  refine shared.along (P := fun _ reached => Timely reached) calls timely ?_
  intro before call next leads reached does timely
  have earlier := (mem_inits _ _).2 ((prefix_append _ _).trans leads)
  exact timely.does reached (shared.now_after before ▸ dated before earlier) does

/-! ### Leaving memory -/

/-- Someone has opened a session while the one of an id was held and had been idle for too long. -/
def FoundIdle (engine : Engine) (calls : List Call) (name : Value) : Prop :=
  ∃ before opener key held, before ++ [.open_ opener] <+: calls ∧ (key, held) ∈ (engine.after before).held ∧
    id held = name ∧ isExpired (engine.after before).store.now (.record held) = .ok true

theorem foundIdle_concat (engine : Engine) (calls : List Call) (call : Call) (name : Value) :
    FoundIdle engine (calls ++ [call]) name ↔ FoundIdle engine calls name ∨
      ∃ opener key held, call = .open_ opener ∧ (key, held) ∈ (engine.after calls).held ∧ id held = name ∧
        isExpired (engine.after calls).store.now (.record held) = .ok true := by
  simp only [FoundIdle, concat_prefix_concat_iff]
  constructor
  · rintro ⟨before, opener, key, held, ⟨rfl, rfl⟩ | leads, rest⟩
    · exact .inr ⟨opener, key, held, rfl, rest⟩
    · exact .inl ⟨before, opener, key, held, leads, rest⟩
  · rintro (⟨before, opener, key, held, leads, rest⟩ | ⟨opener, key, held, rfl, rest⟩)
    · exact ⟨before, opener, key, held, .inr leads, rest⟩
    · exact ⟨calls, opener, key, held, .inl ⟨rfl, rfl⟩, rest⟩

/-- In a run, a held session is out of memory exactly if it was found idle, and only sessions that were made
were. -/
structure Leaves (first : Engine) (calls : List Call) (engine : Engine) : Prop where
  held : ∀ entry ∈ engine.held, engine.store.find? (id entry.2) = none ↔ FoundIdle first calls (id entry.2)
  made : ∀ name, FoundIdle first calls name → ∃ n ≤ engine.store.made, name = .text (idOf n)

section
variable {first engine : Engine} {calls : List Call} {user : Value} {session : Fields} {entry : Value × Fields}

/-- A held session was found idle by the end of an opening exactly if it is idle, or was found so before. -/
theorem foundIdle_opens (shared : Shared (first.after calls)) (timely : Timely (first.after calls))
    (member : entry ∈ (first.after calls).held) (opener : Value) :
    FoundIdle first (calls ++ [.open_ opener]) (id entry.2) ↔ FoundIdle first calls (id entry.2) ∨
      isIdle (first.after calls).store.now (.record entry.2) = true := by
  rw [foundIdle_concat]
  refine or_congr_right ⟨?_, fun idle => ?_⟩
  · rintro ⟨opener, key, held, -, inside, same, expired⟩
    obtain rfl : (key, held) = entry := inj_on_of_nodup_map shared.apart inside member same
    simpa [timely.isExpired inside] using expired
  · exact ⟨opener, entry.1, entry.2, rfl, member, rfl, by rw [timely.isExpired member, idle]⟩

theorem foundIdle_other (other : ∀ opener, call ≠ .open_ opener) (name : Value) :
    FoundIdle first (calls ++ [call]) name ↔ FoundIdle first calls name := by
  rw [foundIdle_concat, or_iff_left]
  rintro ⟨opener, -, -, opens, -⟩
  exact other opener opens

/-- A held session is out of a memory that has been cleared exactly if it is idle, or was out before. -/
theorem find?_cleared (shared : Shared engine) (member : entry ∈ engine.held)
    (active : store.active = engine.store.active.filter fun entry => !isIdle engine.store.now entry.2) :
    store.find? (id entry.2) = none ↔
      engine.store.find? (id entry.2) = none ∨ isIdle engine.store.now (.record entry.2) = true := by
  obtain ⟨n, -, named⟩ := shared.named entry member
  have same := shared.same entry member
  rw [named] at same ⊢
  rw [find?_of_filter shared.once active]
  cases stored : engine.store.find? (.text (idOf n)) with
  | none => simp
  | some old => simp [same old stored]

/-- After an opening, memory has the sessions that are not idle, and the new one if there is one. -/
theorem Timely.entered (timely : Timely engine) (entered : Entered engine user outcome) :
    (outcome.2.store.active = engine.store.active.filter fun entry => !isIdle engine.store.now entry.2) ∨
      Opened user (engine.store.active.filter fun entry => !isIdle engine.store.now entry.2) engine.store
        outcome.2.store := by
  have live_eq := timely.liveEntries
  cases entered with
  | stuck undated => rw [live_eq] at undated; cases undated
  | refused live full => exact .inl (Except.ok.inj (live.symm.trans live_eq))
  | unkeyed key opened
  | opened key listed few opened told => exact .inr (Except.ok.inj (opened.live.symm.trans live_eq) ▸ opened)

/-- Whoever opens a session, and whether that is refused, the idle ones leave memory. -/
theorem Entered.find?_eq_none (shared : Shared engine) (timely : Timely engine) (member : entry ∈ engine.held)
    (entered : Entered engine user outcome) :
    outcome.2.store.find? (id entry.2) = none ↔
      engine.store.find? (id entry.2) = none ∨ isIdle engine.store.now (.record entry.2) = true := by
  rcases timely.entered entered with active | opened
  · exact find?_cleared shared member active
  · rw [shared.find?_opened opened member]
    exact find?_cleared shared member rfl

/-- What is held after an opening was held before, or is new and in memory. -/
theorem Entered.mem_held
    (entered : Entered engine user outcome) (member : entry ∈ outcome.2.held) : entry ∈ engine.held ∨
      id entry.2 = .text (idOf (engine.store.made + 1)) ∧ outcome.2.store.find? (id entry.2) ≠ none := by
  cases entered with
  | stuck undated | refused live full | unkeyed key opened => exact .inl member
  | opened key listed few opened told =>
    refine (mem_holdIn member).symm.imp_right ?_
    rintro ⟨new, -⟩
    have put := opened.find?
    rw [new, id_opening]
    refine ⟨congrArg (Value.text ∘ idOf) opened.made, ?_⟩
    rw [Engine.entered, put, if_pos rfl]
    exact Option.some_ne_none _

end

section
variable {first next : Engine} {calls : List Call} {user : Value} {session : Fields}

/-- A call that opens no session and leaves memory alone takes no session out of it. -/
theorem Leaves.frame {reached : Engine} (leaves : Leaves first calls reached)
    (other : ∀ opener, call ≠ .open_ opener) (held : next.held.Sublist reached.held)
    (active : next.store.active = reached.store.active) (made : next.store.made = reached.store.made) :
    Leaves first (calls ++ [call]) next := by
  refine ⟨fun entry member => ?_, fun name idle => ?_⟩
  · rw [foundIdle_other other, Sessions.find?, active]
    exact leaves.held entry (held.subset member)
  · rw [made]
    exact leaves.made name ((foundIdle_other other name).1 idle)

section
variable (shared : Shared (first.after calls)) (leaves : Leaves first calls (first.after calls))
include shared leaves

theorem Leaves.opens (timely : Timely (first.after calls)) (entered : Entered (first.after calls) user outcome) :
    Leaves first (calls ++ [.open_ user]) outcome.2 := by
  have made (name : Value) (idle : FoundIdle first (calls ++ [.open_ user]) name) :
      ∃ n ≤ (first.after calls).store.made, name = .text (idOf n) := by
    rcases (foundIdle_concat ..).1 idle with earlier | ⟨-, key, held, -, inside, named, -⟩
    · exact leaves.made name earlier
    · exact named ▸ shared.named (key, held) inside
  refine ⟨fun entry member => ?_, fun name idle => ?_⟩
  · rcases entered.mem_held member with held | ⟨new, found⟩
    · rw [entered.find?_eq_none shared timely held, foundIdle_opens shared timely held user, leaves.held entry held]
    -- An id that is new was never held, so nobody found it idle.
    · exact iff_of_false found fun idle => ne_next (made _ idle) new
  · exact given_mono entered.frame.2 (made name idle)

theorem Leaves.changed (found : (first.after calls).find? user = some session) {later : Fields}
    (same_id : id later = id session) :
    Leaves first calls (changed user later (first.after calls)) := by
  obtain ⟨key, n, inside, -, named⟩ := shared.of_find? found
  have stays (m : Nat) : (Engine.changed user later (first.after calls)).store.find? (.text (idOf m)) = none ↔
      (first.after calls).store.find? (.text (idOf m)) = none := by
    rw [find?_changed_store (same_id.trans named)]
    split
    · rename_i same
      rw [Option.map_eq_none_iff, same]
    · rfl
  refine ⟨fun entry member => ?_, fun name idle => ?_⟩
  · rcases mem_changed shared found member with ⟨here, -⟩ | ⟨held, -⟩
    · rw [here, same_id, named, stays, ← named]
      exact leaves.held _ inside
    · obtain ⟨m, -, other⟩ := shared.named entry held
      rw [other, stays, ← other]
      exact leaves.held entry held
  · rw [changed_made]
    exact leaves.made name idle

/-- Every call takes out of memory exactly the held sessions that it finds idle. -/
theorem Leaves.does (timely : Timely (first.after calls)) (does : Does (first.after calls) call next) :
    Leaves first (calls ++ [call]) next := by
  cases does with
  | opens ran entered => exact leaves.opens shared timely entered
  | chooses ran chosen =>
    rcases shared.chosen chosen with same | ⟨session, later, tale, found, turned, left⟩
    · exact same ▸ leaves.frame nofun (Sublist.refl _) rfl rfl
    · exact left ▸ (leaves.changed shared found turned.id_eq).frame nofun (Sublist.refl _) rfl rfl
  | analyzes user => exact leaves.frame nofun (Sublist.refl _) rfl rfl
  | closes => exact leaves.frame nofun (nil_sublist _) rfl rfl
  | waits seconds => exact leaves.frame nofun (Sublist.refl _) rfl rfl

end
end

theorem leaves_after {calls : List Call} (shared : Shared engine) (timely : Timely engine) (unheld : engine.held = [])
    (dated : Dated engine.store.now calls) : Leaves engine calls (engine.after calls) := by
  refine shared.along (P := fun before reached => Leaves engine before reached) calls ?_ ?_
  · refine ⟨fun entry member => absurd (unheld ▸ member) not_mem_nil, ?_⟩
    rintro name ⟨before, opener, key, held, leads, -⟩
    simp at leads
  · intro before call next leads reached does leaves
    have dated_before := dated.of_prefix ((prefix_append _ _).trans leads)
    exact leaves.does reached (timely.after shared dated_before) does

/-! ### Accepted choices -/

/-- A player's session is in memory as the player has it, and has not expired. -/
def InTime (engine : Engine) (session : Fields) : Prop :=
  engine.store.find? (id session) = some (.record session) ∧ isExpired engine.store.now (.record session) = .ok false

/-- In every run on which the clock shows dates of the calendar, an accepted choice is made in a session of
the player that is in memory and has not expired exactly if its last activity is at most two hours ago and
nobody opened a session while it had been idle for longer. Nothing of the store decides on acceptance: the
choice is accepted with every other store as well. -/
theorem accepted_in_time_iff {now : Moment} {chance : Chance} {templates : Except Fault (Option Value)}
    {prompts : Except Fault Tale.Prompts} {engine : Engine} (started : start now chance templates prompts = .ok engine)
    {calls : List Call} (dated : Dated now calls) {user choice : Value}
    (accepts : (engine.after calls).Accepts user choice) :
    ∃ session last, (engine.after calls).find? user = some session ∧ lastActivity (.record session) = some last ∧
      (InTime (engine.after calls) session ↔
        (clock now calls).micros - last.micros ≤ Sessions.timeout ∧ ¬ FoundIdle engine calls (id session)) ∧
      ∀ store, Accepts { engine.after calls with store } user choice := by
  obtain ⟨isOpen, key, session, found, may⟩ := accepts_iff.1 accepts
  have begins := shared_start started
  have timely := timely_start started
  obtain ⟨unheld, at_now⟩ : engine.held = [] ∧ engine.store.now = now := by
    obtain ⟨told, -, rfl⟩ := start_eq started
    exact ⟨rfl, rfl⟩
  subst at_now
  have shared := begins.after calls
  obtain ⟨place, -, inside⟩ := mem_held_of_find? found
  obtain ⟨last, active⟩ := (timely.after begins dated).held _ inside
  refine ⟨session, last, found, active, ?_, fun store => accepts_iff.2 ⟨isOpen, key, session, found, may⟩⟩
  have kept : (engine.after calls).store.find? (id session) = some (.record session) ↔
      (engine.after calls).store.find? (id session) ≠ none := by
    constructor
    · intro here
      rw [here]
      exact Option.some_ne_none _
    · intro here
      obtain ⟨stored, stored_eq⟩ := Option.ne_none_iff_exists'.1 here
      rw [stored_eq, shared.same _ inside stored stored_eq]
  have fresh : isExpired (engine.after calls).store.now (.record session) = .ok false ↔
      (clock engine.store.now calls).micros - last.micros ≤ Sessions.timeout := by
    simp [Sessions.isExpired_eq active, isIdle, active, begins.now_after]
  rw [InTime, kept, fresh, Ne, (leaves_after begins timely unheld dated).held _ inside, and_comm]

/-- A player who comes back after two hours and a second goes on in a session that has expired. -/
theorem late_choice_accepted : ∃ engine session,
    start ⟨0⟩ {} (.ok (some .empty)) (.ok Tale.builtIn) = .ok engine ∧
    (engine.after [.open_ (.text "ann"), .wait (.int 7201)]).find? (.text "ann") = some session ∧
    (engine.after [.open_ (.text "ann"), .wait (.int 7201)]).Accepts (.text "ann") (.text "investigate") ∧
    ¬ InTime (engine.after [.open_ (.text "ann"), .wait (.int 7201)]) session := by
  let engine : Engine := { store := Sessions.start ⟨0⟩, tale := { prompts := Tale.builtIn, chance := {} } }
  have accepts : (engine.after [.open_ (.text "ann"), .wait (.int 7201)]).Accepts (.text "ann")
      (.text "investigate") := by
    decide +kernel
  have opened_at : ((engine.after [.open_ (.text "ann"), .wait (.int 7201)]).find? (.text "ann")).map
      (fun session => lastActivity (.record session)) = some (some ⟨0⟩) := by
    decide +kernel
  obtain ⟨session, last, found, active, in_time_iff, -⟩ :=
    accepted_in_time_iff (rfl : start ⟨0⟩ {} (.ok (some .empty)) (.ok Tale.builtIn) = .ok engine)
      (by decide) accepts
  refine ⟨engine, session, rfl, found, accepts, fun in_time => ?_⟩
  rw [found, Option.map_some, active] at opened_at
  cases opened_at
  exact absurd (in_time_iff.1 in_time).1 (by decide)

end Playhouse.Engine
