import Playhouse.Proofs.Data.Measure
import Playhouse.Proofs.RolePlay.Calls
import Playhouse.Proofs.Session.Sound

/-!
The engine and its store share sessions. What one call can do to the two is said here once; from it
follows what every run keeps: each session has an id of its own, and as long as the store has a session
in memory it has it as the engine holds it.
-/
namespace Playhouse.Engine
open Sessions List Entries
open Sessions (idOf)

variable {entries : List (Value × Value)} {entry : Value × Fields} {store : Sessions}

/-! ### The sessions that are held -/

section
variable {held : List (Value × Fields)} {user other : Value} {session : Fields}

theorem mem_holdIn (member : entry ∈ holdIn user session held) :
    (entry.2 = session ∧ (entry.1 = user ∨ entry.1.equal user = true ∧ ∃ old, (entry.1, old) ∈ held)) ∨
      entry ∈ held := by
  unfold holdIn at member
  rcases absent_or_place (·.equal user) user held with ⟨-, puts⟩ | ⟨before, key, old, after, rfl, same, -, puts⟩
  · rw [puts, mem_append, mem_singleton] at member
    rcases member with member | rfl
    · exact .inr member
    · exact .inl ⟨rfl, .inl rfl⟩
  · rw [puts, mem_append, mem_cons] at member
    rcases member with member | rfl | member
    · exact .inr (mem_append_left _ member)
    · exact .inl ⟨rfl, .inr ⟨same, old, mem_append_right _ mem_cons_self⟩⟩
    · exact .inr (mem_append_right _ (mem_cons_of_mem _ member))

theorem nodup_ids_holdIn (apart : (held.map fun entry => id entry.2).Nodup)
    (fresh : ∀ entry ∈ held, id entry.2 ≠ id session) :
    ((holdIn user session held).map fun entry => id entry.2).Nodup := by
  have absent : id session ∉ held.map fun entry => id entry.2 := by
    intro member
    obtain ⟨entry, inside, same⟩ := mem_map.1 member
    exact fresh entry inside same
  unfold holdIn
  rcases absent_or_place (·.equal user) user held with ⟨-, puts⟩ | ⟨before, key, old, after, rfl, -, -, puts⟩
  · rw [puts, map_append, nodup_append_comm]
    exact nodup_cons.2 ⟨absent, apart⟩
  · rw [map_append, map_cons] at apart absent
    rw [puts, map_append, map_cons, nodup_middle, nodup_cons]
    have fewer := (sublist_cons_self (id old) (after.map fun entry => id entry.2)).append_left
      (before.map fun entry => id entry.2)
    exact ⟨fun member => absent (fewer.subset member), fewer.nodup apart⟩

end

variable {engine : Engine} {session : Fields} {user : Value}

theorem held_changed (found : engine.find? user = some session) :
    ∃ before key after, engine.held = before ++ (key, session) :: after ∧
      ∀ later, (changed user later engine).held = before ++ (key, later) :: after := by
  obtain ⟨before, key, after, held, -, -, puts⟩ := place_of_find? found
  refine ⟨before, key, after, held, fun later => ?_⟩
  rw [← puts session later, ← held]
  rfl

theorem mem_held_of_find? (found : engine.find? user = some session) :
    ∃ key, key.equal user = true ∧ (key, session) ∈ engine.held := by
  obtain ⟨before, key, after, split, same, -⟩ := place_of_find? found
  exact ⟨key, same, split ▸ mem_append_right _ mem_cons_self⟩

/-! ### Opening a session -/

/-- What a player who has opened a session is told. -/
def welcome (session : Fields) (answer : Value) : Fields :=
  [("status", .text "success"), ("message", .text "Session started"), ("metadata", .record session),
    ("content", (answer.field? "story_text").getD (.text "")), ("choices", (answer.field? "choices").getD (.list []))]

/-- The engine once a session has been opened for a player. -/
def entered (user : Value) (store : Sessions) (tale : Tale) (engine : Engine) : Engine :=
  { engine with
    store, tale
    held := holdIn user (opening engine.store.now (idOf store.made) user) engine.held }

/-- Everything that opening a session can lead to. The store always clears the expired sessions away
first; a player who cannot be a key is refused only after the store has made the session. -/
inductive Entered (engine : Engine) (user : Value) : Except Fault Fields × Engine → Prop
  | stuck {fault : Fault} (undated : engine.store.liveEntries = .error fault) :
      Entered engine user (.error fault, engine)
  | refused {entries : List (Value × Value)} {fault : Fault} (live : engine.store.liveEntries = .ok entries)
      (full : ∀ sessions, ((ofUser user).runFrom { engine.store with active := entries }).1 = .ok sessions →
        engine.store.limit ≤ sessions.length ∧ fault = .sessionLimit engine.store.limit) :
      Entered engine user (.error fault, { engine with store := { engine.store with active := entries } })
  | unkeyed {entries : List (Value × Value)} {store : Sessions} (key : user.isKey = false)
      (opened : Opened user entries engine.store store) :
      Entered engine user (.error (.mismatch (.notKey user.kind)), { engine with store })
  | opened {entries : List (Value × Value)} {sessions : List Value} {store : Sessions} {answer : Value} {tale : Tale}
      (key : user.isKey = true)
      (listed : ((ofUser user).runFrom { engine.store with active := entries }).1 = .ok sessions)
      (few : (sessions.length : Int) < engine.store.limit)
      (opened : Opened user entries engine.store store)
      (told : (Tale.tell (.record [("choice", .text "start")])).runFrom engine.tale = (.ok answer, tale)) :
      Entered engine user (.ok (welcome (opening engine.store.now (idOf store.made) user) answer),
        entered user store tale engine)

theorem open_entered (housed : Housed engine.store.tree) (user : Value) :
    Entered engine user ((open_ user).runFrom engine) := by
  have created := create_created housed user
  rw [Engine.open_, Act.runFrom_bind, onStore, Act.runFrom_on]
  generalize (create user).runFrom engine.store = outcome at created
  cases created with
  | stuck undated => exact .stuck undated
  | refused live full => exact .refused live full
  | opened _ listed few opened =>
    cases key : user.isKey with
    | false => simpa [hold, key] using Entered.unkeyed key opened
    | true =>
      obtain ⟨answer, told⟩ := Tale.tell_answers (.record [("choice", .text "start")]) engine.tale
      have opens := Entered.opened key listed few opened told
      simpa [hold, key, onTale, told, welcome, entered] using opens

/-! ### What a call can do -/

/-- Everything that a call can do to the engine, with the run that does it. -/
inductive Does (engine : Engine) : Call → Engine → Prop
  | opens {user : Value} {outcome : Except Fault Fields × Engine} (ran : (open_ user).runFrom engine = outcome)
      (entered : Entered engine user outcome) : Does engine (.open_ user) outcome.2
  | chooses {user choice : Value} {outcome : Except Fault Fields × Engine}
      (ran : (choose user choice).runFrom engine = outcome) (chosen : Chosen engine user choice outcome) :
      Does engine (.choose user choice) outcome.2
  | analyzes (user : Value) : Does engine (.analyze user) engine
  | closes : Does engine .close { engine with held := [], isOpen := false }
  | waits (seconds : Number) : Does engine (.wait seconds)
      { engine with store := { engine.store with now := engine.store.now.plusMicros (Moment.microsOf seconds) } }

theorem act_does (housed : Housed engine.store.tree) (call : Call) : Does engine call (call.act.runFrom engine).2 := by
  cases call with
  | open_ user => simpa [Call.act] using Does.opens rfl (open_entered housed user)
  | choose user choice => simpa [Call.act] using Does.chooses rfl (choose_chosen engine user choice)
  | analyze user => simpa [Call.act, analyze_run] using Does.analyzes user
  | close => exact .closes
  | wait seconds => exact .waits seconds

/-! ### What is shared -/

section
variable {count more : Nat} {name : Value}

theorem ne_next (given : ∃ n ≤ count, name = .text (idOf n)) : name ≠ .text (idOf (count + 1)) := by
  obtain ⟨n, below, rfl⟩ := given
  intro same
  have number := idOf_inj (Value.text.inj same)
  omega

theorem given_mono (grown : count ≤ more) (given : ∃ n ≤ count, name = .text (idOf n)) :
    ∃ n ≤ more, name = .text (idOf n) :=
  given.imp fun _ is => ⟨Nat.le_trans is.1 grown, is.2⟩

end

/-- What the engine and its store keep between them. -/
structure Shared (engine : Engine) : Prop where
  housed : Housed engine.store.tree
  once : (engine.store.active.map Prod.fst).Nodup
  made : ∀ entry ∈ engine.store.active, ∃ n ≤ engine.store.made, entry.1 = .text (idOf n)
  keys : ∀ entry ∈ engine.held, entry.1.isKey = true
  named : ∀ entry ∈ engine.held, ∃ n ≤ engine.store.made, id entry.2 = .text (idOf n)
  apart : (engine.held.map fun entry => id entry.2).Nodup
  same : ∀ entry ∈ engine.held, ∀ stored, engine.store.find? (id entry.2) = some stored → stored = .record entry.2

section
variable {engine : Engine} {user : Value} {session : Fields}

section
variable (shared : Shared engine)
include shared

theorem Shared.isKey (found : engine.find? user = some session) : user.isKey = true := by
  obtain ⟨key, same, member⟩ := mem_held_of_find? found
  exact Value.isKey_of_equal (shared.keys _ member) same

theorem Shared.of_find? (found : engine.find? user = some session) :
    ∃ key n, (key, session) ∈ engine.held ∧ n ≤ engine.store.made ∧ id session = .text (idOf n) := by
  obtain ⟨key, -, inside⟩ := mem_held_of_find? found
  obtain ⟨n, below, named⟩ := shared.named _ inside
  exact ⟨key, n, inside, below, named⟩

theorem Shared.unmade : ∀ entry ∈ engine.store.active,
    entry.1 ≠ .text (idOf (engine.store.made + 1)) := fun entry member => ne_next (shared.made entry member)

theorem Shared.unheld : ∀ entry ∈ engine.held,
    id entry.2 ≠ .text (idOf (engine.store.made + 1)) := fun entry member => ne_next (shared.named entry member)

theorem Shared.cleaned (live : engine.store.liveEntries = .ok entries) :
    Shared { engine with store := { engine.store with active := entries } } := by
  have fewer := filterM_sublist live
  have once := (fewer.map Prod.fst).nodup shared.once
  refine ⟨shared.housed, once, fun entry member => shared.made entry (fewer.subset member), shared.keys, shared.named,
    shared.apart, fun entry member stored found => shared.same entry member stored ?_⟩
  obtain ⟨n, -, named⟩ := shared.named entry member
  rw [named] at found ⊢
  rw [find?_eq_some_iff once] at found
  exact (find?_eq_some_iff shared.once).2 (fewer.subset found)

end
/-! ### Changing a session -/

theorem changed_active {name : String} (named : id session = .text name) :
    (changed user session engine).store.active = engine.store.active ∧ engine.store.find? (.text name) = none ∨
      (changed user session engine).store.active = putIn (.text name) (.record session) engine.store.active ∧
        ∃ old, engine.store.find? (.text name) = some old := by
  simp only [changed, named]
  cases stored : engine.store.find? (.text name) with
  | none => exact .inl ⟨rfl, rfl⟩
  | some old => exact .inr ⟨rfl, old, rfl⟩

theorem find?_changed_store {name : String} (named : id session = .text name) (other : String) :
    (changed user session engine).store.find? (.text other) =
      if other = name then (engine.store.find? (.text name)).map fun _ => .record session
      else engine.store.find? (.text other) := by
  rcases @changed_active engine user session name named with ⟨active, absent⟩ | ⟨active, old, stored⟩
  · rw [Sessions.find?, active, absent]
    split
    · rename_i same
      exact same ▸ absent
    · rfl
  · rw [find?_of_putIn active, stored]
    rfl

variable {later : Fields}

section
variable (shared : Shared engine) (found : engine.find? user = some session)
include shared found

/-- Who has a session changed has it in the same place. -/
theorem mem_changed (member : entry ∈ (changed user later engine).held) :
    (entry.2 = later ∧ (entry.1, session) ∈ engine.held) ∨ (entry ∈ engine.held ∧ id entry.2 ≠ id session) := by
  obtain ⟨before, key, after, held, held_later⟩ := held_changed found
  have apart := shared.apart
  rw [held, map_append, map_cons, nodup_middle, nodup_cons, ← map_append] at apart
  have elsewhere (member : entry ∈ before ++ after) : entry ∈ engine.held ∧ id entry.2 ≠ id session := by
    refine ⟨?_, fun same => apart.1 (mem_map.2 ⟨entry, member, same⟩)⟩
    rw [held, mem_append, mem_cons]
    exact (mem_append.1 member).imp_right .inr
  rw [held_later, mem_append, mem_cons] at member
  rcases member with member | rfl | member
  · exact .inr (elsewhere (mem_append_left _ member))
  · exact .inl ⟨rfl, held ▸ mem_append_right _ mem_cons_self⟩
  · exact .inr (elsewhere (mem_append_right _ member))

/-- The store has a changed session in the place of the old one, if it had that. -/
theorem Shared.active_changed (same_id : id later = id session) :
    (changed user later engine).store.active = engine.store.active ∨ ∃ before after,
      engine.store.active = before ++ (id session, .record session) :: after ∧
        (changed user later engine).store.active = before ++ (id session, .record later) :: after := by
  obtain ⟨key, n, inside, -, named⟩ := shared.of_find? found
  rcases @changed_active engine user later _ (same_id.trans named) with ⟨same, -⟩ | ⟨put, old, stored⟩
  · exact .inl same
  · obtain rfl := shared.same _ inside old (named ▸ stored)
    obtain ⟨before, after, active, puts⟩ := Sessions.place_of_find? stored
    exact .inr ⟨before, after, named ▸ active, by rw [put, puts, named]⟩

theorem Shared.forall_active_changed {P : Value × Value → Prop} (same_id : id later = id session)
    (old : ∀ entry ∈ engine.store.active, P entry) (new : P (id session, .record later)) :
    ∀ entry ∈ (changed user later engine).store.active, P entry := by
  rcases shared.active_changed found same_id with same | ⟨before, after, active, put⟩
  · exact same ▸ old
  · rw [active, forall_mem_append, forall_mem_cons] at old
    rw [put, forall_mem_append, forall_mem_cons]
    exact ⟨old.1, new, old.2.2⟩

end

theorem ids_changed (found : engine.find? user = some session) (same_id : id later = id session) :
    ((changed user later engine).held.map fun entry => id entry.2) = engine.held.map fun entry => id entry.2 := by
  obtain ⟨before, key, after, held, held_later⟩ := held_changed found
  rw [held_later, held]
  simp [same_id]

/-- A session that is changed under its own id is changed for the engine and the store. -/
theorem Shared.changed (shared : Shared engine) (found : engine.find? user = some session)
    (same_id : id later = id session) : Shared (changed user later engine) := by
  obtain ⟨key, n, inside, below, named⟩ := shared.of_find? found
  have named_later : id later = .text (idOf n) := same_id.trans named
  refine ⟨by simpa using shared.housed, ?_, ?_, fun entry member => ?_, fun entry member => ?_,
    ids_changed found same_id ▸ shared.apart, fun entry member stored => ?_⟩
  · rcases shared.active_changed found same_id with same | ⟨before, after, active, put⟩
    · exact same ▸ shared.once
    · have once := shared.once
      rw [active] at once
      simpa [put] using once
  · rw [changed_made]
    exact shared.forall_active_changed found same_id shared.made ⟨n, below, named⟩
  · rcases mem_changed shared found member with ⟨-, held⟩ | ⟨held, -⟩
    · exact shared.keys (entry.1, session) held
    · exact shared.keys entry held
  · rw [changed_made]
    rcases mem_changed shared found member with ⟨here, -⟩ | ⟨held, -⟩
    · exact ⟨n, below, here ▸ named_later⟩
    · exact shared.named entry held
  · rcases mem_changed shared found member with ⟨here, -⟩ | ⟨held, elsewhere⟩
    · rw [here, named_later, find?_changed_store named_later, if_pos rfl]
      rintro stored_eq
      obtain ⟨old, -, rfl⟩ := Option.map_eq_some_iff.1 stored_eq
      rfl
    · obtain ⟨m, -, named_entry⟩ := shared.named entry held
      have other : idOf m ≠ idOf n := by
        intro same
        rw [named_entry, named, same] at elsewhere
        exact elsewhere rfl
      rw [named_entry, find?_changed_store named_later, if_neg other, ← named_entry]
      exact shared.same entry held stored

theorem id_begun (session : Fields) : id (begun session) = id session := by
  simp [id, begun]

theorem id_advanced (session : Fields) (choice : Value) (text : String) (now : Moment) :
    id (advanced session choice text now) = id session := by
  simp [id, advanced, begun]

/-- What a choice can make of a session: its start is noted, and then the choice. -/
inductive Turned (now : Moment) (choice : Value) (session : Fields) : Fields → Prop
  | begun : Turned now choice session (begun session)
  | advanced (text : String) : Turned now choice session (advanced session choice text now)

theorem Turned.id_eq {now : Moment} {choice : Value} (turned : Turned now choice session later) :
    id later = id session := by
  cases turned with
  | begun => exact id_begun session
  | advanced text => exact id_advanced ..

section
variable (shared : Shared engine)
include shared

/-- A choice that is followed changes the session once. -/
theorem Shared.followed_eq (found : engine.find? user = some session) (choice answer : Value) (tale : Tale) :
    followed engine user choice session answer tale =
      { Engine.changed user (advanced session choice (textOf answer) engine.store.now) engine with tale } := by
  obtain ⟨key, n, -, -, named⟩ := shared.of_find? found
  generalize made : advanced session choice (textOf answer) engine.store.now = later
  have first : id (begun session) = .text (idOf n) := (id_begun session).trans named
  have second : id later = .text (idOf n) := made ▸ (id_advanced _ _ _ _).trans named
  -- The start is noted before the choice is told, in the same place.
  have held : holdIn user later (holdIn user (begun session) engine.held) = holdIn user later engine.held := by
    obtain ⟨before, key, after, held, -, -, puts⟩ := place_of_find? found
    rw [held, puts, puts, puts]
  have again := @find?_changed_store engine user (begun session) _ first (idOf n)
  rw [if_pos rfl] at again
  simp only [followed, made, Engine.changed, first, second, held] at again ⊢
  cases stored : engine.store.find? (.text (idOf n)) with
  | none => simp [stored]
  | some old =>
    simp only [stored, Option.isSome_some, if_true, Option.map_some] at again ⊢
    rw [again]
    simp [putIn_putIn]

/-- A choice leaves the engine as it was, or changes the session of its player and moves the tale on. -/
theorem Shared.chosen {choice : Value} {outcome : Except Fault Fields × Engine}
    (chosen : Chosen engine user choice outcome) : outcome.2 = engine ∨ ∃ session later tale,
      engine.find? user = some session ∧ Turned engine.store.now choice session later ∧
        outcome.2 = { Engine.changed user later engine with tale } := by
  cases chosen with
  | refused fault => exact .inl rfl
  | strayed session fault found => exact .inr ⟨session, _, engine.tale, found, .begun, rfl⟩
  | follows session answer tale isOpen key found may told =>
    exact .inr ⟨session, _, tale, found, .advanced _, shared.followed_eq found choice answer tale⟩

theorem Shared.changed_self (found : engine.find? user = some session) :
    Engine.changed user session engine = engine := by
  obtain ⟨before, key, after, held, puts⟩ := held_changed found
  have inside : (key, session) ∈ engine.held := held ▸ mem_append_right _ mem_cons_self
  obtain ⟨n, -, named⟩ := shared.named _ inside
  have same_held : holdIn user session engine.held = engine.held := (puts session).trans held.symm
  simp only [Engine.changed, same_held]
  cases stored : engine.store.find? (id session) with
  | none => rfl
  | some other =>
    have same := shared.same _ inside other stored
    rw [named] at stored
    rw [named, ← same, putIn_self stored]
    rfl

/-! ### Runs -/

/-- Opening a session leaves what is found under the ids of held sessions, but for what is cleared away. -/
theorem Shared.find?_opened (opened : Opened user entries engine.store store) (member : entry ∈ engine.held) :
    store.find? (id entry.2) = ({ engine.store with active := entries } : Sessions).find? (id entry.2) := by
  obtain ⟨n, -, named⟩ := shared.named entry member
  have older := shared.unheld entry member
  rw [named, ← opened.made] at older
  rw [named, opened.find?, if_neg fun same => older (congrArg Value.text same)]

/-- Where a new session stands beside those in memory that have not expired. -/
theorem Shared.opened (opened : Opened user entries engine.store store) : Shared { engine with store } := by
  have cleaned := shared.cleaned opened.live
  refine ⟨shared.housed.filed (inside_plain (plain_idOf _)) opened.filed, ?_, ?_, shared.keys, ?_,
    shared.apart, fun entry member stored found => ?_⟩
  · rw [opened.active]
    exact nodup_putIn cleaned.once
  · intro entry member
    rw [opened.active, mem_putIn_iff cleaned.once] at member
    rcases member with rfl | ⟨member, -⟩
    · exact ⟨_, Nat.le_refl _, rfl⟩
    · exact given_mono (opened.made ▸ Nat.le_succ _) (cleaned.made entry member)
  · exact fun entry member => given_mono (opened.made ▸ Nat.le_succ _) (shared.named entry member)
  · rw [shared.find?_opened opened member] at found
    exact cleaned.same entry member stored found

end

theorem id_opening (now : Moment) (name : String) (user : Value) : id (opening now name user) = .text name := by
  simp [id, opening]

/-- A new session is held as the store has it. -/
theorem Shared.entered (shared : Shared engine) {tale : Tale} (key : user.isKey = true)
    (opened : Opened user entries engine.store store) : Shared (entered user store tale engine) := by
  have stored := shared.opened opened
  have fresh : ∀ entry ∈ engine.held, id entry.2 ≠ .text (idOf store.made) := by
    rw [opened.made]
    exact shared.unheld
  have new_id := id_opening engine.store.now (idOf store.made) user
  refine ⟨stored.housed, stored.once, stored.made, fun entry member => ?_, fun entry member => ?_,
    nodup_ids_holdIn shared.apart (new_id ▸ fresh), fun entry member => ?_⟩
  · rcases mem_holdIn member with ⟨-, same | ⟨-, old, held⟩⟩ | held
    · exact same ▸ key
    · exact shared.keys (entry.1, old) held
    · exact shared.keys entry held
  · rcases mem_holdIn member with ⟨here, -⟩ | held
    · exact ⟨_, Nat.le_refl _, here ▸ new_id⟩
    · exact stored.named entry held
  · rcases mem_holdIn member with ⟨here, -⟩ | held
    · intro other found
      rw [here, new_id] at found
      have put := opened.find? (idOf store.made)
      rw [if_pos rfl] at put
      exact here ▸ Option.some.inj (found.symm.trans put)
    · exact stored.same entry held

/-- Every call keeps what is shared. -/
theorem Shared.does {call : Call} {next : Engine} (shared : Shared engine) (does : Does engine call next) :
    Shared next := by
  cases does with
  | opens ran entered =>
    cases entered with
    | stuck undated => exact shared
    | refused live full => exact shared.cleaned live
    | unkeyed key opened => exact shared.opened opened
    | opened key listed few opened told => exact shared.entered key opened
  | chooses ran chosen =>
    rcases shared.chosen chosen with same | ⟨session, later, tale, found, turned, left⟩
    · exact same ▸ shared
    · have turns := shared.changed found turned.id_eq
      rw [left]
      exact ⟨turns.housed, turns.once, turns.made, turns.keys, turns.named, turns.apart, turns.same⟩
  | analyzes user => exact shared
  | closes => exact ⟨shared.housed, shared.once, shared.made, nofun, nofun, nodup_nil, nofun⟩
  | waits seconds =>
    exact ⟨shared.housed, shared.once, shared.made, shared.keys, shared.named, shared.apart, shared.same⟩

end

theorem shared_start {now : Moment} {chance : Chance} {templates : Except Fault (Option Value)}
    {prompts : Except Fault Tale.Prompts} (started : start now chance templates prompts = .ok engine) :
    Shared engine := by
  obtain ⟨told, -, rfl⟩ := start_eq started
  exact ⟨housed_start now, nodup_nil, nofun, nofun, nofun, nodup_nil, nofun⟩

theorem Shared.after (shared : Shared engine) (calls : List Call) : Shared (engine.after calls) := by
  induction calls generalizing engine with
  | nil => exact shared
  | cons call rest ih => exact ih (shared.does (act_does shared.housed call))

theorem after_concat (engine : Engine) (calls : List Call) (call : Call) :
    engine.after (calls ++ [call]) = (call.act.runFrom (engine.after calls)).2 := by
  simp [after]

theorem concat_prefix_concat_iff {α : Type} {before items : List α} {last item : α} :
    before ++ [last] <+: items ++ [item] ↔ (before = items ∧ last = item) ∨ before ++ [last] <+: items := by
  rw [prefix_concat_iff]
  refine or_congr_left ⟨fun same => ?_, fun same => by rw [same.1, same.2]⟩
  obtain ⟨before_eq, last_eq⟩ := append_inj' same rfl
  exact ⟨before_eq, singleton_inj.1 last_eq⟩

/-- What each call of a run keeps, the run keeps. -/
theorem Shared.along {P : List Call → Engine → Prop} (shared : Shared engine) (calls : List Call)
    (begins : P [] engine) (step : ∀ {before call next}, before ++ [call] <+: calls → Shared (engine.after before) →
      Does (engine.after before) call next → P before (engine.after before) → P (before ++ [call]) next) :
    P calls (engine.after calls) := by
  induction calls using reverseRecOn with
  | nil => exact begins
  | append_singleton before call ih =>
    have reached := shared.after before
    rw [after_concat]
    refine step (prefix_refl _) reached (act_does reached.housed call) (ih fun leads => step ?_)
    exact leads.trans (prefix_append _ _)

end Playhouse.Engine
