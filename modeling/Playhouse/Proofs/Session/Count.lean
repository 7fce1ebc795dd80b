import Playhouse.Proofs.Session.Expiry

/-!
How many live sessions a player has. A call adds to them by creating a session, which it does below the
limit only, or by bringing one back into memory that was on file alone, which it does at any count.
-/
namespace Playhouse.Sessions
open FileTree Value List Value Fields

variable {user : Value} {now : Moment} {name : String}

/-! ### Owners -/

/-- A call that gives sessions to named players and never passes one on. -/
def Call.KeepsOwner : Call → Prop
  | create user => ∃ name : String, user = .text name
  | update _ changes => changes.get? (.text "user_id") = none
  | _ => True

/-- A session of a named player. -/
def Owned (fields : Fields) : Prop := ∃ name : String, fields.get? (.text "user_id") = some (.text name)

theorem get?_update_of_none {fields changes : Fields} (json : FieldsJson changes)
    (unset : changes.get? (.text name) = none) :
    (fields.update changes).get? (.text name) = fields.get? (.text name) := by
  unfold Fields.update
  induction changes generalizing fields with
  | nil => rfl
  | cons change changes ih =>
    obtain ⟨key, value⟩ := change
    obtain ⟨⟨other, rfl, -⟩, -, -, json_rest⟩ := json
    rw [get?_cons] at unset
    split at unset
    · cases unset
    · rename_i differs
      rw [foldl_cons, ih json_rest unset]
      refine get?_set_of_ne (fun same => differs ?_) _ _
      rw [Key.beq_text, same]

theorem get?_owner_edited {fields : Fields} {call : Call} (json : call.IsJson) (keeps : call.KeepsOwner) :
    (call.edited now fields).get? (.text "user_id") = fields.get? (.text "user_id") := by
  have edited := Call.edited_edited now fields call
  generalize call.edited now fields = result at edited
  cases edited with
  | renewed => simp [refreshed]
  | changed id changes => simp [refreshed, get?_update_of_none json keeps]
  | ended id | noted id event held => simp [refreshed]

/-- Dated calls of named players. -/
def ownedRegime (first : Moment) : Regime :=
  (datedRegime first).also Call.KeepsOwner Owned (fun n keeps => by
      obtain ⟨name, rfl⟩ := keeps
      exact ⟨name, by simp [opening]⟩)
    fun allowed keeps _ owned => by
      obtain ⟨name, owner⟩ := owned
      exact ⟨name, (get?_owner_edited allowed.1 keeps).trans owner⟩

/-! ### Counting -/

/-- Whether a session belongs to a player. -/
def ownerIs (user session : Value) : Bool := ((session.field? "user_id").getD .null).equal user

theorem ownerIs_iff {fields : Fields} (owned : fields.get? (.text "user_id") = some (.text name))
    : ownerIs user (.record fields) = true ↔ user = .text name := by
  rw [ownerIs, field?_record, owned, Option.getD_some, text_equal]

/-- Whether an entry of memory is a live session of a player. -/
def isLiveOf (now : Moment) (user : Value) (entry : Value × Value) : Bool :=
  ownerIs user entry.2 && !isIdle now entry.2

/-- How many live sessions a player has in memory. -/
def liveCount (s : Sessions) (user : Value) : Nat := s.active.countP (isLiveOf s.now user)

section
variable {s t : Sessions}

/-- Where every session in memory has a date and an owner, those that are listed for a player are the live
ones. -/
theorem length_listed (dated : ∀ entry ∈ s.active, ∃ last, lastActivity entry.2 = some last)
    (owned : ∀ entry ∈ s.active, ∃ fields, entry.2 = .record fields ∧ Owned fields) (user : Value) :
    ∃ sessions, ((ofUser user).runFrom s).1 = .ok sessions ∧ sessions.length = s.liveCount user := by
  refine ⟨(s.active.map Prod.snd).filter fun session => ownerIs user session && !isIdle s.now session, ?_, ?_⟩
  · have run : ((ofUser user).runFrom s).1 = (s.active.map Prod.snd).filterM fun session => do
        if (← session.entry "user_id").equal user then return !(← isExpired s.now session) else return false := by
      simp [ofUser]
    rw [run]
    refine filterM_eq_filter fun session member => ?_
    obtain ⟨⟨id, session⟩, inside, rfl⟩ := mem_map.1 member
    obtain ⟨last, active⟩ := dated _ inside
    obtain ⟨fields, rfl, name, owner⟩ := owned _ inside
    rw [isExpired_eq active]
    simp only [Value.entry, need, owner, ownerIs, field?_record, Option.getD_some, bind, Except.bind, pure, Except.pure]
    cases (text name).equal user <;> rfl
  · rw [liveCount, filter_map, length_map, countP_eq_length_filter]
    rfl

theorem length_ofUser {first : Moment} (sound : Sound (ownedRegime first) s) (timed : Timed s) (user : Value) :
    ∃ sessions, ((ofUser user).runFrom s).1 = .ok sessions ∧ sessions.length = s.liveCount user := by
  refine length_listed (fun entry member => (timed.held entry member).imp fun _ => And.left) (fun entry member => ?_) user
  obtain ⟨id, fields, rfl, -, ⟨-, owned⟩, -⟩ := sound.held entry member
  exact ⟨fields, rfl, owned⟩

/-! ### Coming back -/

/-- A call brings a live session of a player back into memory from its file. -/
def Revives (s : Sessions) (call : Call) (user : Value) : Prop :=
  ∃ (id : String) (fields : Fields), call.id? = some id ∧ call ≠ .finish id ∧ s.find? (.text id) = none ∧
    ((loadFile (.text id)).runFrom s).1 = .ok (.record fields) ∧
    isExpired s.now (.record fields) = .ok false ∧ fields.get? (.text "user_id") = some user

theorem loadFile_eq_iff {id : String} {fields : Fields} :
    ((loadFile (.text id)).runFrom s).1 = .ok (.record fields) ↔ stored s.tree id = some (.record fields) := by
  obtain ⟨t, loads, -⟩ := loadFile_stored s id
  rw [loads]
  cases stored s.tree id <;> simp

end

section
variable {first : Moment} {s t : Sessions} {call : Call} {fields : Fields} {id : String}
  {entries : List (Value × Value)}

/-- What a call makes of a live session counts for the player who had it. -/
theorem isLiveOf_edited (dated : now.InCalendar) (allowed : (ownedRegime first).Allowed call)
    (user key : Value) : isLiveOf now user (key, .record (call.edited now fields)) = ownerIs user (.record fields) := by
  rw [isLiveOf, isIdle_now dated (get?_edited now fields call), Bool.not_false, Bool.and_true, ownerIs, ownerIs,
    field?_record, field?_record, get?_owner_edited allowed.1.1 allowed.2]

/-- A session that is created counts for its player. -/
theorem isLiveOf_opening (dated : now.InCalendar) (player user key : Value) :
    isLiveOf now user (key, .record (opening now id player)) = player.equal user := by
  have owner : (opening now id player).get? (.text "user_id") = some player := by simp [opening]
  rw [isLiveOf, isIdle_now dated (get?_opening _ _ _), Bool.not_false, Bool.and_true, ownerIs, field?_record,
    owner, Option.getD_some]

theorem Sound.owned (sound : Sound (ownedRegime first) s) (found : s.current id = some (.record fields)) :
    Owned fields := by
  obtain ⟨content, same, -, good, -⟩ := sound.current found
  cases same
  exact good.2

/-- A session that comes back counts for its player beside all others. -/
theorem Revives.liveCount (sound : Sound (ownedRegime first) s) (dated : s.now.InCalendar)
    (allowed : (ownedRegime first).Allowed call) (revives : Revives s call user) (change : Change s call t) :
    t.liveCount user = s.liveCount user + 1 := by
  obtain ⟨id, fields, names, stays, unheld, loads, fresh, owner⟩ := revives
  have found : s.current id = some (.record fields) := by
    simpa [current, unheld] using loadFile_eq_iff.1 loads
  rcases change.of_live names found fresh with ⟨-, kept⟩ | ⟨ends, -⟩
  · have counted : isLiveOf s.now user (.text id, .record (call.edited s.now fields)) = true := by
      obtain ⟨name, owned⟩ := sound.owned found
      rw [isLiveOf_edited dated allowed, ownerIs_iff owned]
      exact Option.some.inj (owner.symm.trans owned)
    rw [Sessions.liveCount, kept.now, kept.active, putIn_of_absent (find?_eq_none_iff.1 unheld), countP_append,
      countP_singleton, if_pos counted]
    rfl
  · exact absurd ends stays

theorem liveCount_fewer (live : s.liveEntries = .ok entries) (timed : Timed s) (user : Value) :
    ({ s with active := entries } : Sessions).liveCount user = s.liveCount user := by
  rw [timed.liveEntries] at live
  cases live
  rw [Sessions.liveCount, Sessions.liveCount, countP_filter]
  refine countP_congr fun entry _ => ?_
  simp [isLiveOf]

/-- A session that is created counts for its player beside all others. -/
theorem Opened.liveCount {player : Value} {regime : Regime} (reached : Reached regime s)
    (opened : Opened player entries s t) (user : Value) :
    t.liveCount user = s.liveCount user + if player.equal user then 1 else 0 := by
  have fewer := filterM_sublist opened.live
  have absent : ∀ entry ∈ entries, entry.1 ≠ .text (idOf t.made) :=
    fun entry member => opened.made ▸ reached.sound.unheld_next entry (fewer.subset member)
  have kept : entries.countP (isLiveOf s.now user) = s.liveCount user := liveCount_fewer opened.live reached.timed user
  rw [Sessions.liveCount, opened.now, opened.active, putIn_of_absent absent, countP_append, kept,
    countP_singleton, isLiveOf_opening reached.dated]

section
variable (reached : Reached (ownedRegime first) s)
include reached

/-- What is listed after the expired sessions have left memory is what was listed before. -/
theorem length_ofUser_live (live : s.liveEntries = .ok entries)
    (user : Value) :
    ∃ sessions, ((ofUser user).runFrom { s with active := entries }).1 = .ok sessions ∧
      sessions.length = s.liveCount user := by
  obtain ⟨sound, timed, -⟩ := reached
  have fewer := filterM_sublist live
  have sound_entries : Sound (ownedRegime first) { s with active := entries } :=
    sound.fewer fewer rfl ⟨rfl, rfl, rfl⟩
  rw [← liveCount_fewer live timed]
  exact length_ofUser sound_entries (timed.fewer fewer) user

/-- A player below the limit gets a session. -/
theorem create_opens (limit : s.limit = 3)
    (room : s.liveCount user < 3) : ∃ entries, Opened user entries s ((Call.create user).act.runFrom s).2 := by
  have created := create_created reached.sound.housed user
  rw [Call.act, Act.runFrom_discard]
  generalize (create user).runFrom s = outcome at created
  cases created with
  | stuck undated =>
    rw [reached.timed.liveEntries] at undated
    cases undated
  | refused live full =>
    obtain ⟨sessions, listed, length⟩ := length_ofUser_live reached live user
    have reaches := (full sessions listed).1
    omega
  | opened _ _ _ opened => exact ⟨_, opened⟩

/-- A session that is renewed counts as before if it was in memory; if it was not, it comes back. -/
theorem Kept.liveCount_le (allowed : (ownedRegime first).Allowed call)
    (names : call.id? = some id) (stays : call ≠ .finish id) (found : s.current id = some (.record fields))
    (live : isExpired s.now (.record fields) = .ok false) (kept : Kept id (call.edited s.now fields) s t)
    (user : Value) : t.liveCount user ≤ s.liveCount user ∨ Revives s call user := by
  obtain ⟨sound, timed, dated⟩ := reached
  rw [liveCount, kept.active, kept.now]
  rcases held_or_stored found with held | ⟨held, loads⟩
  · have counted : isLiveOf s.now user (.text id, .record fields) = ownerIs user (.record fields) := by
      rw [timed.isExpired_current sound.once found, Except.ok.injEq] at live
      rw [isLiveOf, live, Bool.not_false, Bool.and_true]
    left
    rw [countP_putIn_of_found held ((isLiveOf_edited dated allowed _ _).trans counted.symm)]
    exact Nat.le_refl _
  · obtain ⟨name, owned⟩ := sound.owned found
    by_cases theirs : user = .text name
    · subst theirs
      exact .inr ⟨id, fields, names, stays, held, loadFile_eq_iff.2 loads, live, owned⟩
    · have uncounted : isLiveOf s.now user (.text id, .record (call.edited s.now fields)) ≠ true := by
        rw [isLiveOf_edited dated allowed, Ne, ownerIs_iff owned]
        exact theirs
      have le := Entries.countP_put_le (tests_text id) (isLiveOf s.now user) (.record (call.edited s.now fields)) s.active
      rw [if_neg uncounted] at le
      exact .inl le

/-- A call adds to the live sessions of a player only by creating one below the limit, or by bringing
one back. -/
theorem Change.liveCount_le (limit : s.limit = 3)
    (allowed : (ownedRegime first).Allowed call) (change : Change s call t) (user : Value) :
    t.liveCount user ≤ max 3 (s.liveCount user) ∨ Revives s call user := by
  have ⟨sound, timed, _⟩ := reached
  cases change with
  | waits seconds =>
    have later : s.now.micros ≤ (s.now.plusMicros (Moment.microsOf seconds)).micros := le_plusMicros allowed.1.2
    refine .inl (Nat.le_trans (countP_mono_left fun entry _ live => ?_) (Nat.le_max_right _ _))
    simp only [isLiveOf, Bool.and_eq_true, Bool.not_eq_true'] at live ⊢
    refine ⟨live.1, Bool.eq_false_iff.2 fun idle => ?_⟩
    rw [isIdle_mono later idle] at live
    cases live.2
  | lists user => exact .inl (Nat.le_max_right _ _)
  | absent names unknown same =>
    left
    rw [liveCount, same.active, same.now]
    exact Nat.le_max_right _ _
  | @rests _ id _ fields names found stale put =>
    have idle : isIdle s.now (.record fields) = true := by
      rw [timed.isExpired_current sound.once found] at stale
      simpa using stale
    have uncounted : isLiveOf s.now user (.text id, .record fields) = false := by simp [isLiveOf, idle]
    left
    rw [liveCount, put.active, put.now]
    have le := Entries.countP_put_le (tests_text id) (isLiveOf s.now user) (.record fields) s.active
    rw [if_neg (by simp [uncounted])] at le
    exact Nat.le_trans le (Nat.le_max_right _ _)
  | renews names stays found live kept =>
    have renewed := kept.liveCount_le reached allowed names stays found live user
    exact renewed.imp_left fun le => Nat.le_trans le (Nat.le_max_right _ _)
  | ends found live archived =>
    left
    rw [liveCount, archived.active, archived.now]
    exact Nat.le_trans (Sublist.countP_le filter_sublist) (Nat.le_max_right _ _)
  | stuck undated => exact .inl (Nat.le_max_right _ _)
  | refuses live => exact .inl (liveCount_fewer live timed user ▸ Nat.le_max_right _ _)
  | opens few opened =>
    obtain ⟨-, name, rfl⟩ := allowed
    obtain ⟨listed, lists, length⟩ := length_ofUser_live reached opened.live (.text name)
    cases few.1.symm.trans lists
    have room := few.2
    have count := opened.liveCount reached user
    rw [limit] at room
    left
    split at count
    · rename_i theirs
      rw [text_equal] at theirs
      subst theirs
      omega
    · omega

end

end

end Playhouse.Sessions
