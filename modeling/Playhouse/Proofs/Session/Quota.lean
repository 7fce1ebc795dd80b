import Playhouse.Proofs.Session.Count

/-!
The limit on live sessions along runs. It is looked at when a session is created and at no other time, so
it holds exactly as long as no session comes back from its file to a player who is at the limit. Only
sessions that were ended come back so, unless a file is used by several names.
-/
namespace Playhouse.Sessions
open FileTree Value List

variable {fields : Fields} {name : String}

/-! ### Ended sessions -/

section
variable {first : Moment} {s t : Sessions} {call : Call}

/-- A session was ended in the course of some calls. -/
def Ended (first : Moment) (calls : List Call) (id : String) : Prop :=
  ∃ earlier, earlier ++ [.finish id] <+: calls ∧
    ((finish (.text id)).runFrom ((start first).after earlier)).1 = .ok true

variable {id : String} {regime : Regime}

theorem stored_filed_of_ne {other : String} {old new : FileTree} (plain : '/' ∉ id.toList)
    (plain_other : '/' ∉ other.toList) (differs : other ≠ id) (filed : Filed id fields old new) :
    stored new other = stored old other :=
  stored_eq_of_text? filed.isDirectory (filed.text?_of_ne plain plain_other differs)

section
variable (sound : Sound regime s) (mirrored : Mirrored s)
include sound mirrored

/-- What the file of a session in memory reads as is that session. -/
theorem Mirrored.eq_of_stored {held session : Value} (member : (.text id, held) ∈ s.active)
    (found : Sessions.stored s.tree id = some session) : session = held := by
  have short := hasLongName_of_stored found
  have on_file := mirrored.filed id held member short
  obtain ⟨name, fields, same, -, good, -⟩ := sound.held _ member
  cases same
  obtain ⟨-, text, written, read⟩ := stored_eq_some_iff.1 found
  cases written.symm.trans on_file
  exact Json.eq_of_read_spread (regime.json good).2 read

/-- A live session on file that is not among the live ones in memory is not in memory at all. -/
theorem unheld_of_liveEntries {session : Value} {entries : List (Value × Value)} (timed : Timed s)
    (live : s.liveEntries = .ok entries) (unheld : ∀ entry ∈ entries, entry.1 ≠ .text id)
    (found : stored s.tree id = some session) (fresh : isIdle s.now session = false) : s.find? (.text id) = none := by
  rw [timed.liveEntries] at live
  cases live
  rw [Option.eq_none_iff_forall_not_mem]
  intro held inside
  have member := (find?_eq_some_iff sound.once).1 inside
  have same := mirrored.eq_of_stored sound member found
  subst same
  exact unheld _ (mem_filter.2 ⟨member, by simp [fresh]⟩) rfl

/-- A live session is on file alone only where a call has just ended it, or where it was so before. -/
theorem Change.ended_or (timed : Timed s) (forward : call.Forward) (plain_call : call.IsPlain)
    (change : Change s call t) (plain : '/' ∉ id.toList) (unheld : t.find? (.text id) = none)
    (found : stored t.tree id = some (.record fields)) (fresh : isIdle t.now (.record fields) = false) :
    (call = .finish id ∧ ((finish (.text id)).runFrom s).1 = .ok true) ∨
      (s.find? (.text id) = none ∧ stored s.tree id = some (.record fields) ∧
        isIdle s.now (.record fields) = false) := by
  cases change with
  | waits seconds =>
    refine .inr ⟨unheld, found, Bool.eq_false_iff.2 fun idle => ?_⟩
    rw [isIdle_mono (le_plusMicros forward) idle] at fresh
    cases fresh
  | lists user => exact .inr ⟨unheld, found, fresh⟩
  | absent names unknown same =>
    rw [same.tree] at found
    rw [same.now] at fresh
    rw [find?, same.active] at unheld
    exact .inr ⟨unheld, found, fresh⟩
  | rests names found_call stale put =>
    rw [put.tree] at found
    rw [put.now] at fresh
    exact .inr ⟨find?_eq_none_iff.2 ((unheld_putIn_iff put.active).1 unheld).2, found, fresh⟩
  | renews names stays found_call live kept =>
    obtain ⟨differs, absent⟩ := (unheld_putIn_iff kept.active).1 unheld
    rw [stored_filed_of_ne (plain_call _ names) plain differs kept.filed] at found
    rw [kept.now] at fresh
    exact .inr ⟨find?_eq_none_iff.2 absent, found, fresh⟩
  | @ends other _ content found_call live archived =>
    by_cases same : id = other
    · subst same
      exact .inl ⟨rfl, finish_live sound.ordered found_call live⟩
    · rw [stored_filed_of_ne (plain_call _ rfl) plain same archived.filed] at found
      rw [archived.now] at fresh
      refine .inr ⟨find?_eq_none_iff.2 fun entry member here => ?_, found, fresh⟩
      rw [find?_eq_none_iff, archived.active] at unheld
      exact unheld entry (mem_filter.2 ⟨member, by simp [here, same]⟩) here
  | stuck undated => exact .inr ⟨unheld, found, fresh⟩
  | refuses live =>
    exact .inr ⟨unheld_of_liveEntries sound mirrored timed live (find?_eq_none_iff.1 unheld) found fresh, found, fresh⟩
  | opens few opened =>
    obtain ⟨differs, absent⟩ := (unheld_putIn_iff opened.active).1 unheld
    rw [stored_filed_of_ne (plain_idOf _) plain differs opened.filed] at found
    rw [opened.now] at fresh
    exact .inr ⟨unheld_of_liveEntries sound mirrored timed opened.live absent found fresh, found, fresh⟩

end
end

/-! ### Runs -/

/-- The list of a player's sessions has at most so many. -/
def AtMost (count : Nat) (s : Sessions) (user : Value) : Prop :=
  ∃ sessions, ((ofUser user).runFrom s).1 = .ok sessions ∧ sessions.length ≤ count

section
variable {first : Moment} {s t : Sessions} {call : Call} {calls before : List Call}

theorem atMost_iff (reached : Reached (ownedRegime first) s) {count : Nat} {user : Value} :
    AtMost count s user ↔ s.liveCount user ≤ count := by
  obtain ⟨sessions, listed, length⟩ := length_ofUser reached.sound reached.timed user
  rw [← length]
  refine ⟨?_, fun le => ⟨sessions, listed, le⟩⟩
  rintro ⟨others, same, le⟩
  cases listed.symm.trans same
  exact le

theorem Sound.limit_after {regime : Regime} (sound : Sound regime s) (allowed : ∀ call ∈ calls, regime.Allowed call) :
    (s.after calls).limit = s.limit :=
  sound.along (P := fun t => t.limit = s.limit) allowed (fun _ _ change same => change.frame.2.1.trans same) rfl

theorem isPrefix_concat (leads : before ++ [call] <+: calls) : before <+: calls ∧ call ∈ calls :=
  ⟨(prefix_append _ _).trans leads, leads.subset (mem_append_right _ mem_cons_self)⟩

/-- In a run with ids without a slash, a live session that is on file alone has been ended. -/
theorem ended_of_unheld {regime : Regime} {id : String}
    (reached : ∀ before, before <+: calls → Reached regime ((start first).after before))
    (forward : ∀ call ∈ calls, call.Forward) (plain_calls : ∀ call ∈ calls, call.IsPlain)
    (allowed : ∀ call ∈ calls, regime.Allowed call) (plain : '/' ∉ id.toList) (leads : before <+: calls)
    (unheld : ((start first).after before).find? (.text id) = none)
    (found : stored ((start first).after before).tree id = some (.record fields))
    (fresh : isIdle ((start first).after before).now (.record fields) = false) : Ended first before id := by
  induction before using reverseRecOn with
  | nil =>
    obtain ⟨-, -, -, -, on_file⟩ := (reached [] leads).sound.stored found
    rw [after, foldl_nil, text?_start] at on_file
    cases on_file
  | append_singleton before call ih =>
    obtain ⟨leads_before, member⟩ := isPrefix_concat leads
    obtain ⟨sound, timed, -⟩ := reached before leads_before
    have mirrored : Mirrored ((start first).after before) :=
      (mirrored_start first).after (reached [] nil_prefix).sound
        (fun call inside => plain_calls call (leads_before.subset inside))
        (fun call inside => allowed call (leads_before.subset inside))
    rw [after_concat] at unheld found fresh
    rcases (act_change sound.ordered call).ended_or sound mirrored timed (forward call member) (plain_calls call member)
      plain unheld found fresh with ⟨rfl, ends⟩ | ⟨unheld, found, fresh⟩
    · exact ⟨before, prefix_refl _, ends⟩
    · obtain ⟨earlier, part, ends⟩ := ih leads_before unheld found fresh
      exact ⟨earlier, part.trans (prefix_append _ _), ends⟩

/-- As long as sessions come back below the limit only, no player gets above it. -/
theorem liveCount_le_of_revived_below
    (reached : ∀ before, before <+: calls → Reached (ownedRegime first) ((start first).after before))
    (allowed : ∀ call ∈ calls, (ownedRegime first).Allowed call)
    (below : ∀ before call, before ++ [call] <+: calls → ∀ user, Revives ((start first).after before) call user →
      ((start first).after before).liveCount user ≤ 2)
    (leads : before <+: calls) (user : Value) : ((start first).after before).liveCount user ≤ 3 := by
  induction before using reverseRecOn with
  | nil => exact Nat.zero_le 3
  | append_singleton before call ih =>
    obtain ⟨leads_before, member⟩ := isPrefix_concat leads
    have store := reached before leads_before
    have change := act_change store.sound.ordered call
    have limit : ((start first).after before).limit = 3 :=
      (reached [] nil_prefix).sound.limit_after fun other inside => allowed other (leads_before.subset inside)
    have held := ih leads_before
    rw [after_concat]
    rcases change.liveCount_le store limit (allowed call member) user with le | revives
    · omega
    · rw [revives.liveCount store.sound store.dated (allowed call member) change]
      have room := below before call leads user revives
      omega

/-- In every run of calls with JSON arguments on a clock that goes forward, where sessions belong to named
players and are not passed on, the list of each player's sessions has at most three at all times exactly
if no session comes back from its file to a player who has three. With ids without a slash, only a
session that was ended comes back so. -/
theorem quota_iff_revived_below_limit (first : Moment) (calls : List Call)
    (allowed : ∀ call ∈ calls, call.IsJson ∧ call.Forward ∧ call.KeepsOwner) (begins : 0 ≤ first.micros)
    (ends : ((start first).after calls).now.micros < Moment.calendarEnd) :
    ((∀ before, before <+: calls → ∀ user, AtMost 3 ((start first).after before) user) ↔
      ∀ before call, before ++ [call] <+: calls → ∀ user, Revives ((start first).after before) call user →
        AtMost 2 ((start first).after before) user) ∧
    ((∀ call ∈ calls, call.IsPlain) →
      ∀ before call, before ++ [call] <+: calls → ∀ user, Revives ((start first).after before) call user →
        ∀ id, call.id? = some id → Ended first before id) := by
  have allowed : ∀ call ∈ calls, (ownedRegime first).Allowed call :=
    fun call member => and_assoc.2 (allowed call member)
  have forward : ∀ call ∈ calls, call.Forward := fun call member => (allowed call member).1.2
  have reached (before : List Call) (leads : before <+: calls) :
      Reached (ownedRegime first) ((start first).after before) :=
    reached_after (Int.le_refl _) allowed forward (fun good => good.1.2) begins ends leads
  refine ⟨⟨fun quota before call leads user revives => ?_, fun below before leads user => ?_⟩,
    fun plain before call leads user revives id names => ?_⟩
  · obtain ⟨leads_before, member⟩ := isPrefix_concat leads
    have store := reached before leads_before
    have one_more := revives.liveCount store.sound store.dated (allowed call member)
      (act_change store.sound.ordered call)
    have full := (atMost_iff (reached _ leads)).1 (quota _ leads user)
    rw [after_concat, one_more] at full
    exact (atMost_iff store).2 (Nat.le_of_succ_le_succ full)
  · refine (atMost_iff (reached before leads)).2 ?_
    refine liveCount_le_of_revived_below reached allowed (fun before call leads user revives => ?_) leads user
    exact (atMost_iff (reached before (isPrefix_concat leads).1)).1 (below before call leads user revives)
  · obtain ⟨leads_before, member⟩ := isPrefix_concat leads
    obtain ⟨sound, timed, -⟩ := reached before leads_before
    obtain ⟨other, fields, names_other, -, unheld, loads, fresh, -⟩ := revives
    cases names.symm.trans names_other
    have found := loadFile_eq_iff.1 loads
    obtain ⟨last, active, -⟩ := timed.stored _ _ found
    rw [isExpired_eq active, Except.ok.injEq] at fresh
    exact ended_of_unheld reached forward plain allowed (plain call member _ names) leads_before unheld found fresh

/-- A player ends the first of their sessions, creates three more and asks for the ended one. -/
def comeback : List Call :=
  [.create (.text "ann"), .finish (idOf 1), .create (.text "ann"), .create (.text "ann"), .create (.text "ann"),
    .get (idOf 1)]

/-- A live session of a player is on file alone, and the player has so many others. -/
structure Apart (first : Moment) (n : Nat) (user : Value) (count : Nat) (s : Sessions) : Prop where
  reached : Reached (ownedRegime first) s
  limit : s.limit = 3
  made : n ≤ s.made
  liveCount : s.liveCount user = count
  unheld : s.find? (.text (idOf n)) = none
  live : ∃ fields : Fields, stored s.tree (idOf n) = some (.record fields) ∧
    isIdle s.now (.record fields) = false ∧ fields.get? (.text "user_id") = some user

/-- Creating another session leaves it there. -/
theorem Apart.create {n count : Nat}
    (apart : Apart first n (.text name) count ((start first).after before)) (room : count < 3)
    (reached : Reached (ownedRegime first) ((start first).after (before ++ [.create (.text name)]))) :
    Apart first n (.text name) (count + 1) ((start first).after (before ++ [.create (.text name)])) := by
  obtain ⟨entries, opened⟩ := create_opens apart.reached apart.limit (apart.liveCount ▸ room)
  rw [after_concat] at reached ⊢
  generalize ((Call.create (.text name)).act.runFrom ((start first).after before)).2 = t at reached opened ⊢
  have fewer := filterM_sublist opened.live
  have other : idOf n ≠ idOf t.made := by
    intro same
    have number := idOf_inj same
    have made := apart.made
    rw [opened.made] at number
    omega
  refine ⟨reached, opened.limit.trans apart.limit, ?_, ?_, ?_, ?_⟩
  · rw [opened.made]
    exact Nat.le_succ_of_le apart.made
  · rw [opened.liveCount apart.reached, apart.liveCount]
    simp
  · rw [unheld_putIn_iff opened.active]
    exact ⟨other, fun entry member => find?_eq_none_iff.1 apart.unheld entry (fewer.subset member)⟩
  · rw [stored_filed_of_ne (plain_idOf _) (plain_idOf n) other opened.filed, opened.now]
    exact apart.live

/-- Ending the only session of a store sets it apart. -/
theorem apart_of_first (dated : first.InCalendar) (json : IsJson (.text name))
    (reached : ∀ before, before <+: [.create (.text name), .finish (idOf 1)] →
      Reached (ownedRegime first) ((start first).after before)) :
    Apart first 1 (.text name) 0 ((start first).after [.create (.text name), .finish (idOf 1)]) := by
  obtain ⟨s, after_create, opened, active, found, live⟩ := first_created dated (.text name)
  have after_both : (start first).after [.create (.text name), .finish (idOf 1)] =
      ((Call.finish (idOf 1)).act.runFrom s).2 := by
    rw [← after_create]
    exact after_concat _ [_] _
  have ordered := (reached [.create (.text name)] ⟨_, rfl⟩).sound.ordered
  have both := reached _ (prefix_refl _)
  rw [after_create] at ordered
  rw [after_both] at both ⊢
  have now : s.now = first := opened.now
  have made : s.made = 1 := opened.made
  have archived := finish_archived ordered found live
  generalize ((Call.finish (idOf 1)).act.runFrom s).2 = t at archived both ⊢
  rw [now] at archived
  have none_left : t.active = [] := by
    rw [archived.active, active]
    simp
  have opening_json := fieldsJson_opening first 1 json
  generalize edits : (Call.finish (idOf 1)).edited first (opening first (idOf 1) (.text name)) = ended at archived
  have ended_json : FieldsJson ended := edits ▸ fieldsJson_edited trivial opening_json
  have shallow : Value.nesting (.record ended) ≤ max 2 0 := edits ▸ nesting_edited_le trivial opening_json
  have fits : Fits (idOf 1) (.record ended) := ⟨by decide, Nat.le_trans shallow (by decide)⟩
  refine ⟨both, archived.limit.trans opened.limit, archived.made.symm ▸ made.symm ▸ Nat.le_refl 1, ?_, ?_,
    ended, stored_of_filed both.sound.housed (passable_plain (plain_idOf 1)) ended_json fits archived.filed, ?_, ?_⟩
  · rw [liveCount, none_left]
    rfl
  · rw [find?, none_left]
    rfl
  · rw [archived.now, now]
    exact isIdle_now dated (edits ▸ get?_edited _ _ _)
  · have owner := @get?_owner_edited first (opening first (idOf 1) (.text name)) (.finish (idOf 1)) trivial trivial
    rw [← edits, owner]
    simp [opening]

/-- The player then has four sessions: one that was ended has come back to a player who had three. -/
theorem comeback_exceeds_quota :
    Ended ⟨0⟩ (comeback.take 5) (idOf 1) ∧
      ¬ ∀ before, before <+: comeback → ∀ user, AtMost 3 ((start ⟨0⟩).after before) user := by
  have json : IsJson (.text "ann") := Text.paired_of_all (by decide)
  have allowed : ∀ call ∈ comeback, call.IsJson ∧ call.Forward ∧ call.KeepsOwner := by
    simp [comeback, Call.IsJson, Call.Forward, Call.KeepsOwner, json]
  have plain : ∀ call ∈ comeback, call.IsPlain := by
    simp [comeback, Call.IsPlain, Call.id?, plain_idOf]
  have dated : (Moment.mk 0).InCalendar := ⟨Int.le_refl 0, by decide⟩
  have regular : ∀ call ∈ comeback, (ownedRegime ⟨0⟩).Allowed call :=
    fun call member => and_assoc.2 (allowed call member)
  have begins : Sound (ownedRegime ⟨0⟩) (start ⟨0⟩) := sound_start (Int.le_refl _)
  have ends : ((start ⟨0⟩).after comeback).now.micros < Moment.calendarEnd := by
    rw [begins.now_after regular (by simp [comeback, Call.later])]
    exact dated.2
  have reached (before : List Call) (leads : before <+: comeback) :
      Reached (ownedRegime ⟨0⟩) ((start ⟨0⟩).after before) :=
    reached_after (Int.le_refl _) regular (fun call member => (regular call member).1.2) (fun good => good.1.2)
      (Int.le_refl _) ends leads
  have apart : Apart ⟨0⟩ 1 (.text "ann") 3 ((start ⟨0⟩).after (comeback.take 5)) := by
    have ended := apart_of_first dated json fun before leads => reached before (leads.trans ⟨_, rfl⟩)
    have one := ended.create (by decide) (reached (comeback.take 3) (List.take_prefix _ _))
    have two := one.create (by decide) (reached (comeback.take 4) (List.take_prefix _ _))
    exact two.create (by decide) (reached (comeback.take 5) (List.take_prefix _ _))
  obtain ⟨fields, found, fresh, owner⟩ := apart.live
  obtain ⟨last, active, -⟩ := apart.reached.timed.stored _ _ found
  have revives : Revives ((start ⟨0⟩).after (comeback.take 5)) (.get (idOf 1)) (.text "ann") := by
    refine ⟨idOf 1, fields, rfl, by simp, apart.unheld, loadFile_eq_iff.2 found, ?_, owner⟩
    exact (isExpired_eq active _).trans (congrArg _ fresh)
  obtain ⟨quota_iff, ended⟩ := quota_iff_revived_below_limit ⟨0⟩ comeback allowed (Int.le_refl _) ends
  refine ⟨ended plain (comeback.take 5) (.get (idOf 1)) ⟨[], rfl⟩ _ revives _ rfl, fun quota => ?_⟩
  have below := quota_iff.1 quota (comeback.take 5) (.get (idOf 1)) ⟨[], rfl⟩ _ revives
  have two := (atMost_iff apart.reached).1 below
  rw [apart.liveCount] at two
  exact absurd two (by decide)

end

end Playhouse.Sessions
