import Playhouse.Proofs.Session.Fetching

/-!
Runs of the session store. Every call goes through the session that its id now stands for, in memory or
else on file; what one call can do to the store is said once, as a relation, and every fact about runs
follows from it.
-/
namespace Playhouse.Sessions
open Act Value

variable {fields : Fields}

/-! ### Calls -/

/-- One call of the store, or the time that passes between two. -/
inductive Call where
  | create (user : Value)
  | get (id : String)
  | update (id : String) (changes : Fields)
  | finish (id : String)
  | list (user : Value)
  | history (id : String)
  | record (id : String) (event : Value)
  | wait (seconds : Number)

namespace Call

def act : Call → Act Sessions Unit
  | create user => discard (Sessions.create user)
  | get id => discard (Sessions.get? (.text id))
  | update id changes => discard (Sessions.update (.text id) (.record changes))
  | finish id => discard (Sessions.finish (.text id))
  | list user => discard (Sessions.ofUser user)
  | history id => discard (Sessions.history (.text id))
  | record id event => discard (Sessions.record (.text id) event)
  | wait seconds => Sessions.wait seconds

/-- The id that a call names. -/
def id? : Call → Option String
  | get id | update id _ | finish id | history id | record id _ => some id
  | create _ | list _ | wait _ => none

/-- What a call makes of a live session. -/
def edited (now : Moment) (fields : Fields) : Call → Fields
  | update _ changes => refreshed now ((refreshed now fields).update changes)
  | finish _ =>
    ((refreshed now fields).set (.text "status") (.text "completed")).set (.text "end_time") (.text now.iso)
  | record _ (.record event) =>
    match (refreshed now fields).get? (.text "user_choices") with
    | some (.list events) => (refreshed now fields).set (.text "user_choices")
        (.list (events ++ [.record (Fields.set (.text "timestamp") (.text now.iso) event)]))
    | _ => refreshed now fields
  | _ => refreshed now fields

/-- The ways in which a call works on a live session. -/
inductive Edited (now : Moment) (fields : Fields) : Call → Fields → Prop where
  | renewed {call : Call} : Edited now fields call (refreshed now fields)
  | changed (id : String) (changes : Fields) :
      Edited now fields (update id changes) (refreshed now ((refreshed now fields).update changes))
  | ended (id : String) : Edited now fields (finish id)
      (((refreshed now fields).set (.text "status") (.text "completed")).set (.text "end_time") (.text now.iso))
  | noted (id : String) (event : Fields) {events : List Value}
      (held : (refreshed now fields).get? (.text "user_choices") = some (.list events)) :
      Edited now fields (record id (.record event)) ((refreshed now fields).set (.text "user_choices")
        (.list (events ++ [.record (event.set (.text "timestamp") (.text now.iso))])))

theorem edited_edited (now : Moment) (fields : Fields) (call : Call) :
    Edited now fields call (call.edited now fields) := by
  cases call with
  | update id changes => exact .changed id changes
  | finish id => exact .ended id
  | record id event =>
    cases event with
    | record event =>
      cases held : (refreshed now fields).get? (.text "user_choices") with
      | none => simpa [edited, held] using Edited.renewed
      | some choices =>
        cases choices with
        | list events => simpa [edited, held] using Edited.noted id event held
        | _ => simpa [edited, held] using Edited.renewed
    | _ => exact .renewed
  | _ => exact .renewed

end Call

/-- The store after some calls, whatever became of each. -/
def after (s : Sessions) (calls : List Call) : Sessions :=
  calls.foldl (fun s call => (call.act.runFrom s).2) s

/-- A session as it is created. -/
def opening (now : Moment) (id : String) (user : Value) : Fields :=
  [("session_id", .text id), ("user_id", user), ("start_time", .text now.iso), ("last_activity", .text now.iso),
    ("story_state", .empty), ("user_choices", .list []), ("status", .text "active")]

/-- The entries of memory that have not expired. -/
def liveEntries (s : Sessions) : Except Fault (List (Value × Value)) :=
  s.active.filterM fun entry => do return !(← isExpired s.now entry.2)

/-- A session has been saved and has left memory. -/
structure Archived (id : String) (fields : Fields) (s t : Sessions) : Prop extends Frame s t where
  active : t.active = s.active.filter fun entry => !entry.1.equal (.text id)
  filed : Filed id fields s.tree t.tree

/-- A new session has been put beside those in memory that have not expired. -/
structure Opened (user : Value) (entries : List (Value × Value)) (s t : Sessions) : Prop where
  live : s.liveEntries = .ok entries
  now : t.now = s.now
  limit : t.limit = s.limit
  made : t.made = s.made + 1
  active : t.active = putIn (.text (idOf t.made)) (.record (opening s.now (idOf t.made) user)) entries
  filed : Filed (idOf t.made) (opening s.now (idOf t.made) user) s.tree t.tree

/-- What is found in memory once a session has been opened. -/
theorem Opened.find? {user : Value} {entries : List (Value × Value)} {s t : Sessions} (opened : Opened user entries s t)
    (id : String) : t.find? (.text id) = if id = idOf t.made then some (.record (opening s.now (idOf t.made) user))
      else ({ s with active := entries } : Sessions).find? (.text id) :=
  find?_of_putIn opened.active id

/-- Everything that a call can do to the store. -/
inductive Change (s : Sessions) : Call → Sessions → Prop where
  | waits (seconds : Number) :
      Change s (.wait seconds) { s with now := s.now.plusMicros (Moment.microsOf seconds) }
  | lists (user : Value) : Change s (.list user) s
  | absent {call : Call} {id : String} {t : Sessions} (names : call.id? = some id) (unknown : s.current id = none)
      (same : Same s t) : Change s call t
  | rests {call : Call} {id : String} {t : Sessions} {fields : Fields} (names : call.id? = some id)
      (found : s.current id = some (.record fields)) (stale : isExpired s.now (.record fields) ≠ .ok false)
      (put : Put id fields s t) : Change s call t
  | renews {call : Call} {id : String} {t : Sessions} {fields : Fields} (names : call.id? = some id)
      (stays : call ≠ .finish id) (found : s.current id = some (.record fields))
      (live : isExpired s.now (.record fields) = .ok false) (kept : Kept id (call.edited s.now fields) s t) :
      Change s call t
  | ends {id : String} {t : Sessions} {fields : Fields} (found : s.current id = some (.record fields))
      (live : isExpired s.now (.record fields) = .ok false)
      (archived : Archived id ((Call.finish id).edited s.now fields) s t) : Change s (.finish id) t
  | stuck {user : Value} {fault : Fault} (undated : s.liveEntries = .error fault) : Change s (.create user) s
  | refuses {user : Value} {entries : List (Value × Value)} (live : s.liveEntries = .ok entries) :
      Change s (.create user) { s with active := entries }
  | opens {user : Value} {entries : List (Value × Value)} {sessions : List Value} {t : Sessions}
      (few : ((ofUser user).runFrom { s with active := entries }).1 = .ok sessions ∧ (sessions.length : Int) < s.limit)
      (opened : Opened user entries s t) : Change s (.create user) t

theorem Kept.housed {id : String} {s t : Sessions} (kept : Kept id fields s t)
    (housed : Housed s.tree) (inside : Inside id) : Housed t.tree := housed.filed inside kept.filed

section
variable {s : Sessions} {call : Call} {id : String}

section
variable (ordered : Ordered s)
include ordered

/-- A call that asks for a session and then works on it does what the work on a live one does. -/
theorem change_of_get? {α : Type} {next : Option Fields → Act Sessions α} (names : call.id? = some id)
    (stays : call ≠ .finish id) (quiet : ∀ t, ((next none).runFrom t).2 = t)
    (works : ∀ fields t, Inside id → Housed t.tree → Kept id (refreshed s.now fields) s t → Kept id (call.edited s.now
      fields) s ((next (some (refreshed s.now fields))).runFrom t).2) :
    Change s call ((get? (.text id) >>= next).runFrom s).2 := by
  have fetched := get?_fetched ordered id
  rw [runFrom_bind]
  generalize (get? (.text id)).runFrom s = outcome at fetched
  cases fetched with
  | absent unknown same =>
    simp only [quiet]
    exact .absent names unknown same
  | expired found idle put =>
    simp only [quiet]
    exact .rests names found (by simp [idle]) put
  | faulty found undated put => exact .rests names found (by simp [undated]) put
  | live found fresh kept =>
    have inside := ordered.inside id _ found
    exact .renews names stays found fresh (works _ _ inside (kept.housed ordered.housed inside) kept)

theorem update_change (id : String) (changes : Fields) :
    Change s (.update id changes) ((update (.text id) (.record changes)).runFrom s).2 := by
  refine change_of_get? ordered rfl (by simp) (fun t => rfl) fun fields t inside housed kept => ?_
  rw [← kept.now] at kept ⊢
  obtain ⟨u, saves, later⟩ := keep_run housed inside ((Call.update id changes).edited t.now fields)
  simp only [Call.edited, refreshed] at saves
  simp only [Fields.mergeFrom, refreshed, runFrom_bind, put_run, stamp_run, putIn_putIn, saves, runFrom_pure]
  exact kept.trans later

theorem history_change (id : String) : Change s (.history id) ((history (.text id)).runFrom s).2 :=
  change_of_get? ordered rfl (by simp) (fun t => rfl) fun _ _ _ _ kept => kept

theorem record_change (id : String) (event : Value) :
    Change s (.record id event) ((record (.text id) event).runFrom s).2 := by
  refine change_of_get? ordered rfl (by simp) (fun t => rfl) fun fields t inside housed kept => ?_
  rw [← kept.now] at kept ⊢
  cases event with
  | record event =>
    cases held : (refreshed t.now fields).get? (.text "user_choices") with
    | none => simpa [timed, enter, Call.edited, held, need, stamp_run] using kept
    | some choices =>
      cases choices with
      | list events =>
        obtain ⟨u, saves, later⟩ := keep_run housed inside ((Call.record id (.record event)).edited t.now fields)
        simp only [Call.edited, held] at saves
        simp only [timed, enter, held, need, runFrom_bind, runFrom_liftM, stamp_run, put_run, saves, runFrom_pure]
        exact kept.trans later
      | _ => simpa [timed, enter, Call.edited, held, need, stamp_run] using kept
  | _ => simpa [timed, Call.edited] using kept

theorem finish_change (id : String) : Change s (.finish id) ((finish (.text id)).runFrom s).2 := by
  have fetched := get?_fetched ordered id
  rw [finish, runFrom_bind]
  generalize (get? (.text id)).runFrom s = outcome at fetched
  cases fetched with
  | absent unknown same => exact .absent rfl unknown same
  | expired found idle put => exact .rests rfl found (by simp [idle]) put
  | faulty found undated put => exact .rests rfl found (by simp [undated]) put
  | @live t fields found fresh kept =>
    have inside := ordered.inside id _ found
    obtain ⟨u, saves, active, filed, frame⟩ :=
      save_filed (kept.housed ordered.housed inside) inside ((Call.finish id).edited s.now fields)
    have archived : Archived id ((Call.finish id).edited s.now fields) s
        { u with active := u.active.filter fun entry => !entry.1.equal (.text id) } := by
      refine ⟨kept.toFrame.trans ⟨frame.now, frame.made, frame.limit⟩, ?_, kept.filed.trans filed⟩
      rw [active, kept.active]
      exact Entries.filter_put (tests_text id) _ _
    have now : s.now = t.now := kept.now.symm
    simp only [Call.edited, refreshed, now] at saves
    simp only [refreshed, runFrom_bind, stamp_run, now, saves, drop, runFrom_modify, runFrom_pure]
    exact .ends found fresh archived

end

/-- What creating a session can lead to. -/
inductive Created (s : Sessions) (user : Value) : Except Fault Fields × Sessions → Prop where
  | stuck {fault : Fault} (undated : s.liveEntries = .error fault) : Created s user (.error fault, s)
  | refused {entries : List (Value × Value)} {fault : Fault} (live : s.liveEntries = .ok entries)
      (full : ∀ sessions, ((ofUser user).runFrom { s with active := entries }).1 = .ok sessions →
        s.limit ≤ sessions.length ∧ fault = .sessionLimit s.limit) :
      Created s user (.error fault, { s with active := entries })
  | opened {entries : List (Value × Value)} {sessions : List Value} {t : Sessions}
      (live : s.liveEntries = .ok entries)
      (listed : ((ofUser user).runFrom { s with active := entries }).1 = .ok sessions)
      (few : (sessions.length : Int) < s.limit) (opened : Opened user entries s t) :
      Created s user (.ok (opening s.now (idOf t.made) user), t)

theorem clean_run (s : Sessions) : (clean).runFrom s = match s.liveEntries with
      | .ok entries => (.ok (), { s with active := entries })
      | .error fault => (.error fault, s) := by
  have run : (clean).runFrom s = (do
      let entries ← liftM s.liveEntries
      set { s with active := entries } : Act Sessions Unit).runFrom s := rfl
  rw [run, runFrom_bind, runFrom_liftM]
  cases s.liveEntries <;> rfl

theorem ofUser_run (s : Sessions) (user : Value) : ((ofUser user).runFrom s).2 = s := by
  simp [ofUser]

theorem create_created (housed : Housed s.tree) (user : Value) : Created s user ((create user).runFrom s) := by
  simp only [create, runFrom_bind, clean_run]
  cases live : s.liveEntries with
  | error fault => exact .stuck live
  | ok entries =>
    have stays := ofUser_run { s with active := entries } user
    simp only
    rcases listed : (ofUser user).runFrom { s with active := entries } with ⟨fault | sessions, t⟩
    · rw [listed] at stays
      subst stays
      refine .refused live fun sessions found => ?_
      rw [listed] at found
      cases found
    · rw [listed] at stays
      subst stays
      by_cases full : s.limit ≤ sessions.length
      · simp only [runFrom_get, full, if_true, runFrom_bind, runFrom_throw]
        refine .refused live fun others found => ?_
        rw [listed] at found
        cases found
        exact ⟨full, rfl⟩
      · obtain ⟨t, saves, kept⟩ := keep_run (s := { s with active := entries, made := s.made + 1 }) housed
          (inside_plain (plain_idOf (s.made + 1))) (opening s.now (idOf (s.made + 1)) user)
        have made : t.made = s.made + 1 := kept.made
        have opened : Opened user entries s t := by
          refine ⟨live, kept.now, kept.limit, made, ?_, ?_⟩
          · rw [made]
            exact kept.active
          · rw [made]
            exact kept.filed
        simp only [opening] at saves
        simp only [runFrom_get, full, if_false, runFrom_bind, runFrom_modify, stamp_run, put_run, saves, runFrom_pure]
        have created := Created.opened live (by rw [listed]) (Int.not_le.1 full) opened
        rw [made] at created
        exact created

/-- The first session of a store is created. -/
theorem create_first (housed : Housed s.tree) (unused : s.active = []) (room : 0 < s.limit) (user : Value) :
    ∃ t, (create user).runFrom s = (.ok (opening s.now (idOf t.made) user), t) ∧ Opened user [] s t := by
  have live : s.liveEntries = .ok [] := by
    rw [liveEntries, unused]
    rfl
  have listed : ((ofUser user).runFrom { s with active := [] }).1 = .ok [] := rfl
  have created := create_created housed user
  generalize (create user).runFrom s = outcome at created
  cases created with
  | stuck undated =>
    rw [live] at undated
    cases undated
  | refused found full =>
    rw [live] at found
    cases found
    exact absurd (full [] listed).1 (Int.not_le.2 room)
  | opened found _ _ opened =>
    rw [live] at found
    cases found
    exact ⟨_, rfl, opened⟩

theorem create_change (ordered : Ordered s) (user : Value) : Change s (.create user) ((create user).runFrom s).2 := by
  have created := create_created ordered.housed user
  generalize (create user).runFrom s = outcome at created
  cases created with
  | stuck undated => exact .stuck undated
  | refused live full => exact .refuses live
  | opened live listed few opened => exact .opens ⟨listed, few⟩ opened

/-- Every call does one of the things a call can do. -/
theorem act_change (ordered : Ordered s) (call : Call) : Change s call (call.act.runFrom s).2 := by
  cases call with
  | create user => simpa [Call.act] using create_change ordered user
  | get id =>
    have asked : Change s (.get id) ((get? (.text id) >>= pure).runFrom s).2 :=
      change_of_get? ordered rfl (by simp) (fun t => rfl) fun _ _ _ _ kept => kept
    simpa [Call.act] using asked
  | update id changes => simpa [Call.act] using update_change ordered id changes
  | finish id => simpa [Call.act] using finish_change ordered id
  | list user => simpa [Call.act, ofUser_run] using Change.lists user
  | history id => simpa [Call.act] using history_change ordered id
  | record id event => simpa [Call.act] using record_change ordered id event
  | wait seconds => exact .waits seconds

theorem finish_live (ordered : Ordered s) (found : s.current id = some (.record fields))
    (live : isExpired s.now (.record fields) = .ok false) : ((finish (.text id)).runFrom s).1 = .ok true := by
  have asked : ((get? (.text id)).runFrom s).1 = .ok (some (refreshed s.now fields)) := by
    rw [get?_answer ordered, found]
    simp [answer, live, fields?]
  exact finish_answer asked

/-- A call of a live session works on it, and leaves it in memory unless it ends it. -/
theorem Change.of_live {t : Sessions} (change : Change s call t) (names : call.id? = some id)
    (found : s.current id = some (.record fields)) (live : isExpired s.now (.record fields) = .ok false) :
    (call ≠ .finish id ∧ Kept id (call.edited s.now fields) s t) ∨
      (call = .finish id ∧ Archived id (call.edited s.now fields) s t) := by
  cases change with
  | absent names_call unknown same =>
    cases names.symm.trans names_call
    rw [found] at unknown
    cases unknown
  | rests names_call found_call stale put =>
    cases names.symm.trans names_call
    cases found.symm.trans found_call
    exact absurd live stale
  | renews names_call stays found_call live_call kept =>
    cases names.symm.trans names_call
    cases found.symm.trans found_call
    exact .inl ⟨stays, kept⟩
  | ends found_call live_call archived =>
    cases names
    cases found.symm.trans found_call
    exact .inr ⟨rfl, archived⟩
  | _ => cases names

/-- Ending a live session archives it. -/
theorem finish_archived (ordered : Ordered s) (found : s.current id = some (.record fields))
    (live : isExpired s.now (.record fields) = .ok false) :
    Archived id ((Call.finish id).edited s.now fields) s ((Call.finish id).act.runFrom s).2 := by
  rcases (act_change ordered (.finish id)).of_live rfl found live with ⟨stays, -⟩ | ⟨-, archived⟩
  · exact absurd rfl stays
  · exact archived

end

end Playhouse.Sessions
