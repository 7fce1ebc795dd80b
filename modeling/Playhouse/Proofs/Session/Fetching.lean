import Playhouse.Proofs.Data.Entries
import Playhouse.Proofs.Session.Files

/-!
Asking for a session. An id stands for the session in memory, or else for the one on file; asking for it
finds none, finds it expired and leaves it in memory as it is, or renews it in memory and on file. What
the other calls answer follows.
-/
namespace Playhouse.Sessions
open List Entries Prod Value Act

/-! ### Putting in -/

section
variable {active : List (Value × Value)} {id other : String} {session : Value}

theorem tests_text (name : String) : Tests (fun key : Value => key.equal (.text name)) (.text name) :=
  fun key => iff_of_eq (Value.equal_text key name)

/-- In a list with each id once, putting a session under an id replaces its entry alone. -/
theorem mem_putIn_iff (once : (active.map fst).Nodup) (entry : Value × Value) :
    entry ∈ putIn (.text id) session active ↔ entry = (.text id, session) ∨ (entry ∈ active ∧ entry.1 ≠ .text id) :=
  mem_put (tests_text id) once session entry

theorem mem_ids_putIn (key : Value) :
    key ∈ (putIn (.text id) session active).map fst ↔ key = .text id ∨ key ∈ active.map fst :=
  mem_keys_put (tests_text id) key session active

theorem nodup_putIn (once : (active.map fst).Nodup) : ((putIn (.text id) session active).map fst).Nodup :=
  nodup_put (tests_text id) once session

theorem putIn_putIn (later : Value) :
    putIn (.text id) later (putIn (.text id) session active) = putIn (.text id) later active :=
  put_put (tests_text id) session later active

theorem putIn_of_absent (absent : ∀ entry ∈ active, entry.1 ≠ .text id) :
    putIn (.text id) session active = active ++ [(.text id, session)] :=
  put_of_absent (by simpa using absent) session

theorem map_ite_of_unmet {α : Type} {meets : α → Prop} [DecidablePred meets] {change : α → α} {items : List α}
    (unmet : ∀ item ∈ items, ¬ meets item) : (items.map fun item => if meets item then change item else item) = items :=
  (map_congr_left fun item member => if_neg (unmet item member)).trans (map_id' items)

/-- Putting a session under an id that is there changes what is under that id. -/
theorem putIn_eq_map (once : (active.map fst).Nodup) (there : .text id ∈ active.map fst) (session : Value) :
    putIn (.text id) session active =
      active.map fun entry => if entry.1.equal (.text id) then (entry.1, session) else entry := by
  have unmet {part : List (Value × Value)} (absent : .text id ∉ part.map fst) :
      ∀ entry ∈ part, ¬ entry.1.equal (.text id) = true := by
    simpa using (tests_text id).absent_iff.2 absent
  rcases (tests_text id).place active with ⟨absent, -⟩ | ⟨before, old, after, rfl, absent, puts⟩
  · exact absurd there absent
  · rw [map_append, map_cons, nodup_middle, nodup_cons, mem_append, not_or] at once
    rw [putIn, puts, map_append, map_cons, map_ite_of_unmet (unmet absent), map_ite_of_unmet (unmet once.1.2)]
    simp

end

/-! ### Looking up -/

section
variable {s t : Sessions} {id name other : String} {session : Value}

theorem find?_eq_some_iff (once : (s.active.map fst).Nodup) :
    s.find? (.text id) = some session ↔ (.text id, session) ∈ s.active := by
  unfold find?
  generalize s.active = active at once
  induction active with
  | nil => simp
  | cons first rest ih =>
    obtain ⟨key, old⟩ := first
    have others : ∀ entry ∈ rest, entry.1 ≠ key :=
      fun entry member same => (nodup_cons.1 once).1 (mem_map.2 ⟨entry, member, same⟩)
    by_cases same : key = .text id
    · subst same
      rw [find?_cons_of_pos (by simp)]
      grind
    · rw [find?_cons_of_neg (by simpa using same), ih (nodup_cons.1 once).2]
      grind

theorem find?_eq_none_iff : s.find? (.text id) = none ↔ ∀ entry ∈ s.active, entry.1 ≠ .text id := by
  simp [find?]

/-- A session that is found has a place in memory, where another can be put. -/
theorem place_of_find? (found : s.find? (.text id) = some session) : ∃ before after,
    s.active = before ++ (.text id, session) :: after ∧
      ∀ other, putIn (.text id) other s.active = before ++ (.text id, other) :: after := by
  obtain ⟨⟨key, held⟩, here, rfl⟩ := Option.map_eq_some_iff.1 found
  obtain ⟨same, before, after, split, absent⟩ := find?_eq_some_iff_append.1 here
  obtain rfl := (tests_text id key).1 same
  refine ⟨before, after, split, fun other => ?_⟩
  rw [split, putIn, put_append (by simpa using absent) (by simp)]

theorem putIn_self (found : s.find? (.text id) = some session) : putIn (.text id) session s.active = s.active := by
  obtain ⟨before, after, active, puts⟩ := place_of_find? found
  rw [puts, active]

/-- Putting a session in the place of one that counts as much changes no count. -/
theorem countP_putIn_of_found {old : Value} {counts : Value × Value → Bool} (found : s.find? (.text id) = some old)
    (same : counts (.text id, session) = counts (.text id, old)) :
    (putIn (.text id) session s.active).countP counts = s.active.countP counts := by
  obtain ⟨before, after, active, puts⟩ := place_of_find? found
  rw [puts, active, countP_append, countP_append, countP_cons, countP_cons, same]

/-- What is found in memory once a session has been put in. -/
theorem find?_of_putIn (active : t.active = putIn (.text name) session s.active) (other : String) :
    t.find? (.text other) = if other = name then some session else s.find? (.text other) := by
  have put := find?_put (tests_text name) (tests_text other) session s.active
  simp only [Value.text_equal, Value.text.injEq] at put
  rw [find?, active]
  exact put

theorem find?_of_filter {keep : Value × Value → Bool} (once : (s.active.map fst).Nodup)
    (active : t.active = s.active.filter keep) (other : String) :
    t.find? (.text other) = (s.find? (.text other)).filter fun session => keep (.text other, session) := by
  have once_kept : (t.active.map fst).Nodup := active ▸ (filter_sublist.map fst).nodup once
  ext found
  rw [find?_eq_some_iff once_kept, active, mem_filter, Option.filter_eq_some_iff, find?_eq_some_iff once]

theorem unheld_putIn_iff {entries : List (Value × Value)} (active : t.active = putIn (.text id) session entries) :
    t.find? (.text other) = none ↔ other ≠ id ∧ ∀ entry ∈ entries, entry.1 ≠ .text other := by
  rw [find?_of_putIn (s := { t with active := entries }) active]
  split
  · rename_i same
    simp [same]
  · rename_i differs
    simp [differs, find?_eq_none_iff]

end

/-! ### Asking -/

/-- The session that an id stands for: the one in memory, or else the one on file. -/
def current (s : Sessions) (id : String) : Option Value := (s.find? (.text id)).or (stored s.tree id)

/-- A session with its last activity now. -/
def refreshed (now : Moment) (fields : Fields) : Fields := fields.set (.text "last_activity") (.text now.iso)

/-- A store that no call has changed but for what was reported. -/
structure Same (s t : Sessions) : Prop extends Frame s t where
  active : t.active = s.active
  tree : t.tree = s.tree

/-- A session has been put in memory as it was. -/
structure Put (id : String) (fields : Fields) (s t : Sessions) : Prop extends Frame s t where
  active : t.active = putIn (.text id) (.record fields) s.active
  tree : t.tree = s.tree

/-- A session has been put in memory and saved. -/
structure Kept (id : String) (fields : Fields) (s t : Sessions) : Prop extends Frame s t where
  active : t.active = putIn (.text id) (.record fields) s.active
  filed : Filed id fields s.tree t.tree

variable {fields : Fields} {s : Sessions}

/-- What an id stands for is in memory, or else on file. -/
theorem held_or_stored {id : String} {session : Value} (found : s.current id = some session) :
    s.find? (.text id) = some session ∨ s.find? (.text id) = none ∧ stored s.tree id = some session :=
  Option.or_eq_some_iff.1 found

theorem Kept.trans {id : String} {later : Fields} {t u : Sessions} (first : Kept id fields s t)
    (second : Kept id later t u) : Kept id later s u := by
  refine ⟨first.toFrame.trans second.toFrame, ?_, first.filed.trans second.filed⟩
  rw [second.active, first.active, putIn_putIn]

/-- What asking for a session can lead to. -/
inductive Fetched (s : Sessions) (id : String) : Except Fault (Option Fields) × Sessions → Prop where
  | absent {t : Sessions} (unknown : s.current id = none) (same : Same s t) : Fetched s id (.ok none, t)
  | expired {t : Sessions} {fields : Fields} (found : s.current id = some (.record fields))
      (idle : isExpired s.now (.record fields) = .ok true) (put : Put id fields s t) : Fetched s id (.ok none, t)
  | faulty {t : Sessions} {fields : Fields} {fault : Fault} (found : s.current id = some (.record fields))
      (undated : isExpired s.now (.record fields) = .error fault) (put : Put id fields s t) :
      Fetched s id (.error fault, t)
  | live {t : Sessions} {fields : Fields} (found : s.current id = some (.record fields))
      (fresh : isExpired s.now (.record fields) = .ok false) (kept : Kept id (refreshed s.now fields) s t) :
      Fetched s id (.ok (some (refreshed s.now fields)), t)

/-- A store in which every id stands for a record with some field, whose file lies in the directory. -/
structure Ordered (s : Sessions) : Prop where
  housed : Housed s.tree
  record : ∀ id session, s.current id = some session → ∃ fields, session = .record fields ∧ fields ≠ []
  inside : ∀ id session, s.current id = some session → Inside id

theorem stamp_run (s : Sessions) : (stamp).runFrom s = (.ok (.text s.now.iso), s) := rfl

theorem put_run (s : Sessions) (id : String) (session : Value) :
    (put (.text id) session).runFrom s = (.ok (), { s with active := putIn (.text id) session s.active }) := rfl

/-- Putting a session in memory and saving it. -/
theorem keep_run {id : String} (housed : Housed s.tree) (inside : Inside id) (fields : Fields) :
    ∃ t, (save (.text id) (.record fields)).runFrom
        { s with active := putIn (.text id) (.record fields) s.active } = (.ok (), t) ∧ Kept id fields s t := by
  obtain ⟨t, saves, active, filed, frame⟩ :=
    save_filed (s := { s with active := putIn (.text id) (.record fields) s.active }) housed inside fields
  exact ⟨t, saves, ⟨frame.now, frame.made, frame.limit⟩, active, filed⟩

theorem renew_fetched {t : Sessions} (ordered : Ordered s) {id : String}
    (found : s.current id = some (.record fields)) (held : Put id fields s t) :
    Fetched s id ((renew (.text id) (.record fields)).runFrom t) := by
  have inside := ordered.inside id _ found
  have housed : Housed t.tree := held.tree ▸ ordered.housed
  simp only [renew, runFrom_bind, runFrom_get, runFrom_liftM, held.now]
  cases expiry : isExpired s.now (.record fields) with
  | error fault => exact .faulty found expiry held
  | ok answer =>
    cases answer with
    | true => exact .expired found expiry held
    | false =>
      obtain ⟨u, saves, kept⟩ := keep_run housed inside (refreshed s.now fields)
      have renewed : Kept id (refreshed s.now fields) s u := by
        refine ⟨held.toFrame.trans kept.toFrame, ?_, held.tree ▸ kept.filed⟩
        rw [kept.active, held.active, putIn_putIn]
      have stamped : (stamp).runFrom t = (.ok (.text s.now.iso), t) := by
        rw [← held.now]
        rfl
      simp only [Bool.false_eq_true, if_false, runFrom_bind, stamped, put_run]
      rw [show Fields.set "last_activity" (.text s.now.iso) fields = refreshed s.now fields from rfl, saves]
      exact .live found expiry renewed

/-- A session that an id stands for is put in memory if it was not there, and renewed. -/
theorem get?_renews {id : String} (found : s.current id = some (.record fields)) (some_ : fields ≠ []) :
    ∃ t, Put id fields s t ∧ (get? (.text id)).runFrom s = (renew (.text id) (.record fields)).runFrom t := by
  have truthy : (Value.record fields).truthy = true := by simpa [Value.truthy] using some_
  rcases held_or_stored found with held | ⟨held, filed⟩
  · refine ⟨s, ⟨⟨rfl, rfl, rfl⟩, (putIn_self held).symm, rfl⟩, ?_⟩
    simp [get?, isKey, key?, held, truthy]
  · obtain ⟨t, loads, active, tree, frame⟩ := loadFile_stored s id
    have unheld : Value.truthy .null = false := rfl
    refine ⟨{ t with active := putIn (.text id) (.record fields) t.active },
      ⟨⟨frame.now, frame.made, frame.limit⟩, by rw [active], tree⟩, ?_⟩
    simp [get?, isKey, key?, held, unheld, loads, filed, truthy, put_run]

/-- The id of a session that has not expired is answered by it, whatever else is in the store. -/
theorem get?_live {id : String} (found : s.current id = some (.record fields)) (some_ : fields ≠ [])
    (live : isExpired s.now (.record fields) = .ok false) :
    ((get? (.text id)).runFrom s).1 = .ok (some (refreshed s.now fields)) := by
  obtain ⟨held, put, asks⟩ := get?_renews found some_
  have unexpired : isExpired held.now (.record fields) = .ok false := put.now ▸ live
  generalize renewed : Fields.set "last_activity" (.text held.now.iso) fields = later
  obtain ⟨saved, saves⟩ := save_total { held with active := putIn (.text id) (.record later) held.active } (.text id)
    (.record later)
  rw [asks]
  simp [renew, unexpired, stamp_run, put_run, renewed, saves, refreshed, ← put.now]

theorem get?_fetched (ordered : Ordered s) (id : String) : Fetched s id ((get? (.text id)).runFrom s) := by
  cases found : s.current id with
  | some session =>
    obtain ⟨fields, rfl, some_⟩ := ordered.record id session found
    obtain ⟨t, held, asks⟩ := get?_renews found some_
    rw [asks]
    exact renew_fetched ordered found held
  | none =>
    obtain ⟨held, filed⟩ := Option.or_eq_none_iff.1 found
    obtain ⟨t, loads, active, tree, frame⟩ := loadFile_stored s id
    have unheld : truthy .null = false := rfl
    have run : (get? (.text id)).runFrom s = (.ok none, t) := by
      simp [get?, isKey, key?, held, unheld, loads, filed]
    rw [run]
    exact .absent found ⟨frame, active, tree⟩

/-- What asking for a session answers, from the session that the id stands for. -/
def answer (now : Moment) : Option Value → Except Fault (Option Fields)
  | none => .ok none
  | some session => (isExpired now session).map fun expired =>
    if expired then none else session.fields?.map (refreshed now)

theorem get?_answer (ordered : Ordered s) (id : String) :
    ((get? (.text id)).runFrom s).1 = answer s.now (s.current id) := by
  have fetched := get?_fetched ordered id
  generalize (get? (.text id)).runFrom s = outcome at fetched
  cases fetched with
  | absent unknown same => rw [unknown, answer]
  | expired found idle put => simp [found, answer, idle]
  | faulty found undated put => simp [found, answer, undated]
  | live found fresh kept => simp [found, answer, fresh, fields?]

/-- The events of a session that was found, or of none. -/
def eventsOf : Option Fields → Value
  | none => .list []
  | some session => (session.get? (.text "user_choices")).getD (.list [])

theorem history_answer (s : Sessions) (id : String) :
    ((history (.text id)).runFrom s).1 = ((get? (.text id)).runFrom s).1.map eventsOf := by
  rw [history, runFrom_bind]
  rcases (get? (.text id)).runFrom s with ⟨_ | _ | _, t⟩ <;> rfl

/-- What recording an event answers, by what is found: only a session with a list of events takes one, and only a
record can be an event. -/
inductive Recorded (event : Value) : Except Fault (Option Fields) → Except Fault Bool → Prop where
  | faulted {fault : Fault} : Recorded event (.error fault) (.error fault)
  | refused : Recorded event (.ok none) (.ok false)
  | noted {session content : Fields} {events : List Value}
      (held : session.get? (.text "user_choices") = some (.list events)) (isRecord : event = .record content) :
      Recorded event (.ok (some session)) (.ok true)
  | failed {session : Fields} {fault : Fault}
      (unfit : ∀ events, session.get? (.text "user_choices") = some (.list events) →
        ∀ content, event ≠ .record content) :
      Recorded event (.ok (some session)) (.error fault)

open Recorded

theorem record_recorded (s : Sessions) (id : String) (event : Value) :
    Recorded event ((get? (.text id)).runFrom s).1 ((record (.text id) event).runFrom s).1 := by
  rw [record, runFrom_bind]
  rcases (get? (.text id)).runFrom s with ⟨fault | found, t⟩
  · exact .faulted
  · cases found with
    | none => exact .refused
    | some session =>
      cases event with
      | record event =>
        cases held : session.get? (.text "user_choices") with
        | none => simpa [timed, enter, stamp_run, held, need] using failed (by simp [held])
        | some choices =>
          cases choices with
          | list events =>
            generalize later : session.set "user_choices"
              (.list (events ++ [.record (Fields.set "timestamp" (.text t.now.iso) event)])) = changed
            obtain ⟨u, saves⟩ := save_total { t with active := putIn (.text id) (.record changed) t.active } (.text id)
              (.record changed)
            simpa [timed, enter, stamp_run, held, need, put_run, later, saves] using noted held rfl
          | _ => simpa [timed, enter, stamp_run, held, need] using failed (by simp [held])
      | _ => simpa [timed] using failed (by simp)

section
variable {s : Sessions} {id : String} {found : Option Fields}

theorem finish_answer (asked : ((get? (.text id)).runFrom s).1 = .ok found) :
    ((finish (.text id)).runFrom s).1 = .ok found.isSome := by
  rw [finish, runFrom_bind]
  generalize (get? (.text id)).runFrom s = outcome at asked ⊢
  obtain ⟨result, t⟩ := outcome
  cases asked
  cases found with
  | none => rfl
  | some session =>
    obtain ⟨u, saves⟩ := save_total t (.text id)
      (.record ((session.set "status" (.text "completed")).set "end_time" (.text t.now.iso)))
    simp only [runFrom_bind, stamp_run, saves]
    rfl

theorem update_refuses_iff (changes : Fields) (asked : ((get? (.text id)).runFrom s).1 = .ok found) :
    ((update (.text id) (.record changes)).runFrom s).1 = .error (.noSession (.text id)) ↔ found = none := by
  rw [update, runFrom_bind]
  generalize (get? (.text id)).runFrom s = outcome at asked ⊢
  obtain ⟨result, t⟩ := outcome
  cases asked
  cases found with
  | none => simp
  | some session =>
    generalize later : (session.update changes).set "last_activity" (.text t.now.iso) = changed
    obtain ⟨u, saves⟩ := save_total { t with active := putIn (.text id) (.record changed) t.active } (.text id)
      (.record changed)
    simp [Fields.mergeFrom, stamp_run, put_run, putIn_putIn, later, saves]

theorem record_refuses_iff (event : Value) (asked : ((get? (.text id)).runFrom s).1 = .ok found) :
    ((record (.text id) event).runFrom s).1 = .ok false ↔ found = none := by
  have recorded := record_recorded s id event
  rw [asked] at recorded
  generalize ((record (.text id) event).runFrom s).1 = result at recorded
  cases recorded <;> simp

end

end Playhouse.Sessions
