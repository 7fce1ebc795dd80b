import Playhouse.Proofs.Session.Expiry

/-!
The last uses of a session. Whether it can be had by a name of its file is decided by these alone: the one
that the file tells, and for each name the one that memory tells. A run moves them by simple rules, whatever
else is in the store.
-/
namespace Playhouse.Sessions
open FileTree Value Value Option

/-! ### Names of a file -/

/-- A name leads to the file of an id. -/
def Leads (id name : String) : Prop := SameFile name id ∧ hasLongName (.text name) = false

instance (id name : String) : Decidable (Leads id name) :=
  inferInstanceAs (Decidable (SameFile name id ∧ hasLongName (.text name) = false))

/-! ### Last uses -/

/-- The last uses of a session: as its file tells, and as memory tells for each name of the file. -/
@[ext] structure Trail where
  filed : Option Moment
  held : String → Option Moment

namespace Trail

/-- The last uses that a store tells. -/
def of (s : Sessions) (id : String) : Trail where
  filed := (stored s.tree id).bind lastActivity
  held name := if Leads id name then (s.find? (.text name)).bind lastActivity else none

/-- The last use by which a name is judged. -/
def last (trail : Trail) (name : String) : Option Moment := (trail.held name).or trail.filed

/-- Whether a session cannot be had by a name any more. -/
def isOver (trail : Trail) (now : Moment) (name : String) : Bool :=
  (trail.last name).all fun last => timeout < now.micros - last.micros

/-- A call by a name of the file: a session that can be had is used now, and leaves memory if it is ended. -/
def use (trail : Trail) (now : Moment) (name : String) (ends : Bool) : Trail :=
  if trail.isOver now name then { trail with held := Function.update trail.held name (trail.last name) }
  else ⟨some now, Function.update trail.held name (if ends then none else some now)⟩

/-- Expired sessions leave memory. -/
def clean (trail : Trail) (now : Moment) : Trail :=
  { trail with held := fun name => (trail.held name).filter fun last => !(timeout < now.micros - last.micros) }

/-- What a call does to the last uses. -/
def step (id : String) (now : Moment) (trail : Trail) (call : Call) : Trail :=
  match call with
  | .create _ => trail.clean now
  | .finish name => if Leads id name then trail.use now name true else trail
  | .get name | .update name _ | .history name | .record name _ =>
    if Leads id name then trail.use now name false else trail
  | .list _ | .wait _ => trail

/-- What some calls do to the last uses. -/
def after (id : String) : Moment → Trail → List Call → Trail
  | _, trail, [] => trail
  | now, trail, call :: calls => after id (call.later now) (trail.step id now call) calls

end Trail

/-- Whether a call ends the session that it names. -/
def Call.ends : Call → Bool
  | finish _ => true
  | _ => false

theorem Trail.step_of_id? {call : Call} {name : String} (names : call.id? = some name) (trail : Trail) (id : String)
    (now : Moment) :
    trail.step id now call = if Leads id name then trail.use now name call.ends else trail := by
  cases call <;> cases names <;> rfl

/-! ### Sessions that files can hold -/

theorem nesting_opening_le (now : Moment) (n : Nat) {user : Value}
    (shallow : (Call.create user).nesting ≤ Json.depthLimit) :
    nesting (.record (opening now (idOf n) user)) ≤ Json.depthLimit := by
  simp only [Call.nesting] at shallow
  simp only [opening, nesting, nestingFields, nestingItems, empty]
  have room : 2 ≤ Json.depthLimit := by decide
  omega

/-- Dated calls that nest no session deeper than files are read. -/
def fileRegime (first : Moment) : Regime :=
  (datedRegime first).also (fun call => call.nesting ≤ Json.depthLimit)
    (fun fields => nesting (.record fields) ≤ Json.depthLimit)
    (fun n shallow => nesting_opening_le _ n shallow)
    fun allowed shallow json fits => Nat.le_trans (nesting_edited_le allowed.1 json) (Nat.max_le.2 ⟨fits, shallow⟩)

section
variable {custom : Custom} {s t : Sessions} {id name : String} {fields : Fields}

theorem stored_congr {tree : FileTree} (housed : Housed tree) (leads : Leads id name)
    (short : hasLongName (.text id) = false) : stored tree name = stored tree id := by
  have same : tree.text? (path (.text name)) = tree.text? (path (.text id)) := by
    rw [FileTree.text?, FileTree.text?, find?_congr tree leads.1.parts_eq]
  have free : problem? tree (.text name) = none ↔ problem? tree (.text id) = none := by
    rw [housed.problem?_iff, housed.problem?_iff, leads.1.passable_iff, leads.2, short]
  rw [stored, stored, same]
  simp only [free]

/-- After a session is saved by a name of the file, the file reads as it; by another, as before. -/
theorem stored_filed {old new : FileTree} (housed : Housed old) (inside : Inside name) (passable : Passable id)
    (short : hasLongName (.text id) = false) (json : FieldsJson fields)
    (shallow : nesting (.record fields) ≤ Json.depthLimit) (filed : Filed name fields old new) :
    stored new id = if Leads id name then some (.record fields) else stored old id := by
  have text := filed.text? (path (.text id))
  split
  · rename_i leads
    rw [if_pos ⟨leads.2, leads.1.parts_eq.symm⟩] at text
    exact stored_of_text? (housed.filed inside filed) passable json ⟨short, shallow⟩ text
  · rename_i apart
    rw [if_neg fun here => apart ⟨⟨here.2.symm, iff_of_true inside.passable passable⟩, here.1⟩] at text
    exact stored_eq_of_text? filed.isDirectory text

/-! ### What a store tells -/

theorem Trail.of_congr (active : t.active = s.active) (tree : t.tree = s.tree) (id : String) :
    Trail.of t id = Trail.of s id := by
  simp only [Trail.of, find?, active, tree]

/-- Where memory changes under one name and the file with it, what they tell changes if the name leads
to the file. -/
theorem Trail.of_edit {new file : Option Value}
    (finds : ∀ other, t.find? (.text other) = if other = name then new else s.find? (.text other))
    (reads : stored t.tree id = if Leads id name then file else stored s.tree id) :
    Trail.of t id = if Leads id name then
        ⟨file.bind lastActivity, Function.update (Trail.of s id).held name (new.bind lastActivity)⟩
      else Trail.of s id := by
  have others (other : String) (differs : other ≠ name) : (Trail.of t id).held other = (Trail.of s id).held other := by
    simp [Trail.of, finds, differs]
  split
  · rename_i leads
    rw [if_pos leads] at reads
    refine Trail.ext (by simp only [Trail.of, reads]) (funext fun other => ?_)
    by_cases same : other = name
    · subst same
      simp [Trail.of, leads, finds]
    · exact (others other same).trans (Function.update_of_ne same _ _).symm
  · rename_i apart
    rw [if_neg apart] at reads
    refine Trail.ext (by simp only [Trail.of, reads]) (funext fun other => ?_)
    by_cases same : other = name
    · subst same
      simp [Trail.of, apart]
    · exact others other same

/-- A name of the file is judged by the session that it stands for. -/
theorem Trail.last_of (reached : Reached custom s) (leads : Leads id name) (short : hasLongName (.text id) = false) :
    (Trail.of s id).last name = (s.current name).bind lastActivity := by
  rw [Trail.last, Sessions.current]
  simp only [Trail.of, if_pos leads]
  cases held : s.find? (.text name) with
  | none => rw [none_or, stored_congr reached.sound.housed leads short, bind_none, none_or]
  | some session =>
    obtain ⟨last, active, -⟩ := reached.timed.held _ ((find?_eq_some_iff reached.sound.once).1 held)
    rw [some_or, bind_some, active, some_or]

theorem Trail.isOver_of {session : Value} (reached : Reached custom s) (leads : Leads id name)
    (short : hasLongName (.text id) = false) (found : s.current name = some session) :
    (Trail.of s id).isOver s.now name = isIdle s.now session := by
  obtain ⟨last, active, -⟩ := reached.timed.current reached.sound.once found
  rw [Trail.isOver, Trail.last_of reached leads short, found, bind_some, isIdle, active, all_some, any_some]

end

section
variable {first : Moment} {s t : Sessions} {id : String} {call : Call}

section
variable (reached : Reached (fileRegime first) s)
include reached

theorem Trail.of_clean {entries : List (Value × Value)}
    (live : s.liveEntries = .ok entries) (id : String) :
    Trail.of { s with active := entries } id = (Trail.of s id).clean s.now := by
  obtain ⟨sound, timed, -⟩ := reached
  rw [timed.liveEntries, Except.ok.injEq] at live
  refine Trail.ext (by simp only [Trail.of, Trail.clean]) (funext fun name => ?_)
  have finds : ({ s with active := entries } : Sessions).find? (.text name) = _ :=
    find?_of_filter sound.once live.symm name
  simp only [Trail.of, Trail.clean, finds]
  split
  · cases held : s.find? (.text name) with
    | none => rfl
    | some session =>
      obtain ⟨last, active, -⟩ := timed.held _ ((find?_eq_some_iff sound.once).1 held)
      have judged : isIdle s.now session = decide (timeout < s.now.micros - last.micros) := by
        rw [isIdle, active, any_some]
      by_cases passed : timeout < s.now.micros - last.micros <;> simp [filter_some, active, judged, passed]
  · rfl

/-- A call that finds a live session uses it. -/
theorem Trail.of_used {name : String} {fields : Fields} {new : Option Value}
    (allowed : (fileRegime first).Allowed call) (short : hasLongName (.text id) = false)
    (on_file : (stored s.tree id).isSome = true) (names : call.id? = some name)
    (found : s.current name = some (.record fields)) (live : isExpired s.now (.record fields) = .ok false)
    (finds : ∀ other, t.find? (.text other) = if other = name then new else s.find? (.text other))
    (filed : Filed name (call.edited s.now fields) s.tree t.tree)
    (tells : new.bind lastActivity = if call.ends then none else some s.now) :
    Trail.of t id = (Trail.of s id).step id s.now call ∧ (stored t.tree id).isSome = true := by
  have ⟨sound, timed, dated⟩ := reached
  obtain ⟨content, same, made, good, -⟩ := sound.current found
  cases same
  have good_edited := (fileRegime first).edited sound.era allowed names good
  have passable : Passable id := by
    obtain ⟨session, told⟩ := isSome_iff_exists.1 on_file
    exact passable_of_stored sound.housed told
  have reads := stored_filed sound.housed made.inside passable short good_edited.1.1.2 good_edited.2 filed
  have used : lastActivity (.record (call.edited s.now fields)) = some s.now :=
    lastActivity_of_get? dated (get?_edited s.now fields call)
  have fresh : isIdle s.now (.record fields) = false := by
    rw [timed.isExpired_current sound.once found] at live
    exact Except.ok.inj live
  rw [Trail.step_of_id? names, Trail.of_edit finds reads, reads]
  split
  · rename_i leads
    have available : ¬ (Trail.of s id).isOver s.now name = true := by
      rw [Trail.isOver_of reached leads short found, fresh]
      exact Bool.false_ne_true
    rw [Trail.use, if_neg available, bind_some, used, tells]
    exact ⟨rfl, rfl⟩
  · exact ⟨rfl, on_file⟩

/-- What a call does to a store it does to the last uses that the store tells. -/
theorem Change.trail (allowed : (fileRegime first).Allowed call)
    (short : hasLongName (.text id) = false) (on_file : (stored s.tree id).isSome = true) (change : Change s call t) :
    Trail.of t id = (Trail.of s id).step id s.now call ∧ (stored t.tree id).isSome = true := by
  have ⟨sound, timed, dated⟩ := reached
  cases change with
  | waits seconds | lists user => exact ⟨rfl, on_file⟩
  | @absent _ name _ names unknown same =>
    rw [Trail.step_of_id? names, Trail.of_congr same.active same.tree, same.tree]
    refine ⟨?_, on_file⟩
    split
    · rename_i leads
      rw [current, stored_congr sound.housed leads short, or_eq_none_iff] at unknown
      rw [unknown.2] at on_file
      cases on_file
    · rfl
  | @rests _ name _ fields names found stale put =>
    have finds := find?_of_putIn put.active
    have reads : stored t.tree id = if Leads id name then stored s.tree id else stored s.tree id := by
      rw [put.tree, ite_self]
    have idle : isIdle s.now (.record fields) = true := by
      rw [timed.isExpired_current sound.once found] at stale
      simpa using stale
    rw [Trail.step_of_id? names, Trail.of_edit finds reads, put.tree]
    refine ⟨?_, on_file⟩
    split
    · rename_i leads
      rw [Trail.use, if_pos ((Trail.isOver_of reached leads short found).trans idle),
        Trail.last_of reached leads short, found]
      simp only [Trail.of]
    · rfl
  | @renews _ name _ fields names stays found live kept =>
    refine Trail.of_used reached allowed short on_file names found live (find?_of_putIn kept.active) kept.filed ?_
    have lives : call.ends = false := by
      cases call with
      | finish other =>
        cases names
        exact absurd rfl stays
      | _ => rfl
    rw [lives, bind_some, lastActivity_of_get? dated (get?_edited s.now fields call)]
    rfl
  | @ends name _ fields found live archived =>
    have finds (other : String) : t.find? (.text other) = if other = name then none else s.find? (.text other) := by
      rw [find?_of_filter sound.once archived.active]
      split
      · rename_i same
        simp [same]
      · rename_i differs
        have apart : (text other).equal (.text name) = false := by simpa using differs
        cases s.find? (.text other) <;> simp [apart]
    exact Trail.of_used reached allowed short on_file rfl found live finds archived.filed rfl
  | stuck undated =>
    rw [timed.liveEntries] at undated
    cases undated
  | refuses live => exact ⟨Trail.of_clean reached live id, on_file⟩
  | opens few opened =>
    have finds := opened.find?
    -- the file of the new session is not one of those that were there
    obtain ⟨session, found⟩ := isSome_iff_exists.1 on_file
    have apart : ¬ Leads id (idOf t.made) := by
      intro leads
      obtain ⟨fields, -, ⟨n, below, same⟩, -⟩ := sound.stored found
      have number := idOf_inj (sameFile_plain (plain_idOf _) (plain_idOf n) (leads.1.trans same).parts_eq)
      rw [opened.made] at number
      omega
    have good := (fileRegime first).opening t.made sound.era allowed
    have reads := stored_filed sound.housed (inside_plain (plain_idOf t.made)) (passable_of_stored sound.housed found) short
      good.1.1.2 good.2 opened.filed
    rw [Trail.of_edit finds reads, reads, if_neg apart, if_neg apart]
    exact ⟨Trail.of_clean reached opened.live id, on_file⟩

end

/-- What a run does to a store it does to the last uses that the store tells. -/
theorem trail_after {calls : List Call}
    (reached : ∀ before, before <+: calls → Reached (fileRegime first) (s.after before))
    (allowed : ∀ call ∈ calls, (fileRegime first).Allowed call) (short : hasLongName (.text id) = false)
    (on_file : (stored s.tree id).isSome = true) :
    Trail.of (s.after calls) id = (Trail.of s id).after id s.now calls ∧
      (stored (s.after calls).tree id).isSome = true := by
  induction calls generalizing s with
  | nil => exact ⟨rfl, on_file⟩
  | cons call calls ih =>
    have store : Reached (fileRegime first) s := reached [] List.nil_prefix
    have change := act_change store.sound.ordered call
    obtain ⟨trail, still⟩ := change.trail store (allowed call List.mem_cons_self) short on_file
    have rest := @ih (call.act.runFrom s).2
      (fun before leads => reached (call :: before) (List.cons_prefix_cons.2 ⟨rfl, leads⟩))
      (List.forall_mem_cons.1 allowed).2 still
    rw [trail, change.now_eq] at rest
    exact rest

end

end Playhouse.Sessions
