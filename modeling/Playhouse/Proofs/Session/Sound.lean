import Playhouse.Proofs.Session.Calls

/-!
What every run keeps. A custom says which calls are made, at which times, and what is to hold of
sessions; if each call keeps that of the session it works on, and reading a file does, it holds of every
session in memory and on file in every store that is reached. A regime is a custom of JSON sessions, which
files give back as they were.
-/
namespace Playhouse.Sessions
open FileTree Value List Prod

/-- Calls that keep sessions good, and good sessions whose files are read as good ones, if at all. -/
structure Custom where
  Allowed : Call → Prop
  Era : Moment → Prop
  Good : Moment → Fields → Prop
  filled : ∀ {now fields}, Good now fields → fields ≠ []
  reads : ∀ {now fields found}, Good now fields →
    Json.read (unifiedLines (Json.spread 2 (.record fields))) = .ok found →
      ∃ others, found = .record others ∧ Good now others
  opening : ∀ {now user} (n : Nat), Era now → Allowed (.create user) → Good now (opening now (idOf n) user)
  edited : ∀ {now fields call id}, Era now → Allowed call → call.id? = some id → Good now fields →
    Good now (call.edited now fields)
  later : ∀ {now seconds}, Era now → Allowed (.wait seconds) →
    Era (now.plusMicros (Moment.microsOf seconds)) ∧
      ∀ {fields}, Good now fields → Good (now.plusMicros (Moment.microsOf seconds)) fields

/-- Calls that keep sessions good, where good sessions are JSON. -/
structure Regime where
  Allowed : Call → Prop
  Era : Moment → Prop
  Good : Moment → Fields → Prop
  json : ∀ {now fields}, Good now fields → fields ≠ [] ∧ FieldsJson fields
  opening : ∀ {now user} (n : Nat), Era now → Allowed (.create user) → Good now (opening now (idOf n) user)
  edited : ∀ {now fields call id}, Era now → Allowed call → call.id? = some id → Good now fields →
    Good now (call.edited now fields)
  later : ∀ {now seconds}, Era now → Allowed (.wait seconds) →
    Era (now.plusMicros (Moment.microsOf seconds)) ∧
      ∀ {fields}, Good now fields → Good (now.plusMicros (Moment.microsOf seconds)) fields

/-- Calls that keep something more of sessions. -/
def Regime.also (regime : Regime) (Allowed : Call → Prop) (Good : Fields → Prop)
    (opens : ∀ {now user} (n : Nat), Allowed (.create user) → Good (Sessions.opening now (idOf n) user))
    (edits : ∀ {now fields call}, regime.Allowed call → Allowed call → FieldsJson fields → Good fields →
      Good (call.edited now fields)) : Regime where
  Allowed call := regime.Allowed call ∧ Allowed call
  Era := regime.Era
  Good now fields := regime.Good now fields ∧ Good fields
  json good := regime.json good.1
  opening n era allowed := ⟨regime.opening n era allowed.1, opens n allowed.2⟩
  edited era allowed names good :=
    ⟨regime.edited era allowed.1 names good.1, edits allowed.1 allowed.2 (regime.json good.1).2 good.2⟩
  later era allowed :=
    ⟨(regime.later era allowed.1).1, fun good => ⟨(regime.later era allowed.1).2 good.1, good.2⟩⟩

/-- A file gives a JSON session back as it was. -/
@[reducible] def Regime.custom (regime : Regime) : Custom where
  Allowed := regime.Allowed
  Era := regime.Era
  Good := regime.Good
  filled good := (regime.json good).1
  reads good read := ⟨_, Json.eq_of_read_spread (regime.json good).2 read, good⟩
  opening := regime.opening
  edited := regime.edited
  later := regime.later

instance : CoeOut Regime Custom := ⟨Regime.custom⟩

/-- An id leads to the file of one of the sessions made so far. -/
def Made (count : Nat) (id : String) : Prop := ∃ n ≤ count, SameFile id (idOf n)

/-- A store of good sessions: each id is in memory once, and has a file unless its name is too long for
one. -/
structure Sound (custom : Custom) (s : Sessions) : Prop where
  era : custom.Era s.now
  housed : Housed s.tree
  once : (s.active.map fst).Nodup
  held : ∀ entry ∈ s.active, ∃ id fields, entry = (.text id, .record fields) ∧ Made s.made id ∧
    custom.Good s.now fields ∧ (hasLongName (.text id) = false → (s.tree.text? (path (.text id))).isSome = true)
  files : ∀ path text, s.tree.text? path = some text →
    ∃ n ≤ s.made, parts path = parts (Sessions.path (.text (idOf n))) ∧
      ∃ fields, custom.Good s.now fields ∧ text = Json.spread 2 (.record fields)

variable {custom : Custom} {s t : Sessions} {id : String} {session : Value} {fields : Fields}

theorem Made.inside {count : Nat} (made : Made count id) : Inside id := by
  obtain ⟨n, -, same⟩ := made
  exact ⟨⟨_, same.parts_eq.trans (parts_path_plain (plain_idOf n))⟩,
    same.passable_iff.2 (passable_plain (plain_idOf n))⟩

theorem Made.mono {count more : Nat} (le : count ≤ more) (made : Made count id) : Made more id := by
  obtain ⟨n, below, same⟩ := made
  exact ⟨n, Nat.le_trans below le, same⟩

/-- An id with the way to the file of a session that was made leads to it. -/
theorem sameFile_idOf {n : Nat} (passable : Passable id)
    (same : parts (path (.text id)) = parts (path (.text (idOf n)))) : SameFile id (idOf n) :=
  ⟨same, iff_of_true passable (passable_plain (plain_idOf n))⟩

theorem sound_start {now : Moment} (era : custom.Era now) : Sound custom (start now) := by
  refine ⟨era, housed_start now, nodup_nil, fun entry member => ?_, fun path text found => ?_⟩
  · cases member
  · rw [text?_start] at found
    cases found

/-- What is read from a file is a good session. -/
theorem Sound.loaded (sound : Sound custom s) (found : Sessions.stored s.tree id = some session) :
    ∃ fields, session = .record fields ∧ Made s.made id ∧ custom.Good s.now fields ∧
      (s.tree.text? (path (.text id))).isSome = true := by
  obtain ⟨-, text, on_file, read⟩ := stored_eq_some_iff.1 found
  obtain ⟨n, below, same, fields, good, rfl⟩ := sound.files _ text on_file
  obtain ⟨others, rfl, good_others⟩ := custom.reads good read
  have leads := sameFile_idOf (passable_of_stored sound.housed found) same
  exact ⟨others, rfl, ⟨n, below, leads⟩, good_others, by rw [on_file]; rfl⟩

/-- What is read from a file is the good session that was written there. -/
theorem Sound.stored {regime : Regime} (sound : Sound regime s) (found : Sessions.stored s.tree id = some session) :
    ∃ fields, session = .record fields ∧ Made s.made id ∧ regime.Good s.now fields ∧
      s.tree.text? (path (.text id)) = some (Json.spread 2 session) := by
  obtain ⟨-, text, on_file, read⟩ := stored_eq_some_iff.1 found
  obtain ⟨n, below, same, fields, good, rfl⟩ := sound.files _ text on_file
  have leads := sameFile_idOf (passable_of_stored sound.housed found) same
  have same_value : session = .record fields := Json.eq_of_read_spread (regime.json good).2 read
  exact ⟨fields, same_value, ⟨n, below, leads⟩, good, same_value ▸ on_file⟩

/-- What an id stands for is a good session of one that was made. -/
theorem Sound.current (sound : Sound custom s) (found : s.current id = some session) :
    ∃ fields, session = .record fields ∧ Made s.made id ∧ custom.Good s.now fields ∧
      (hasLongName (.text id) = false → (s.tree.text? (path (.text id))).isSome = true) := by
  rcases held_or_stored found with held | ⟨-, filed⟩
  · obtain ⟨other, fields, same, made, good, filed⟩ := sound.held _ ((find?_eq_some_iff sound.once).1 held)
    cases same
    exact ⟨fields, rfl, made, good, filed⟩
  · obtain ⟨fields, same, made, good, on_file⟩ := sound.loaded filed
    exact ⟨fields, same, made, good, fun _ => on_file⟩

theorem Sound.ordered (sound : Sound custom s) : Ordered s := by
  refine ⟨sound.housed, fun id session found => ?_, fun id session found => ?_⟩
  · obtain ⟨fields, same, -, good, -⟩ := sound.current found
    exact ⟨fields, same, custom.filled good⟩
  · obtain ⟨-, -, made, -, -⟩ := sound.current found
    exact made.inside

theorem Sound.unheld_next (sound : Sound custom s) : ∀ entry ∈ s.active, entry.1 ≠ .text (idOf (s.made + 1)) := by
  intro entry member same
  obtain ⟨id, fields, rfl, ⟨n, below, same_file⟩, -⟩ := sound.held entry member
  cases same
  have same_number := idOf_inj (sameFile_plain (plain_idOf _) (plain_idOf n) same_file.parts_eq)
  omega

/-! ### Steps -/

theorem Filed.isSome_text? {old new : FileTree} (filed : Filed id fields old new) {other : String}
    (found : (old.text? other).isSome = true) : (new.text? other).isSome = true := by
  rw [filed.text?]
  split
  · rfl
  · exact found

section
variable (sound : Sound custom s)
include sound

/-- Saving a good session keeps a store sound, if memory has at most that session beside the old ones. -/
theorem Sound.filed (good : custom.Good s.now fields) (made : Made t.made id) (grown : s.made ≤ t.made)
    (now : t.now = s.now) (filed : Filed id fields s.tree t.tree) (once : (t.active.map fst).Nodup)
    (active : ∀ entry ∈ t.active, entry = (.text id, .record fields) ∨ entry ∈ s.active) : Sound custom t := by
  refine ⟨now ▸ sound.era, sound.housed.filed made.inside filed, once, fun entry member => ?_, fun other text => ?_⟩
  · rcases active entry member with rfl | member
    · refine ⟨id, fields, rfl, made, now ▸ good, fun short => ?_⟩
      simp [filed.text?, short]
    · obtain ⟨other, old, rfl, made_other, good_old, on_file⟩ := sound.held entry member
      exact ⟨other, old, rfl, made_other.mono grown, now ▸ good_old, fun short => filed.isSome_text? (on_file short)⟩
  · rw [filed.text?]
    split
    · rename_i here
      intro found
      obtain ⟨n, below, same⟩ := made
      exact ⟨n, below, here.2.trans same.parts_eq, fields, now ▸ good, (Option.some.inj found).symm⟩
    · intro found
      obtain ⟨n, below, same, old, good_old, rfl⟩ := sound.files other text found
      exact ⟨n, Nat.le_trans below grown, same, old, now ▸ good_old, rfl⟩

theorem Sound.kept (good : custom.Good s.now fields) (made : Made s.made id) (kept : Kept id fields s t) :
    Sound custom t := by
  refine sound.filed good (kept.made.symm ▸ made) (Nat.le_of_eq kept.made.symm) kept.now kept.filed ?_ ?_
  · rw [kept.active]
    exact nodup_putIn sound.once
  · intro entry member
    rw [kept.active, mem_putIn_iff sound.once] at member
    exact member.imp_right And.left

theorem Sound.archived (good : custom.Good s.now fields) (made : Made s.made id) (archived : Archived id fields s t) :
    Sound custom t := by
  have fewer : t.active.Sublist s.active := archived.active ▸ filter_sublist
  exact sound.filed good (archived.made.symm ▸ made) (Nat.le_of_eq archived.made.symm) archived.now archived.filed
    ((fewer.map fst).nodup sound.once) fun entry member => .inr (fewer.subset member)

theorem Sound.fewer (fewer : t.active.Sublist s.active) (tree : t.tree = s.tree) (frame : Frame s t) :
    Sound custom t := by
  refine ⟨frame.now ▸ sound.era, tree ▸ sound.housed, (fewer.map fst).nodup sound.once, ?_, ?_⟩
  · rw [tree, frame.made, frame.now]
    exact fun entry member => sound.held entry (fewer.subset member)
  · rw [tree, frame.made, frame.now]
    exact sound.files

theorem Sound.put (found : s.current id = some (.record fields)) (put : Put id fields s t) : Sound custom t := by
  obtain ⟨fields, same, made, good, on_file⟩ := sound.current found
  cases same
  refine ⟨put.now ▸ sound.era, put.tree ▸ sound.housed, ?_, ?_, ?_⟩
  · rw [put.active]
    exact nodup_putIn sound.once
  · rw [put.tree, put.made, put.now, put.active]
    intro entry member
    rcases (mem_putIn_iff sound.once entry).1 member with rfl | ⟨member, -⟩
    · exact ⟨id, _, rfl, made, good, on_file⟩
    · exact sound.held entry member
  · rw [put.tree, put.made, put.now]
    exact sound.files

end

theorem filterM_sublist {α : Type} {keeps : α → Except Fault Bool} {items kept : List α}
    (filtered : items.filterM keeps = .ok kept) : kept.Sublist items := by
  rw [filter_of_filterM filtered]
  exact filter_sublist

theorem Sound.change {call : Call} (sound : Sound custom s) (allowed : custom.Allowed call)
    (change : Change s call t) : Sound custom t := by
  cases change with
  | waits seconds =>
    obtain ⟨era, later⟩ := custom.later sound.era allowed
    refine ⟨era, sound.housed, sound.once, fun entry member => ?_, fun path text found => ?_⟩
    · obtain ⟨id, fields, same, made, good, filed⟩ := sound.held entry member
      exact ⟨id, fields, same, made, later good, filed⟩
    · obtain ⟨n, below, same, fields, good, text⟩ := sound.files path text found
      exact ⟨n, below, same, fields, later good, text⟩
  | lists user => exact sound
  | absent names unknown same => exact sound.fewer (same.active ▸ Sublist.refl _) same.tree same.toFrame
  | rests names found stale put => exact sound.put found put
  | renews names stays found live kept =>
    obtain ⟨fields, same, made, good, -⟩ := sound.current found
    cases same
    exact sound.kept (custom.edited sound.era allowed names good) made kept
  | ends found live archived =>
    obtain ⟨fields, same, made, good, -⟩ := sound.current found
    cases same
    exact sound.archived (custom.edited sound.era allowed rfl good) made archived
  | stuck undated => exact sound
  | refuses live => exact sound.fewer (filterM_sublist live) rfl ⟨rfl, rfl, rfl⟩
  | opens few opened =>
    have fewer := filterM_sublist opened.live
    have once := (fewer.map fst).nodup sound.once
    refine sound.filed (custom.opening _ sound.era allowed) ⟨_, Nat.le_refl _, .refl _⟩ ?_ opened.now opened.filed ?_ ?_
    · rw [opened.made]
      exact Nat.le_succ _
    · rw [opened.active]
      exact nodup_putIn once
    · intro entry member
      rw [opened.active, mem_putIn_iff once] at member
      exact member.imp_right fun both => fewer.subset both.1

/-- What each call keeps in a sound store, a run keeps. -/
theorem Sound.along {P : Sessions → Prop} {calls : List Call} (sound : Sound custom s)
    (allowed : ∀ call ∈ calls, custom.Allowed call)
    (step : ∀ {s t call}, call ∈ calls → Sound custom s → Change s call t → P s → P t) (holds : P s) :
    P (s.after calls) := by
  induction calls generalizing s with
  | nil => exact holds
  | cons call calls ih =>
    have change := act_change sound.ordered call
    exact ih (sound.change (allowed call mem_cons_self) change) (forall_mem_cons.1 allowed).2
      (fun member => step (mem_cons_of_mem _ member)) (step mem_cons_self sound change holds)

theorem Sound.after {calls : List Call} (sound : Sound custom s) (allowed : ∀ call ∈ calls, custom.Allowed call) :
    Sound custom (s.after calls) :=
  sound.along allowed (fun member sound change _ => sound.change (allowed _ member) change) sound

end Playhouse.Sessions
