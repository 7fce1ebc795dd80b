import Playhouse.Proofs.Session.Expiry

/-!
Expiry is for good. Whatever documents the calls bring, a session says once when it was last active, also after it
was read from its file, and memory and file say the same. So a session that has expired stays so through every later
call, clean-up and start over the same files: nothing is given back, nothing is changed, and the file stays as it is.
-/
namespace Playhouse

variable {key : Key} {value : Value}

/-! ### The fields under one name -/

namespace Fields

/-- The fields of a record under a name. -/
def under (name : String) (fields : Fields) : Fields := fields.filter fun field => field.1 == .text name

theorem under_cons (name : String) (key : Key) (value : Value) (rest : Fields) :
    under name ((key, value) :: rest) = if key == .text name then (key, value) :: under name rest else under name rest := by
  unfold under
  rw [List.filter_cons]

theorem under_set_self (name : String) (value : Value) (fields : Fields) :
    under name (set (.text name) value fields) = set (.text name) value (under name fields) := by
  induction fields with
  | nil => simp [set, under]
  | cons field rest ih =>
    obtain ⟨key, old⟩ := field
    by_cases same : (key == .text name) = true
    · rw [set, if_pos same, under_cons, if_pos same, under_cons, if_pos same, set, if_pos same]
    · rw [set, if_neg same, under_cons, if_neg same, under_cons, if_neg same, ih]

variable {name : String}

theorem under_set_of_ne (differs : key ≠ .text name) (value : Value) (fields : Fields) :
    under name (set key value fields) = under name fields := by
  have other : ¬ (key == .text name) = true := by rwa [Key.beq_text]
  induction fields with
  | nil => rw [set, under_cons, if_neg other]
  | cons field rest ih =>
    obtain ⟨held, old⟩ := field
    rw [set]
    split
    · rename_i same
      have other_held : ¬ (held == .text name) = true := by
        rw [Key.beq_text]
        rintro rfl
        rw [Key.text_beq] at same
        exact differs same
      rw [under_cons, under_cons, if_neg other_held, if_neg other_held]
    · rw [under_cons, under_cons, ih]

theorem under_update (name : String) (fields changes : Fields) :
    under name (update fields changes) = update (under name fields) (under name changes) := by
  induction changes generalizing fields with
  | nil => rfl
  | cons change changes ih =>
    obtain ⟨key, value⟩ := change
    have step : update fields ((key, value) :: changes) = update (set key value fields) changes := rfl
    rw [step, ih, under_cons]
    by_cases same : key = .text name
    · subst same
      rw [under_set_self, if_pos ((Key.beq_text _ _).mpr rfl)]
      rfl
    · rw [under_set_of_ne same, if_neg (by rwa [Key.beq_text])]

/-- The record has at most one field of a name. -/
def Once (name : String) (fields : Fields) : Prop := (under name fields).length ≤ 1

variable {fields : Fields}

theorem under_set_once (once : Once name fields) (value : Value) :
    under name (set (.text name) value fields) = [(.text name, value)] := by
  rw [under_set_self]
  cases held : under name fields with
  | nil => rfl
  | cons field rest =>
    have none_ : rest = [] := by
      rw [Once, held] at once
      exact List.length_eq_zero_iff.1 (by simpa using once)
    have among : field ∈ under name fields := held ▸ List.mem_cons_self
    have key : (field.1 == .text name) = true := (List.mem_filter.1 among).2
    obtain ⟨other, old⟩ := field
    rw [Key.beq_text] at key
    subst none_ key
    simp [set]

theorem Once.set (once : Once name fields) (key : Key) (value : Value) :
    Once name (fields.set key value) := by
  by_cases same : key = .text name
  · subst same
    rw [Once, under_set_once once]
    exact Nat.le_refl 1
  · rw [Once, under_set_of_ne same]
    exact once

theorem Once.update (once : Once name fields) (changes : Fields) :
    Once name (fields.update changes) := by
  induction changes generalizing fields with
  | nil => exact once
  | cons change changes ih => exact ih (once.set change.1 change.2)

theorem get?_of_under {rest : Fields}
    (held : under name fields = (key, value) :: rest) : fields.get? (.text name) = some value := by
  rw [get?, ← List.head?_filter, ← under, held]
  rfl

end Fields

/-! ### Names in files -/

namespace Json

/-- A name in ASCII that no key but the name itself is written as. -/
structure Distinctive (name : String) : Prop where
  ascii : ∀ c ∈ name.toList, c.toNat < 128
  lettered : ∃ c ∈ name.toList, ¬IsNumeric c
  unreserved : name ∉ ["null", "true", "false", "NaN", "Infinity", "-Infinity"]

variable {name : String}

theorem distinctive_of_ascii {c : Char} (ascii : (name.toList.all fun c => c.toNat < 128) = true)
    (among : c ∈ name.toList) (letter : ¬IsNumeric c)
    (unreserved : name ∉ ["null", "true", "false", "NaN", "Infinity", "-Infinity"]) : Distinctive name :=
  ⟨fun c member => of_decide_eq_true (List.all_eq_true.1 ascii c member), ⟨c, among, letter⟩, unreserved⟩

/-- Only the name itself is written so. -/
theorem Distinctive.eq_of_keyName (distinctive : Distinctive name)
    (same : joinedText (keyName key) = name) : key = .text name := by
  have written : keyName key = name := by
    refine String.toList_inj.1 (Text.eq_of_joined_ascii distinctive.ascii ?_)
    rw [← same]
    exact String.toList_ofList.symm
  have no_number {text : String} (number_ : NumberText text.toList) : text ≠ name := by
    rintro rfl
    obtain ⟨c, among, letter⟩ := distinctive.lettered
    exact letter (number_.numeric c among)
  have no_word {word : String} (reserved : word ∈ ["null", "true", "false", "NaN", "Infinity", "-Infinity"]) :
      word ≠ name := by
    rintro rfl
    exact distinctive.unreserved reserved
  cases key with
  | text other => exact congrArg Key.text written
  | null => exact absurd written (no_word (by decide))
  | bool b => cases b <;> exact absurd written (no_word (by decide))
  | int n => exact absurd written (no_number (numberText_toString n))
  | float x =>
    obtain ⟨text, -⟩ | ⟨text, -⟩ | ⟨text, -⟩ | ⟨text, negative, value, class_⟩ := number_cases x
    on_goal 4 => exact absurd (text.symm.trans written) (no_number (numberText_written class_))
    all_goals exact absurd (text.symm.trans written) (no_word (by decide))

theorem joinedText_of_ascii {text : String} (ascii : ∀ c ∈ text.toList, c.toNat < 128) : joinedText text = text :=
  joinedText_of_paired (Text.paired_of_ascii ascii)

/-- The fields under a name are reread as those under it. -/
theorem under_rereadFields (distinctive : Distinctive name) (fields : Fields) :
    Fields.under name ((rereadFields fields).map fun pair => (Key.text pair.1, pair.2)) =
      (Fields.under name fields).map fun field => (Key.text name, reread field.2) := by
  induction fields with
  | nil => rfl
  | cons field fields ih =>
    obtain ⟨key, value⟩ := field
    rw [rereadFields, List.map_cons, Fields.under_cons, Fields.under_cons, ih]
    by_cases same : key = .text name
    · subst same
      have read : joinedText (keyName (.text name)) = name := joinedText_of_ascii distinctive.ascii
      rw [read, if_pos ((Key.beq_text _ _).mpr rfl), if_pos ((Key.beq_text _ _).mpr rfl), List.map_cons]
    · have other : ¬Key.text (joinedText (keyName key)) = .text name := fun read =>
        same (distinctive.eq_of_keyName (Key.text.inj read))
      rw [if_neg (by rwa [Key.beq_text]), if_neg (by rwa [Key.beq_text])]

/-- The one field of a record under a name is the one that is reread. -/
theorem under_reread_once (distinctive : Distinctive name) {fields : Fields}
    (once : Fields.under name fields = [(.text name, value)]) :
    Fields.under name (Fields.ofPairs (rereadFields fields)) = [(.text name, reread value)] := by
  have shown := under_rereadFields distinctive fields
  rw [once] at shown
  rw [Fields.ofPairs, Fields.under_update]
  exact congrArg (Fields.update []) shown

end Json

namespace Sessions
open Fields FileTree

/-! ### Sessions that say when they were last active -/

theorem distinctive_lastActivity : Json.Distinctive "last_activity" :=
  Json.distinctive_of_ascii (c := 'l') (by decide) (by decide) (by unfold Json.IsNumeric; decide) (by decide)

/-- The one field of a session for its last activity tells a moment. -/
def Tells (fields : Fields) (last : Moment) : Prop :=
  under "last_activity" fields = [(.text "last_activity", .text last.iso)]

section
variable {now last : Moment} {fields : Fields}

theorem Tells.once (tells : Tells fields last) : Once "last_activity" fields := by
  rw [Once, tells]
  exact Nat.le_refl 1

theorem Tells.field? (tells : Tells fields last) :
    (Value.record fields).field? "last_activity" = some (.text last.iso) := get?_of_under tells

theorem tells_refreshed (once : Once "last_activity" fields) : Tells (refreshed now fields) now :=
  under_set_once once _

theorem Tells.set {name : String} (tells : Tells fields last) (other : name ≠ "last_activity") (value : Value) :
    Tells (fields.set (.text name) value) last := by
  rw [Tells, under_set_of_ne fun same => other (Key.text.inj same)]
  exact tells

theorem Tells.edited (tells : Tells fields last) (call : Call) : Tells (call.edited now fields) now := by
  have renewed : Tells (refreshed now fields) now := tells_refreshed tells.once
  have edited := Call.edited_edited now fields call
  generalize call.edited now fields = result at edited
  cases edited with
  | renewed => exact renewed
  | changed id changes => exact tells_refreshed (renewed.once.update changes)
  | ended id => exact (renewed.set (by decide) _).set (by decide) _
  | noted id event held => exact renewed.set (by decide) _

theorem tells_opening (now : Moment) (id : String) (user : Value) : Tells (opening now id user) now := by
  simp [Tells, opening, under]

theorem Tells.reread (tells : Tells fields last) : Tells (ofPairs (Json.rereadFields fields)) last := by
  rw [Tells, Json.under_reread_once distinctive_lastActivity tells, Json.reread,
    Json.joinedText_of_ascii last.ascii_iso]

/-- Calls with any documents, on sessions that tell when they were last active. -/
def tellingCustom : Custom where
  Allowed _ := True
  Era _ := True
  Good _ fields := ∃ last, Tells fields last
  filled := by
    rintro now _ ⟨last, tells⟩ rfl
    cases tells
  reads := by
    rintro now fields found ⟨last, tells⟩ read
    exact ⟨_, Json.eq_reread_of_read read, last, tells.reread⟩
  opening _ _ _ := ⟨_, tells_opening _ _ _⟩
  edited _ _ _ good := ⟨_, good.choose_spec.edited _⟩
  later _ _ := ⟨trivial, fun good => good⟩

end

/-! ### One id -/

/-- What a call writes under an id: what it makes of the live session there, or a new session. -/
inductive Writes (s : Sessions) (id : String) : Call → Fields → Prop where
  | edits {call : Call} {fields : Fields} (names : call.id? = some id) (current : s.current id = some (.record fields))
      (live : isExpired s.now (.record fields) = .ok false) : Writes s id call (call.edited s.now fields)
  | opens {user : Value} (new : id = idOf (s.made + 1)) : Writes s id (.create user) (opening s.now id user)

/-- The folders and the file of an id are as they were. -/
structure Unwritten (s : Sessions) (id : String) (t : Sessions) : Prop where
  folders : ∀ path, t.tree.isDirectory path = s.tree.isDirectory path
  text? : t.tree.text? (path (.text id)) = s.tree.text? (path (.text id))

/-- What a call can do to one id. It saves a session there; or it names no live one and writes nothing, and the session
may leave memory or be put back in it as it was. -/
inductive Touch (s : Sessions) (id : String) (call : Call) (t : Sessions) : Prop where
  | left (stale : call.id? = some id → ∀ session, s.current id = some session → isExpired s.now session ≠ .ok false)
      (memory : ∀ session, t.find? (.text id) = some session → s.current id = some session)
      (unwritten : Unwritten s id t)
  | saved {fields : Fields} (writes : Writes s id call fields)
      (memory : ∀ held, t.find? (.text id) = some held → held = .record fields)
      (filed : Filed id fields s.tree t.tree)

section
variable {custom : Custom} {s t : Sessions} {id name : String} {fields : Fields} {call : Call} {session : Value}

theorem find?_of_sublist (once : (s.active.map Prod.fst).Nodup) (fewer : t.active.Sublist s.active)
    (found : t.find? (.text id) = some session) : s.find? (.text id) = some session := by
  rw [find?_eq_some_iff ((fewer.map Prod.fst).nodup once)] at found
  exact (find?_eq_some_iff once).2 (fewer.subset found)

theorem Unwritten.stored_eq (unwritten : Unwritten s id t) : stored t.tree id = stored s.tree id :=
  stored_eq_of_text? unwritten.folders unwritten.text?

theorem unwritten_of_tree (same : t.tree = s.tree) (id : String) : Unwritten s id t :=
  ⟨fun _ => by rw [same], by rw [same]⟩

theorem current_of_find? (found : s.find? (.text id) = some session) : s.current id = some session :=
  Option.or_eq_some_iff.2 (.inl found)

/-- Where sessions only leave memory, an id with a session is left alone if it is not named. -/
theorem touch_of_fewer (once : (s.active.map Prod.fst).Nodup) (unknown : call.id? = some id → s.current id = none)
    (fewer : t.active.Sublist s.active) (same : t.tree = s.tree) : Touch s id call t := by
  refine .left (fun names session current => ?_) (fun session found => ?_) (unwritten_of_tree same id)
  · cases (unknown names).symm.trans current
  · exact current_of_find? (find?_of_sublist once fewer found)

/-- A session that was just saved is read from its file, if at all, as it is reread. -/
theorem Filed.stored_eq {old new : FileTree} (filed : Filed id fields old new) (found : stored new id = some session) :
    session = .record (ofPairs (Json.rereadFields fields)) := by
  have short := hasLongName_of_stored found
  have text : new.text? (path (.text id)) = some (Json.spread 2 (.record fields)) := by simp [filed.text?, short]
  obtain ⟨-, written, on_file, read⟩ := stored_eq_some_iff.1 found
  cases on_file.symm.trans text
  exact Json.eq_reread_of_read read

/-- Saving a session leaves the other ids alone. -/
theorem touch_of_filed (plain_name : '/' ∉ name.toList) (plain : '/' ∉ id.toList) (writes : Writes s name call fields)
    (other : call.id? = some id → id = name) (filed : Filed name fields s.tree t.tree)
    (memory : ∀ held, t.find? (.text id) = some held →
      (if id = name then some (.record fields) else s.find? (.text id)) = some held) : Touch s id call t := by
  by_cases same : id = name
  · subst same
    refine .saved writes (fun held found => ?_) filed
    have saved := memory held found
    rw [if_pos rfl] at saved
    exact (Option.some.inj saved).symm
  · refine .left (fun names => absurd (other names) same) (fun held found => ?_)
      ⟨filed.isDirectory, filed.text?_of_ne plain_name plain same⟩
    have before := memory held found
    rw [if_neg same] at before
    exact current_of_find? before

theorem Change.touch (sound : Sound custom s) (plain : call.IsPlain) (plain_id : '/' ∉ id.toList)
    (change : Change s call t) : Touch s id call t := by
  cases change with
  | waits seconds | lists user | stuck undated => exact touch_of_fewer sound.once nofun (List.Sublist.refl _) rfl
  | @absent _ name _ names unknown same =>
    refine touch_of_fewer sound.once (fun asks => ?_) (same.active ▸ List.Sublist.refl _) same.tree
    cases names.symm.trans asks
    exact unknown
  | refuses live => exact touch_of_fewer sound.once nofun (filterM_sublist live) rfl
  | @rests _ name _ fields names found stale put =>
    refine .left (fun asks session here => ?_) (fun held here => ?_) (unwritten_of_tree put.tree id)
    · cases names.symm.trans asks
      cases found.symm.trans here
      exact stale
    · rw [find?_of_putIn put.active] at here
      split at here
      · rename_i same
        exact same ▸ found.trans here
      · exact current_of_find? here
  | renews names stays found live kept =>
    refine touch_of_filed (plain _ names) plain_id (.edits names found live)
      (fun asks => Option.some.inj (asks.symm.trans names)) kept.filed ?_
    intro held here
    rwa [find?_of_putIn kept.active] at here
  | @ends name _ fields found live archived =>
    refine touch_of_filed (plain _ rfl) plain_id (.edits rfl found live) (fun asks => (Option.some.inj asks).symm)
      archived.filed ?_
    intro held here
    rw [find?_of_filter sound.once archived.active, Option.filter_eq_some_iff] at here
    split
    · rename_i same
      subst same
      simp at here
    · exact here.1
  | opens few opened =>
    have fewer := filterM_sublist opened.live
    refine touch_of_filed (plain_idOf _) plain_id (.opens (congrArg idOf opened.made)) nofun opened.filed ?_
    intro held here
    rw [opened.find?] at here
    by_cases same : id = idOf t.made
    · rwa [if_pos same] at here ⊢
    · rw [if_neg same] at here ⊢
      exact find?_of_sublist sound.once fewer here

end

/-! ### Memory and files -/

/-- The last activity of an id is the same in memory and on file. -/
def Agrees (s : Sessions) (id : String) : Prop :=
  ∀ held filed, s.find? (.text id) = some held → stored s.tree id = some filed →
    held.field? "last_activity" = filed.field? "last_activity"

section
variable {s t : Sessions} {id name : String} {fields : Fields} {last : Moment}

variable {call : Call}

theorem Writes.tells (sound : Sound tellingCustom s) (writes : Writes s id call fields) : Tells fields s.now := by
  cases writes with
  | edits names current live =>
    obtain ⟨_, same, -, ⟨last, tells⟩, -⟩ := sound.current current
    cases same
    exact tells.edited call
  | opens new => exact tells_opening _ _ _

theorem Agrees.touch (sound : Sound tellingCustom s) (agrees : Agrees s id) (touch : Touch s id call t) :
    Agrees t id := by
  intro held filed here on_file
  cases touch with
  | left stale memory unwritten =>
    rw [unwritten.stored_eq] at on_file
    rcases held_or_stored (memory held here) with before | ⟨-, before⟩
    · exact agrees _ filed before on_file
    · cases on_file.symm.trans before
      rfl
  | saved writes memory saves =>
    have tells := writes.tells sound
    obtain rfl := memory held here
    rw [tells.field?, saves.stored_eq on_file]
    exact tells.reread.field?.symm

end

/-! ### Steps -/

/-- A call of the store, a clean-up of memory, or a start over the same files. -/
inductive Step where
  | calls (call : Call)
  | clean
  | restart

namespace Step

def run (s : Sessions) : Step → Sessions
  | .calls call => (call.act.runFrom s).2
  | .clean => ((Sessions.clean).runFrom s).2
  | .restart => s.restarted

def IsPlain : Step → Prop
  | .calls call => call.IsPlain
  | _ => True

def Forward : Step → Prop
  | .calls call => call.Forward
  | _ => True

/-- A step whose call is allowed. -/
def Follows (custom : Custom) : Step → Prop
  | .calls call => custom.Allowed call
  | _ => True

end Step

/-- The store after some steps. -/
def through (s : Sessions) (steps : List Step) : Sessions := steps.foldl Step.run s

/-- Sessions have left memory, and nothing else has changed. -/
structure Fewer (s t : Sessions) : Prop extends Frame s t where
  active : t.active.Sublist s.active
  tree : t.tree = s.tree

section
variable {s : Sessions} {id : String} {text : Option String}

theorem clean_fewer (s : Sessions) : Fewer s ((clean).runFrom s).2 := by
  rw [clean_run]
  cases live : s.liveEntries with
  | error fault => exact ⟨⟨rfl, rfl, rfl⟩, List.Sublist.refl _, rfl⟩
  | ok entries => exact ⟨⟨rfl, rfl, rfl⟩, filterM_sublist live, rfl⟩

theorem restarted_fewer (s : Sessions) : Fewer s s.restarted := ⟨⟨rfl, rfl, rfl⟩, List.nil_sublist _, rfl⟩

variable {step : Step} {session : Value}

theorem Sound.run {custom : Custom} (sound : Sound custom s) (follows : step.Follows custom) :
    Sound custom (step.run s) := by
  cases step with
  | calls call => exact sound.change follows (act_change sound.ordered call)
  | clean => exact sound.fewer (clean_fewer s).active (clean_fewer s).tree (clean_fewer s).toFrame
  | restart => exact sound.fewer (restarted_fewer s).active rfl ⟨rfl, rfl, rfl⟩

/-- To an id, sessions that leave memory are what a call that names none can do. -/
theorem Fewer.touch {t : Sessions} (fewer : Fewer s t) (once : (s.active.map Prod.fst).Nodup) (id : String) :
    Touch s id (.list .null) t := touch_of_fewer once nofun fewer.active fewer.tree

theorem Step.touch {custom : Custom} (sound : Sound custom s) (plain : step.IsPlain) (plain_id : '/' ∉ id.toList) :
    ∃ call, Touch s id call (step.run s) := by
  cases step with
  | calls call => exact ⟨call, (act_change sound.ordered call).touch sound plain plain_id⟩
  | clean => exact ⟨_, (clean_fewer s).touch sound.once id⟩
  | restart => exact ⟨_, (restarted_fewer s).touch sound.once id⟩

theorem Step.made_le (ordered : Ordered s) (step : Step) : s.made ≤ (step.run s).made := by
  cases step with
  | calls call => exact (act_change ordered call).frame.2.2
  | clean => exact Nat.le_of_eq (clean_fewer s).made.symm
  | restart => exact Nat.le_refl _

theorem Step.now_le (ordered : Ordered s) (forward : step.Forward) : s.now.micros ≤ (step.run s).now.micros := by
  cases step with
  | calls call =>
    rw [run, (act_change ordered call).now_eq]
    exact Call.le_later forward _
  | clean => exact Int.le_of_eq (congrArg Moment.micros (clean_fewer s).now).symm
  | restart => exact Int.le_refl _

theorem follows_telling (step : Step) : step.Follows tellingCustom := by
  cases step <;> trivial

/-- What each step keeps in a store whose sessions tell when they were last active, a run keeps. -/
theorem Sound.through_along {P : Sessions → Prop} (steps : List Step) (sound : Sound tellingCustom s)
    (keeps : ∀ {s step}, step ∈ steps → Sound tellingCustom s → P s → P (step.run s)) (holds : P s) :
    Sound tellingCustom (s.through steps) ∧ P (s.through steps) := by
  induction steps generalizing s with
  | nil => exact ⟨sound, holds⟩
  | cons step steps ih =>
    exact ih (sound.run (follows_telling step)) (fun member => keeps (List.mem_cons_of_mem _ member))
      (keeps List.mem_cons_self sound holds)

/-! ### Expired sessions -/

theorem isExpired_of_isIdle {now : Moment} (idle : isIdle now session = true) : isExpired now session = .ok true := by
  cases active : lastActivity session with
  | none => simp [isIdle, active] at idle
  | some last => rw [isExpired_eq active, idle]

theorem isIdle_congr {held filed : Value} (same : held.field? "last_activity" = filed.field? "last_activity")
    (now : Moment) : isIdle now held = isIdle now filed := by
  rw [isIdle, isIdle, lastActivity, lastActivity, same]

/-- The session of an id has expired, in memory and on file, and the file has some text. -/
structure Expired (id : String) (text : Option String) (s : Sessions) : Prop where
  made : ∃ n ≤ s.made, id = idOf n
  held : ∀ session, s.find? (.text id) = some session → isIdle s.now session = true
  filed : ∀ session, stored s.tree id = some session → isIdle s.now session = true
  text? : s.tree.text? (path (.text id)) = text

theorem Expired.current (expired : Expired id text s) (found : s.current id = some session) :
    isIdle s.now session = true :=
  (held_or_stored found).elim (expired.held session) fun both => expired.filed session both.2

/-- An expired session has expired after every step: it is not live, so no step saves it. -/
theorem Expired.touch {t : Sessions} {call : Call} (expired : Expired id text s) (touch : Touch s id call t)
    (grown : s.made ≤ t.made) (past : s.now.micros ≤ t.now.micros) : Expired id text t := by
  obtain ⟨n, below, named⟩ := expired.made
  have made : ∃ n ≤ t.made, id = idOf n := ⟨n, Nat.le_trans below grown, named⟩
  cases touch with
  | left stale memory unwritten =>
    refine ⟨made, fun session found => ?_, fun session found => ?_, unwritten.text?.trans expired.text?⟩
    · exact isIdle_mono past (expired.current (memory session found))
    · rw [unwritten.stored_eq] at found
      exact isIdle_mono past (expired.filed session found)
  | saved writes memory filed =>
    cases writes with
    | edits names current live =>
      rw [isExpired_of_isIdle (expired.current current)] at live
      cases live
    | opens new =>
      have same := idOf_inj (named.symm.trans new)
      omega

/-- Where memory and file agree, a session that is idle in one of them has expired. -/
theorem Agrees.expired (sound : Sound tellingCustom s) (agrees : Agrees s id) (plain : '/' ∉ id.toList)
    (known : s.find? (.text id) = some session ∨ stored s.tree id = some session) (idle : isIdle s.now session = true) :
    Expired id (s.tree.text? (path (.text id))) s := by
  have made : Made s.made id := by
    rcases known with held | filed
    · obtain ⟨_, _, same, made, -⟩ := sound.held _ ((find?_eq_some_iff sound.once).1 held)
      cases same
      exact made
    · obtain ⟨_, -, made, -⟩ := sound.loaded filed
      exact made
  obtain ⟨n, below, same⟩ := made
  refine ⟨⟨n, below, sameFile_plain plain (plain_idOf n) same.parts_eq⟩, fun other held => ?_, fun other filed => ?_, rfl⟩
  · rcases known with known | known
    · cases held.symm.trans known
      exact idle
    · rw [isIdle_congr (agrees other session held known)]
      exact idle
  · rcases known with known | known
    · rw [← isIdle_congr (agrees session other known filed)]
      exact idle
    · cases filed.symm.trans known
      exact idle

theorem Expired.asked (expired : Expired id text s) (ordered : Ordered s) :
    ((get? (.text id)).runFrom s).1 = .ok none := by
  rw [get?_answer ordered]
  cases found : s.current id with
  | none => rfl
  | some session => simp [answer, isExpired_of_isIdle (expired.current found)]

/-- Every call refuses an id. -/
structure Closed (s : Sessions) (id : String) : Prop where
  get? : ((get? (.text id)).runFrom s).1 = .ok none
  update : ∀ changes, ((update (.text id) (.record changes)).runFrom s).1 = .error (.noSession (.text id))
  finish : ((finish (.text id)).runFrom s).1 = .ok false
  record : ∀ event, ((record (.text id) event).runFrom s).1 = .ok false
  history : ((history (.text id)).runFrom s).1 = .ok (.list [])

theorem Expired.closed (expired : Expired id text s) (ordered : Ordered s) : Closed s id := by
  have asked := expired.asked ordered
  refine ⟨asked, fun changes => (update_refuses_iff changes asked).2 rfl, finish_answer asked,
    fun event => (record_refuses_iff event asked).2 rfl, ?_⟩
  rw [history_answer, asked]
  rfl

end

/-- Expiry is for good. In every run of calls, clean-ups and starts over the same files, with ids without a slash and
a clock that does not go back, if a session was last active more than the timeout ago, in memory or on file, then
after all that follows every call refuses its id, and its file is as it was. -/
theorem expiry_is_permanent (first : Moment) (steps later : List Step) (id : String) {session : Value} {last : Moment}
    (plain : ∀ step ∈ steps ++ later, step.IsPlain) (plain_id : '/' ∉ id.toList)
    (forward : ∀ step ∈ steps ++ later, step.Forward)
    (known : ((start first).through steps).find? (.text id) = some session ∨
      stored ((start first).through steps).tree id = some session)
    (active : lastActivity session = some last)
    (idle : timeout < ((start first).through steps).now.micros - last.micros) :
    Closed (((start first).through steps).through later) id ∧
      (((start first).through steps).through later).tree.text? (path (.text id)) =
        ((start first).through steps).tree.text? (path (.text id)) := by
  have starts : Agrees (start first) id := fun held filed here _ => by cases here
  obtain ⟨sound, agrees⟩ := Sound.through_along (P := fun s => Agrees s id) steps (sound_start trivial)
    (fun member sound agrees => by
      obtain ⟨call, touch⟩ := Step.touch sound (plain _ (List.mem_append_left _ member)) plain_id
      exact agrees.touch sound touch) starts
  generalize (start first).through steps = s at *
  have idle_session : isIdle s.now session = true := by simpa [isIdle, active] using idle
  obtain ⟨sound_later, expired⟩ := sound.through_along (P := Expired id (s.tree.text? (path (.text id)))) later
    (fun member sound expired => by
      obtain ⟨call, touch⟩ := Step.touch sound (plain _ (List.mem_append_right _ member)) plain_id
      exact expired.touch touch (Step.made_le sound.ordered _)
        (Step.now_le sound.ordered (forward _ (List.mem_append_right _ member))))
    (agrees.expired sound plain_id known idle_session)
  exact ⟨expired.closed sound_later.ordered, expired.text?⟩

/-- A session that was left alone for two hours and a second is refused by the store that starts again over its file,
and after a clean-up. -/
theorem expiry_is_permanent_restarted :
    Closed (((start ⟨0⟩).through [.calls (.create (.text "ann")), .calls (.wait (.int 7201))]).through
      [.restart, .calls (.get (idOf 1)), .clean]) (idOf 1) := by
  have dated : (Moment.mk 0).InCalendar := ⟨Int.le_refl 0, by decide⟩
  obtain ⟨s, created, opened, active, -⟩ := first_created dated (.text "ann")
  have now : s.now = ⟨0⟩ := opened.now
  have waited : (start ⟨0⟩).through [.calls (.create (.text "ann")), .calls (.wait (.int 7201))] =
      { s with now := s.now.plusMicros (Moment.microsOf (.int 7201)) } := by
    rw [← created]
    rfl
  have held : ((start ⟨0⟩).through [.calls (.create (.text "ann")), .calls (.wait (.int 7201))]).find?
      (.text (idOf 1)) = some (.record (opening ⟨0⟩ (idOf 1) (.text "ann"))) := by
    rw [waited]
    simp [find?, active]
  have idle : timeout < ((start ⟨0⟩).through [.calls (.create (.text "ann")),
      .calls (.wait (.int 7201))]).now.micros - (Moment.mk 0).micros := by
    have two_hours : timeout < ((Moment.mk 0).plusMicros (Moment.microsOf (.int 7201))).micros - (Moment.mk 0).micros := by
      decide
    exact two_hours
  have plain : ∀ step ∈ [Step.calls (.create (.text "ann")), .calls (.wait (.int 7201))] ++
      [.restart, .calls (.get (idOf 1)), .clean], step.IsPlain := by
    simp [Step.IsPlain, Call.IsPlain, Call.id?, plain_idOf]
  have forward : ∀ step ∈ [Step.calls (.create (.text "ann")), .calls (.wait (.int 7201))] ++
      [.restart, .calls (.get (idOf 1)), .clean], step.Forward := by
    have ahead : 0 ≤ Moment.microsOf (.int 7201) := by decide
    simp [Step.Forward, Call.Forward, ahead]
  have last : lastActivity (.record (opening ⟨0⟩ (idOf 1) (.text "ann"))) = some ⟨0⟩ :=
    lastActivity_of_get? dated (get?_opening _ _ _)
  exact (expiry_is_permanent ⟨0⟩ _ _ (idOf 1) plain (plain_idOf 1) forward (.inl held) last idle).1

end Sessions
end Playhouse
