import Playhouse.Proofs.Session.Sound

/-!
Memory and files agree. In every run of calls whose arguments are JSON and whose ids have no slash, the
file of a session in memory reads as that session, also after calls that fail; so a store that starts
again over the same files answers as the old one would.
-/
namespace Playhouse.Sessions
open FileTree Value Text List

variable {call : Call}

/-! ### Sessions as JSON -/

/-- The arguments of a call are documents that JSON keeps. -/
def Call.IsJson : Call → Prop
  | create user => user.IsJson
  | update _ changes => FieldsJson changes
  | record _ event => event.IsJson
  | _ => True

/-- The id of a call has no slash. -/
def Call.IsPlain (call : Call) : Prop := ∀ id, call.id? = some id → '/' ∉ id.toList

theorem isJson_iso (now : Moment) : IsJson (.text now.iso) := paired_of_ascii now.ascii_iso

theorem set_ne_nil (key : Key) (value : Value) (fields : Fields) : fields.set key value ≠ [] := by
  cases fields with
  | nil => exact cons_ne_nil _ _
  | cons field fields =>
    unfold Fields.set
    split <;> exact cons_ne_nil _ _

section
variable {now : Moment} {fields : Fields}

theorem fieldsJson_refreshed (json : FieldsJson fields) : FieldsJson (refreshed now fields) :=
  fieldsJson_set json (paired_of_all (by decide)) (isJson_iso now)

theorem fieldsJson_edited (args : call.IsJson) (json : FieldsJson fields) : FieldsJson (call.edited now fields) := by
  have fresh : FieldsJson (refreshed now fields) := fieldsJson_refreshed json
  have edited := Call.edited_edited now fields call
  generalize call.edited now fields = result at edited
  cases edited with
  | renewed => exact fresh
  | changed id changes => exact fieldsJson_refreshed (fieldsJson_update fresh args)
  | ended id =>
    have status : Paired "status".toList := paired_of_all (by decide)
    have completed : IsJson (.text "completed") := paired_of_all (by decide)
    exact fieldsJson_set (fieldsJson_set fresh status completed) (paired_of_all (by decide)) (isJson_iso now)
  | noted id event held =>
    have stamped : FieldsJson (event.set (.text "timestamp") (.text now.iso)) :=
      fieldsJson_set args (paired_of_all (by decide)) (isJson_iso now)
    exact fieldsJson_set fresh (paired_of_all (by decide))
      (itemsJson_append (FieldsJson.get? fresh held).1 ⟨stamped, trivial⟩)

theorem edited_ne_nil (call : Call) : call.edited now fields ≠ [] := by
  have edited := Call.edited_edited now fields call
  generalize call.edited now fields = result at edited
  cases edited <;> exact set_ne_nil _ _ _

theorem fieldsJson_opening (now : Moment) (n : Nat) {user : Value} (json : user.IsJson) :
    FieldsJson (opening now (idOf n) user) := by
  have named {name : String} (ascii : (name.toList.all fun c => c.toNat < 128) = true) :
      ∃ other, Key.text name = .text other ∧ Paired other.toList := ⟨name, rfl, paired_of_all ascii⟩
  have numbered : IsJson (.text (idOf n)) := by
    refine paired_of_ascii fun c member => ?_
    rw [idOf_toList] at member
    rcases mem_append.1 member with front | digit
    · have ascii : ("00000000-0000-4000-8000-".toList.all fun c => c.toNat < 128) = true := by decide
      exact of_decide_eq_true (all_eq_true.1 ascii c front)
    · exact Moment.ascii_of_isDigit (Moment.isDigit_padded digit)
  have active : IsJson (.text "active") := paired_of_all (by decide)
  have stamp := isJson_iso now
  simp only [opening, FieldsJson, empty, IsJson, ItemsJson]
  refine ⟨named (by decide), numbered, ?_, named (by decide), json, ?_, named (by decide), stamp, ?_,
    named (by decide), stamp, ?_, named (by decide), trivial, ?_, named (by decide), trivial, ?_,
    named (by decide), active, ?_, trivial⟩
  all_goals simp

/-- How deep the arguments of a call lie in the session that it works on. -/
def Call.nesting : Call → Nat
  | create user => user.nesting + 1
  | update _ changes => Value.nesting (.record changes)
  | record _ event => event.nesting + 2
  | _ => 0

theorem nestingFields_refreshed_le (now : Moment) (fields : Fields) :
    nestingFields (refreshed now fields) ≤ nestingFields fields := by
  have stamped := nestingFields_set_le fields "last_activity" (.text now.iso)
  rwa [nesting, Nat.max_zero] at stamped

/-- No call nests a session deeper than it was and its arguments lie. -/
theorem nesting_edited_le (args : call.IsJson) (json : FieldsJson fields) :
    nesting (.record (call.edited now fields)) ≤ max (nesting (.record fields)) call.nesting := by
  have fresh : FieldsJson (refreshed now fields) := fieldsJson_refreshed json
  have renewed := nestingFields_refreshed_le now fields
  have edited := Call.edited_edited now fields call
  generalize call.edited now fields = result at edited
  simp only [nesting]
  cases edited with
  | renewed => omega
  | changed id changes =>
    have merged : nestingFields ((refreshed now fields).update changes) ≤
        max (nestingFields (refreshed now fields)) (nestingFields changes) := nestingFields_update_le args
    have stamped := nestingFields_refreshed_le now ((refreshed now fields).update changes)
    simp only [Call.nesting, nesting]
    omega
  | ended id =>
    have closed := nestingFields_set_le (refreshed now fields) "status" (.text "completed")
    have stamped := nestingFields_set_le ((refreshed now fields).set (.text "status") (.text "completed")) "end_time"
      (.text now.iso)
    simp only [nesting] at closed stamped
    omega
  | @noted id event events held =>
    have within : nesting (.list events) ≤ nestingFields (refreshed now fields) := (FieldsJson.get? fresh held).2
    have stamped := nestingFields_set_le event "timestamp" (.text now.iso)
    have noted := nestingFields_set_le (refreshed now fields) "user_choices"
      (.list (events ++ [.record (event.set (.text "timestamp") (.text now.iso))]))
    simp only [nesting, nestingItems_append, nestingItems] at within stamped noted
    simp only [Call.nesting, nesting]
    omega

end

/-- Calls with JSON arguments keep sessions in JSON. -/
def jsonRegime : Regime where
  Allowed := Call.IsJson
  Era _ := True
  Good _ fields := fields ≠ [] ∧ FieldsJson fields
  json good := good
  opening n _ args := ⟨cons_ne_nil _ _, fieldsJson_opening _ n args⟩
  edited _ args _ good := ⟨edited_ne_nil _, fieldsJson_edited args good.2⟩
  later _ _ := ⟨trivial, fun good => good⟩

/-! ### Memory against files -/

/-- Every session in memory has an id without a slash and is what its file holds, unless its name is too
long for a file. -/
structure Mirrored (s : Sessions) : Prop where
  plain : ∀ entry ∈ s.active, ∃ id : String, entry.1 = .text id ∧ '/' ∉ id.toList
  filed : ∀ id session, (.text id, session) ∈ s.active → hasLongName (.text id) = false →
    s.tree.text? (path (.text id)) = some (Json.spread 2 session)

section
variable {regime : Regime} {s t : Sessions} {id : String} {fields : Fields}

/-- Saving a session of a plain id keeps memory mirrored, if memory has at most that session under it. -/
theorem Mirrored.saved (mirrored : Mirrored s) (plain : '/' ∉ id.toList) (filed : Filed id fields s.tree t.tree)
    (active : ∀ entry ∈ t.active, entry = (.text id, .record fields) ∨ (entry ∈ s.active ∧ entry.1 ≠ .text id)) :
    Mirrored t := by
  refine ⟨fun entry member => ?_, fun other session member short => ?_⟩
  · rcases active entry member with rfl | ⟨member, -⟩
    · exact ⟨id, rfl, plain⟩
    · exact mirrored.plain entry member
  · rcases active _ member with same | ⟨member, differs⟩
    · cases same
      simp [filed.text?, short]
    · obtain ⟨name, same, plain_name⟩ := mirrored.plain _ member
      cases same
      have apart : parts (path (.text other)) ≠ parts (path (.text id)) := by
        intro same
        exact differs (congrArg text (sameFile_plain plain_name plain same))
      rw [filed.text?, if_neg fun here => apart here.2]
      exact mirrored.filed other session member short

theorem Mirrored.fewer (mirrored : Mirrored s) (fewer : t.active.Sublist s.active) (tree : t.tree = s.tree) :
    Mirrored t := by
  refine ⟨fun entry member => mirrored.plain entry (fewer.subset member), fun other session member short => ?_⟩
  rw [tree]
  exact mirrored.filed other session (fewer.subset member) short

section
variable (sound : Sound regime s) (mirrored : Mirrored s)
include sound mirrored

theorem Mirrored.put (plain : '/' ∉ id.toList) (found : s.current id = some (.record fields))
    (put : Put id fields s t) : Mirrored t := by
  rcases held_or_stored found with held | ⟨-, loaded⟩
  · have active : t.active = s.active := by rw [put.active, putIn_self held]
    exact mirrored.fewer (active ▸ Sublist.refl _) put.tree
  · obtain ⟨-, -, -, -, on_file⟩ := sound.stored loaded
    refine ⟨fun entry member => ?_, fun other session member short => ?_⟩
    · rw [put.active, mem_putIn_iff sound.once] at member
      rcases member with rfl | ⟨member, -⟩
      · exact ⟨id, rfl, plain⟩
      · exact mirrored.plain entry member
    · rw [put.tree]
      rw [put.active, mem_putIn_iff sound.once] at member
      rcases member with same | ⟨member, -⟩
      · cases same
        exact on_file
      · exact mirrored.filed other session member short

/-- No call makes memory and files differ, whether it succeeds or not. -/
theorem Mirrored.change (plain : call.IsPlain) (change : Change s call t) : Mirrored t := by
  cases change with
  | waits seconds => exact ⟨mirrored.plain, mirrored.filed⟩
  | lists user => exact mirrored
  | absent names unknown same => exact mirrored.fewer (same.active ▸ Sublist.refl _) same.tree
  | rests names found stale put => exact mirrored.put sound (plain _ names) found put
  | renews names stays found live kept =>
    refine mirrored.saved (plain _ names) kept.filed fun entry member => ?_
    rwa [kept.active, mem_putIn_iff sound.once] at member
  | ends found live archived =>
    refine mirrored.saved (plain _ rfl) archived.filed fun entry member => .inr ?_
    rw [archived.active, mem_filter] at member
    exact ⟨member.1, by simpa using member.2⟩
  | stuck undated => exact mirrored
  | refuses live => exact mirrored.fewer (filterM_sublist live) rfl
  | opens few opened =>
    have fewer := filterM_sublist opened.live
    refine mirrored.saved (plain_idOf _) opened.filed fun entry member => ?_
    rw [opened.active, mem_putIn_iff ((fewer.map Prod.fst).nodup sound.once)] at member
    exact member.imp_right fun both => ⟨fewer.subset both.1, both.2⟩

theorem Mirrored.after {calls : List Call} (plain : ∀ call ∈ calls, call.IsPlain)
    (allowed : ∀ call ∈ calls, regime.Allowed call) : Mirrored (s.after calls) :=
  sound.along allowed (fun member sound change mirrored => mirrored.change sound (plain _ member) change) mirrored

end
end

/-! ### Starting again -/

/-- A file can hold the session of an id and give it back: the name is short enough for a file, and the
session is not nested deeper than files are read. -/
def Fits (id : String) (session : Value) : Prop :=
  hasLongName (.text id) = false ∧ session.nesting ≤ Json.depthLimit

/-- The store that starts again over the same files. -/
def restarted (s : Sessions) : Sessions := ((forget).runFrom s).2

theorem mirrored_start (now : Moment) : Mirrored (start now) := by
  refine ⟨fun entry member => ?_, fun id session member => ?_⟩
  · cases member
  · cases member

section
variable {regime : Regime} {s : Sessions} {id : String}

/-- A session whose text is in the file of its id is what that file reads as. -/
theorem stored_of_text? {tree : FileTree} {fields : Fields} (housed : Housed tree) (passable : Passable id)
    (json : FieldsJson fields) (fits : Fits id (.record fields))
    (on_file : tree.text? (path (.text id)) = some (Json.spread 2 (.record fields))) :
    stored tree id = some (.record fields) :=
  stored_eq_some_iff.2 ⟨housed.problem?_iff.2 ⟨passable, fits.1⟩, _, on_file, Json.read_spread 2 json fits.2⟩

theorem stored_of_filed {old new : FileTree} {fields : Fields} (housed : Housed new) (passable : Passable id)
    (json : FieldsJson fields) (fits : Fits id (.record fields)) (filed : Filed id fields old new) :
    stored new id = some (.record fields) := by
  refine stored_of_text? housed passable json fits ?_
  rw [filed.text?, if_pos ⟨fits.1, rfl⟩]

theorem Mirrored.stored {session : Value} (sound : Sound regime s) (mirrored : Mirrored s)
    (held : (.text id, session) ∈ s.active) (fits : Fits id session) : Sessions.stored s.tree id = some session := by
  have on_file := mirrored.filed id session held fits.1
  obtain ⟨name, fields, same, made, good, -⟩ := sound.held _ held
  cases same
  exact stored_of_text? sound.housed made.inside.passable (regime.json good).2 fits on_file

theorem restarted_current (s : Sessions) (id : String) : s.restarted.current id = Sessions.stored s.tree id := by
  have tree : s.restarted.tree = s.tree := rfl
  have unheld : s.restarted.find? (.text id) = none := rfl
  rw [current, unheld, tree, Option.none_or]

theorem current_restarted (sound : Sound regime s) (mirrored : Mirrored s)
    (fits : ∀ session, s.find? (.text id) = some session → Fits id session) :
    s.restarted.current id = s.current id := by
  rw [restarted_current, current]
  cases held : s.find? (.text id) with
  | none => rw [Option.none_or]
  | some session =>
    rw [Option.some_or]
    exact mirrored.stored sound ((find?_eq_some_iff sound.once).1 held) (fits session held)

/-- In every run of calls with JSON arguments and ids without a slash, whether they succeed or not, each
session in memory that a file can hold is what its file reads as; and a store that starts again over the
same files at the same time gives the same session and the same history for every id. -/
theorem written_through_and_restarted (now : Moment) (calls : List Call) (plain : ∀ call ∈ calls, call.IsPlain)
    (json : ∀ call ∈ calls, call.IsJson) :
    (∀ entry ∈ ((start now).after calls).active, ∃ id : String, entry.1 = .text id ∧ '/' ∉ id.toList ∧
      (Fits id entry.2 → ∃ text, ((start now).after calls).tree.text? (path (.text id)) = some text ∧
        Json.read (unifiedLines text) = .ok entry.2)) ∧
    ∀ id : String,
      (∀ session, ((start now).after calls).find? (.text id) = some session → Fits id session) →
      ((get? (.text id)).runFrom ((start now).after calls).restarted).1 =
        ((get? (.text id)).runFrom ((start now).after calls)).1 ∧
      ((history (.text id)).runFrom ((start now).after calls).restarted).1 =
        ((history (.text id)).runFrom ((start now).after calls)).1 := by
  have begins : Sound jsonRegime (start now) := sound_start trivial
  have sound := begins.after json
  have mirrored := (mirrored_start now).after begins plain json
  generalize (start now).after calls = s at sound mirrored
  refine ⟨fun entry member => ?_, fun id fits => ?_⟩
  · obtain ⟨id, fields, rfl, -, good, -⟩ := sound.held entry member
    obtain ⟨name, same, plain_name⟩ := mirrored.plain _ member
    cases same
    exact ⟨id, rfl, plain_name, fun fits => ⟨_, mirrored.filed id _ member fits.1, Json.read_spread 2 good.2 fits.2⟩⟩
  · have again : Sound jsonRegime s.restarted :=
      sound.fewer (List.nil_sublist _) rfl ⟨rfl, rfl, rfl⟩
    have asked : ((get? (.text id)).runFrom s.restarted).1 = ((get? (.text id)).runFrom s).1 := by
      rw [get?_answer again.ordered, get?_answer sound.ordered, current_restarted sound mirrored fits]
      rfl
    refine ⟨asked, ?_⟩
    rw [history_answer, history_answer, asked]

theorem after_cons (s : Sessions) (call : Call) (calls : List Call) :
    s.after (call :: calls) = (call.act.runFrom s).2.after calls := rfl

/-- The first session of a store that has just started is in memory. -/
theorem first_opened (first : Moment) (user : Value) :
    ∃ s, (start first).after [.create user] = s ∧ Opened user [] (start first) s ∧
      s.active = [(.text (idOf 1), .record (opening first (idOf 1) user))] ∧
      s.current (idOf 1) = some (.record (opening first (idOf 1) user)) := by
  obtain ⟨s, created, opened⟩ := create_first (housed_start first) rfl (show (0 : Int) < 3 by decide) user
  have made : s.made = 1 := opened.made
  have active : s.active = [(.text (idOf 1), .record (opening first (idOf 1) user))] := by
    rw [opened.active, made]
    rfl
  refine ⟨s, ?_, opened, active, ?_⟩
  · simp [after, Call.act, created]
  · simp [current, find?, active]

/-- Whoever asks for a session that was just ended brings it back to memory. -/
theorem active_of_finish_get {fields ended : Fields} (sound : Sound jsonRegime.custom s)
    (held : s.active = [(.text id, .record fields)]) (live : isExpired s.now (.record fields) = .ok false)
    (ends : (Call.finish id).edited s.now fields = ended) (fits : Fits id (.record ended))
    (fresh : isExpired s.now (.record ended) = .ok false) :
    (s.after [.finish id, .get id]).active = [(.text id, .record (refreshed s.now ended))] := by
  have found : s.current id = some (.record fields) := by simp [current, find?, held]
  obtain ⟨_, same, made, json, -⟩ := sound.current found
  cases same
  have archived := finish_archived sound.ordered found live
  have ended_json : FieldsJson ended := ends ▸ fieldsJson_edited trivial json.2
  have allowed : jsonRegime.custom.Allowed (.finish id) := trivial
  have later := sound.change allowed (act_change sound.ordered (.finish id))
  rw [after_cons, after_cons]
  generalize ((Call.finish id).act.runFrom s).2 = t at archived later ⊢
  change ((Call.get id).act.runFrom t).2.active = _
  rw [ends] at archived
  have unheld : t.active = [] := by simp [archived.active, held]
  have again : t.current id = some (.record ended) := by
    rw [current, find?, unheld, find?_nil, Option.map_none, Option.none_or]
    exact stored_of_filed later.housed made.inside.passable ended_json fits archived.filed
  rw [← archived.now] at fresh ⊢
  rcases (act_change later.ordered (.get id)).of_live rfl again fresh with ⟨-, kept⟩ | ⟨ends, -⟩
  · rw [kept.active, unheld]
    rfl
  · cases ends

/-- A session is opened, changed and ended, and asked for again. -/
def reopening : List Call :=
  [.create (.text "ann"), .update (idOf 1) [("scene", .text "hall")], .finish (idOf 1), .get (idOf 1)]

/-- The session that was ended is in memory again, and its file reads as it. -/
theorem written_through_reload :
    ∃ session text, ((start ⟨0⟩).after reopening).active = [(.text (idOf 1), session)] ∧
      session.field? "scene" = some (.text "hall") ∧ session.field? "status" = some (.text "completed") ∧
      ((start ⟨0⟩).after reopening).tree.text? (path (.text (idOf 1))) = some text ∧
      Json.read (unifiedLines text) = .ok session := by
  have ann : jsonRegime.custom.Allowed (.create (.text "ann")) := paired_of_all (by decide)
  have hall : jsonRegime.custom.Allowed (.update (idOf 1) [("scene", .text "hall")]) :=
    ⟨⟨"scene", rfl, paired_of_all (by decide)⟩, paired_of_all (by decide), fun _ member => absurd member not_mem_nil,
      trivial⟩
  have json : ∀ call ∈ reopening, call.IsJson := by
    simp only [reopening, forall_mem_cons]
    exact ⟨ann, hall, trivial, trivial, fun _ member => absurd member not_mem_nil⟩
  have plain : ∀ call ∈ reopening, call.IsPlain := by simp [reopening, Call.IsPlain, Call.id?, plain_idOf]
  have all := (written_through_and_restarted ⟨0⟩ reopening plain json).1
  have begins : Sound jsonRegime.custom (start ⟨0⟩) := sound_start trivial
  obtain ⟨s, created, opened, active, found⟩ := first_opened ⟨0⟩ (.text "ann")
  have opens : ((Call.create (.text "ann")).act.runFrom (start ⟨0⟩)).2 = s := created
  have sound : Sound jsonRegime.custom s := opens ▸ begins.change ann (act_change begins.ordered _)
  have now : s.now = ⟨0⟩ := opened.now
  have live : isExpired s.now (.record (opening ⟨0⟩ (idOf 1) (.text "ann"))) = .ok false := by
    rw [now]
    rfl
  rw [reopening, after_cons, opens, after_cons] at all ⊢
  have changes := act_change sound.ordered (.update (idOf 1) [("scene", .text "hall")])
  have sound_changed := sound.change hall changes
  generalize ((Call.update (idOf 1) [("scene", .text "hall")]).act.runFrom s).2 = t at all changes sound_changed ⊢
  rcases changes.of_live rfl found live with ⟨-, kept⟩ | ⟨ends, -⟩
  · have later : t.now = ⟨0⟩ := kept.now.trans now
    have held := kept.active
    rw [active, now] at held
    have reloaded := active_of_finish_get sound_changed held (by rw [later]; rfl) rfl
      (by rw [later]; exact ⟨by decide, by decide⟩) (by rw [later]; rfl)
    rw [later] at reloaded
    obtain ⟨id, same, -, filed⟩ := all _ (reloaded ▸ mem_cons_self)
    cases same
    obtain ⟨text, on_file, read⟩ := filed ⟨by decide, by decide⟩
    exact ⟨_, text, reloaded, rfl, rfl, on_file, read⟩
  · cases ends

end

end Playhouse.Sessions
