import Playhouse.Proofs.Act
import Playhouse.Proofs.Data.Fields
import Playhouse.Site.Serve

/-!
What a visit can do. A look into a table gives rows of that table; a statement that succeeds adds one row at the end,
with what each column keeps of its value, or changes the rows of one number. Every request is answered by steps of a few
kinds, each with all that was checked before it: which rows a page was given, whose rows were written, and what a text
was generated from. The invariants of the site are case analyses over these steps; none of them looks at a view again.
-/
namespace Playhouse.Site
open List Except Fields Store

variable {column : Column} {other : Model}

/-- A row belongs to an account. -/
def BelongsTo (account row : Fields) : Prop := (cell row "user_id").equal (.int (rowId account)) = true

/-- A table has a row. -/
def Store.Holds (store : Store) (model : Model) (row : Fields) : Prop :=
  ∃ table, store.table? model = some table ∧ row ∈ table.rows

namespace Store

/-! ### Looking -/

variable {model : Model} {rows : List Fields} {store : Store} {id : Int} {row values : Fields}

theorem history_ok (asked : store.history model = .ok rows) :
    ∃ table, store.table? model = some table ∧ table.rows = rows := by
  unfold history at asked
  split at asked
  · exact ⟨_, ‹_›, by simpa using asked⟩
  · cases asked

theorem holds_of_find (asked : store.find model id = .ok (some row)) : store.Holds model row := by
  unfold find at asked
  split at asked
  · cases asked
  · rename_i rows history
    obtain ⟨table, known, rfl⟩ := history_ok history
    split at asked
    · exact ⟨table, known, mem_of_find?_eq_some (ok.inj asked)⟩
    · cases asked

theorem join_find : (store.find model id).toOption.join = some row ↔ store.find model id = .ok (some row) := by
  cases store.find model id <;> simp

/-- A session is logged in to the account of the number it names. -/
theorem account?_eq_some_iff {session : Fields} : account? store session = some row ↔
    ∃ value, session.get? (.text "_user_id") = some value ∧
      ∃ id, accountNumber? value = some id ∧ store.find .user id = .ok (some row) := by
  simp [account?, Option.bind_eq_some_iff, join_find]

theorem holds_of_findWritten {id : String} (asked : store.findWritten model id = .ok (some row)) :
    store.Holds model row := by
  unfold findWritten at asked
  cases history : store.history model with
  | error fault => rw [history] at asked; cases asked
  | ok rows =>
    obtain ⟨table, known, rfl⟩ := history_ok history
    rw [history] at asked
    obtain ⟨n, -, found⟩ := Option.bind_eq_some_iff.mp (Except.ok.inj asked)
    exact ⟨table, known, mem_of_find?_eq_some found⟩

theorem rowsWith_of_history (asked : store.history model = .ok rows) (column : String) (value : Value) :
    store.rowsWith model column value =
      .ok ((rows.mergeSort fun a b => rowId a ≤ rowId b).filter fun row => (cell row column).equal value) := by
  rw [rowsWith, Store.rows, asked]
  rfl

/-- The rows of an account in a table are rows of its own. -/
theorem belongsTo_of_mem_rowsWith {account : Fields}
    (asked : store.rowsWith model "user_id" (.int (rowId account)) = .ok rows) (member : row ∈ rows) :
    BelongsTo account row := by
  unfold rowsWith at asked
  cases sorted : store.rows model with
  | error fault => rw [sorted] at asked; cases asked
  | ok all =>
    rw [sorted] at asked
    obtain rfl := Except.ok.inj asked
    exact (mem_filter.mp member).2

/-! ### Writing -/

theorem lookup_map_put (tables : List (Model × Table)) (model other : Model) (table : Table) :
    (tables.map fun (name, old) => if name = model then (name, table) else (name, old)).lookup other =
      if other = model then (tables.lookup model).map fun _ => table else tables.lookup other := by
  induction tables with
  | nil => simp
  | cons entry rest ih =>
    obtain ⟨name, old⟩ := entry
    by_cases here : name = model <;> by_cases asked : other = name <;> grind

/-- Putting a table that is there changes what the store has under its name, and nothing else. -/
theorem table?_put (store : Store) (model other : Model) (table : Table) :
    (store.put model table).table? other =
      if other = model then (store.table? model).map fun _ => table else store.table? other :=
  lookup_map_put store.tables model other table

theorem holds_put {table : Table} (known : store.table? model = some table) :
    (store.put model { table with rows }).Holds other row ↔
      if other = model then row ∈ rows else store.Holds other row := by
  unfold Holds
  rw [table?_put]
  split
  · simp [known]
  · rfl

variable {after : Store}

/-- A statement that succeeds puts one more row at the end of its table: a row with all that is needed, and with
nothing that has to be its own and is not. -/
theorem insert?_ok (inserted : insert? model values store = .ok (id, after)) :
    ∃ table row, store.table? model = some table ∧ rowFor store.clock id model values = .ok row ∧
      isFilled model values ∧ isDistinct model row table.rows ∧
      after = store.put model { table with rows := table.rows ++ [row] } := by
  unfold insert? at inserted
  simp only [bind, Except.bind, throw, throwThe, MonadExceptOf.throw] at inserted
  split at inserted
  · cases inserted
  cases known : store.table? model with
  | none => rw [known] at inserted; cases inserted
  | some table =>
    simp only [known] at inserted
    cases numbered : idFor values table.rows with
    | error problem => rw [numbered] at inserted; cases inserted
    | ok n =>
      simp only [numbered] at inserted
      cases made : rowFor store.clock n model values with
      | error problem => rw [made] at inserted; cases inserted
      | ok row =>
        simp only [made] at inserted
        split at inserted
        · cases inserted
        · rename_i passed
          split at inserted
          · cases inserted
          · cases inserted
            simp only [Bool.or_eq_true, Bool.not_eq_true', not_or, Bool.not_eq_false] at passed
            exact ⟨table, row, rfl, made, passed.1.2, passed.2, rfl⟩

/-- A new row leaves every other table as it was. -/
theorem table?_insert_of_ne (inserted : insert? model values store = .ok (id, after))
    (differs : other ≠ model) : after.table? other = store.table? other := by
  obtain ⟨table, row, -, -, -, -, rfl⟩ := insert?_ok inserted
  rw [table?_put, if_neg differs]

/-- A change that succeeds changes the rows of one number, or nothing. -/
theorem update?_ok {changes : Fields} (updated : update? model id changes store = .ok after) :
    after = store ∨ ∃ table, store.table? model = some table ∧ after = store.put model { table with
      rows := table.rows.map fun row => if rowId row == id then row.update changes else row } := by
  unfold update? at updated
  cases known : store.table? model with
  | none => rw [known] at updated; cases updated
  | some table =>
    simp only [known] at updated
    split at updated
    · split at updated
      · exact .inl (ok.inj updated).symm
      · split at updated
        · cases updated
        · split at updated
          · cases updated
          · exact .inr ⟨table, rfl, (ok.inj updated).symm⟩
    · exact .inl (ok.inj updated).symm

theorem insert_run (model : Model) (values : Fields) (store : Store) :
    (insert model values).runFrom store =
      match insert? model values store with
      | .error problem => (.error (.database problem), store)
      | .ok (id, after) => (.ok id, after) := by
  unfold insert
  simp only [Act.runFrom_bind, Act.runFrom_get]
  cases insert? model values store <;> rfl

theorem update_run (model : Model) (id : Int) (changes : Fields) (store : Store) :
    (update model id changes).runFrom store =
      match update? model id changes store with
      | .error problem => (.error (.database problem), store)
      | .ok after => (.ok (), after) := by
  unfold update
  simp only [Act.runFrom_bind, Act.runFrom_get]
  cases update? model id changes store <;> rfl

/-! ### The cells of a new row -/

theorem get?_of_mapM {columns : List Column} {keep : Column → Except DatabaseProblem Value} {cells : Fields}
    (kept : (columns.mapM fun column => do return (Key.text column.name, ← keep column)) = .ok cells)
    (apart : (columns.map (·.name)).Nodup) (member : column ∈ columns) :
    ∃ value, keep column = .ok value ∧ get? cells (.text column.name) = some value := by
  induction columns generalizing cells with
  | nil => cases member
  | cons first rest ih =>
    rw [mapM_cons] at kept
    cases stored : keep first with
    | error problem => rw [stored] at kept; cases kept
    | ok value =>
      cases others : rest.mapM fun column => do return (Key.text column.name, ← keep column) with
      | error problem => rw [stored, others] at kept; cases kept
      | ok cellsOfRest =>
        rw [stored, others] at kept
        obtain rfl := Except.ok.inj kept
        obtain ⟨fresh, apart⟩ := nodup_cons.mp apart
        rcases mem_cons.mp member with rfl | member
        · exact ⟨value, stored, by simp⟩
        · have differs : first.name ≠ column.name := fun same =>
            fresh (mem_map.mpr ⟨column, member, same.symm⟩)
          simpa [differs] using ih others apart member

theorem nodup_columns (model : Model) : ("id" :: model.columns.map (·.name)).Nodup := by
  cases model <;> decide

variable {now : Moment}

/-- A new row has in each column what the column keeps of the value given for it, or of what stands in for it. -/
theorem get?_rowFor (made : rowFor now id model values = .ok row) (member : column ∈ model.columns) :
    ∃ value, column.kind.store ((given values column).getD (standardAt now column)) = .ok value ∧
      row.get? (.text column.name) = some value := by
  obtain ⟨fresh, apart⟩ := nodup_cons.mp (nodup_columns model)
  have differs : "id" ≠ column.name := fun same => fresh (mem_map.mpr ⟨column, member, same.symm⟩)
  unfold rowFor at made
  cases kept : model.columns.mapM fun column =>
      (do return (Key.text column.name, ← column.kind.store ((given values column).getD (standardAt now column))) :
        Except DatabaseProblem (Key × Value)) with
  | error problem => rw [kept] at made; cases made
  | ok cells =>
    rw [kept] at made
    obtain rfl := Except.ok.inj made
    obtain ⟨value, stored, found⟩ := get?_of_mapM kept apart member
    exact ⟨value, stored, by simpa [differs] using found⟩

end Store

/-! ### Steps -/

/-- The route that a request reaches. -/
def Request.route? (request : Request) : Option Route := Route.ofPath? (Serve.readTarget request.target).1

/-- Whether each row of a table belongs to one account. -/
def Model.isPersonal : Model → Bool
  | character | template | achievement | completion | submission => true
  | user | scenario | task => false

/-- The rows that an exhibit holds, with their tables. -/
def Exhibit.held : Exhibit → List (Model × Fields)
  | document _ | fixture => []
  | row model fields => [(model, fields)]
  | rows model list => list.map fun fields => (model, fields)
  | tasks list => list.flatMap fun (task, submissions) =>
      (.task, task) :: submissions.map fun fields => (.submission, fields)

namespace Visit

/-- A row belongs to the visitor. -/
def Owns (v : Visit) (row : Fields) : Prop := ∃ account, v.viewer = some account ∧ BelongsTo account row

/-- Every personal row in a context belongs to the visitor. -/
def Shares (v : Visit) (context : Context) : Prop :=
  ∀ named ∈ context, ∀ held ∈ named.2.held, held.1.isPersonal → v.Owns held.2

/-- Who texts are written for. -/
def reader (v : Visit) : Visitor :=
  match v.viewer with
  | some row => .member (row.get? "spiciness_level")
  | none => .anonymous

end Visit

/-- One step of a visit for a request, in a site whose tables were `before` at the start of the visit. -/
inductive Step (before : Store) (request : Request) (v : Visit) : Visit → Prop where
  -- the session and the pages
  | notified (notices : List Value) :
      Step before request v { v with host := { v.host with session := v.host.session.set "_flashes" (.list notices) } }
  | tookNotices (notices : Value) :
      Step before request v
        { v with taken := notices, host := { v.host with session := v.host.session.erase "_flashes" } }
  | gotToken :
      Step before request v { v with host := { v.host with session := v.host.session.set "csrf_token" (.text "") } }
  | showed (page : Page) (context : Context) (own : v.Shares context) :
      Step before request v { v with shown := v.shown ++ [⟨page, v.viewer.map rowId, context⟩] }
  | signedIn : Step before request v { v with host := { v.host with session := [("_fresh", .bool true)] } }
  | left : Step before request v { v with host := { v.host with session := [] } }
  -- the tables
  | enrolled {username email password : String} {id : Int} {store : Store}
      (reached : request.route? = some .register) (posted : request.method = .post)
      (least : 3 ≤ username.length) (most : username.length ≤ 80)
      (inserted : insert? .user [("username", .text username), ("email", .text email),
        ("password_hash", sealed password)] v.host.store = .ok (id, store)) :
      Step before request v { v with host := { v.host with store } }
  | settled {account : Fields} {gender : String} {level : Int} {store : Store}
      (viewer : v.viewer = some account) (least : 1 ≤ level) (most : level ≤ 3)
      (updated : update? .user (rowId account)
        [("gender", .text gender), ("spiciness_level", .int level)] v.host.store = .ok store)
      (reached : request.route? = some .updateProfile) (posted : request.method = .post)
      (chosen : Views.levelOf? (request.form.lookup "spiciness_level") = some level) :
      Step before request v { v with host := { v.host with store } }
  | added {account : Fields} {model : Model} {values : Fields} {id : Int} {store : Store}
      (viewer : v.viewer = some account) (kind : model = .character ∨ model = .template ∨ model = .submission)
      (own : values.get? (.text "user_id") = some (.int (rowId account)))
      (inserted : insert? model values v.host.store = .ok (id, store)) :
      Step before request v { v with host := { v.host with store } }
  -- texts, from rows that were there at the start: no view writes before it has read what it generates from
  | cast (reached : request.route? = some .createCharacter) (known : v.viewer.isSome) :
      Step before request v
        { v with host := { v.host with casting := ((Casting.generate v.reader).runFrom v.host.casting).2 } }
  | castFrom (template : Fields) (held : before.Holds .template template) (own : v.Owns template)
      (reached : request.route? = some .createCharacter) :
      Step before request v { v with host := { v.host with
          casting := ((Casting.fromTemplate v.reader template).runFrom v.host.casting).2 } }
  | told (character scenario : Fields) {scene : Scene} {muses : Muses} (held : before.Holds .character character)
      (known : before.Holds .scenario scenario) (own : v.Owns character)
      (generated : Scene.generate v.reader character scenario v.host.casting.muses = (scene, muses))
      (reached : ∃ c s, request.route? = some (.generateStory c s) ∨ request.route? = some (.story c s)) :
      Step before request v { v with host := { v.host with
          casting := { v.host.casting with muses }
          session := v.host.session.set "current_story" scene.document } }
  -- photos
  | filed (tree : FileTree) (reached : ∃ t, request.route? = some (.submitTask t)) :
      Step before request v { v with host := { v.host with tree } }

variable {before : Store} {request : Request}

theorem Step.viewer_eq {v w : Visit} (step : Step before request v w) : w.viewer = v.viewer := by
  cases step <;> rfl

theorem viewer_eq_of_steps {v w : Visit} (steps : Relation.ReflTransGen (Step before request) v w) :
    w.viewer = v.viewer := by
  induction steps with
  | refl => rfl
  | tail _ step ih => exact step.viewer_eq.trans ih

/-! ### Contexts and calls -/

namespace Context

variable {named rest all : Context}

theorem own_append (front back : Context) : own (front ++ back) = front.own ++ back.own := filter_append ..

/-- Of a context over the base its own names are what the base does not have. -/
theorem own_overBase (context : Context) : context.overBase.own = context.own := by
  have base : own (baseNames.map fun name => (name, (context.lookup name).getD .fixture)) = [] := by
    simp +contextual [own]
  rw [overBase, own_append, base, nil_append]
  exact filter_eq_self.2 fun named member => (mem_filter.1 member).2

theorem called_ok (called : Context.called named rest = .ok all) : all = named ++ rest := by
  unfold Context.called at called
  split at called <;> cases called
  rfl

/-- Whatever context is laid over the base, the base has a number for an error, and no other can be given. -/
theorem called_failure (number message : Exhibit) (context : Context) :
    called [("error_id", number), ("error_message", message)] context.overBase =
      .error (.missingKey (.text "error_id")) := rfl

end Context

/-! ### The steps of the parts of a view -/

namespace Visit
open Act

variable {v : Visit} {α β : Type}

/-- A part of a view that ends where the steps of the site lead. -/
abbrev Walks (before : Store) (request : Request) (act : Act Visit α) (v : Visit) : Prop :=
  Follows (Step before request) act v

theorem ask_run (question : Store → Except Fault α) (v : Visit) :
    (ask question).runFrom v = (question v.host.store, v) := by
  unfold ask
  simp only [runFrom_bind, runFrom_get, runFrom_liftM]

theorem follows_ask {question : Store → Except Fault α} {next : α → Act Visit β}
    (rest : ∀ a, question v.host.store = .ok a → Walks before request (next a) v) :
    Walks before request (ask question >>= next) v := by
  refine .look (by rw [ask_run]) fun a known => rest a ?_
  rwa [ask_run] at known

variable {next : Fields → Act Visit β}

theorem follows_found {row : Option Fields}
    (rest : ∀ found, row = some found → Walks before request (next found) v) :
    Walks before request (found row >>= next) v := by
  cases row with
  | none => exact follows_throw _
  | some row => exact rest row rfl

theorem member_run (v : Visit) :
    member.runFrom v = (match v.viewer with | some row => .ok row | none => .error .denied, v) := by
  unfold member
  simp only [runFrom_bind, runFrom_get]
  cases v.viewer <;> rfl

theorem follows_member
    (rest : ∀ account, v.viewer = some account → Walks before request (next account) v) :
    Walks before request (member >>= next) v := by
  refine .look (by rw [member_run]) fun account known => rest account ?_
  rw [member_run] at known
  cases viewer : v.viewer <;> rw [viewer] at known <;> cases known
  rfl

theorem checkOwner_run (row : Fields) (v : Visit) : (checkOwner row).runFrom v = (match v.viewer with
        | some account => if (cell row "user_id").equal (.int (rowId account)) then .ok () else .error .denied
        | none => .error .denied, v) := by
  unfold checkOwner
  rw [runFrom_bind, member_run]
  cases v.viewer with
  | none => rfl
  | some account => cases same : (cell row "user_id").equal (.int (rowId account)) <;> simp [same]

theorem follows_checkOwner {row : Fields} {next : Unit → Act Visit β}
    (rest : v.Owns row → Walks before request (next ()) v) :
    Walks before request (checkOwner row >>= next) v := by
  refine .look (by rw [checkOwner_run]) fun _ known => rest ?_
  rw [checkOwner_run] at known
  cases viewer : v.viewer with
  | none => rw [viewer] at known; cases known
  | some account =>
    cases same : (cell row "user_id").equal (.int (rowId account)) with
    | true => exact ⟨account, viewer, same⟩
    | false => simp [viewer, same] at known

theorem visitor_run (v : Visit) : visitor.runFrom v = (.ok v.reader, v) := by
  unfold visitor reader
  simp only [runFrom_bind, runFrom_get]
  cases v.viewer <;> rfl

theorem follows_visitor {next : Visitor → Act Visit β} (rest : Walks before request (next v.reader) v) :
    Walks before request (visitor >>= next) v := by
  refine .look (by rw [visitor_run]) fun who known => ?_
  rw [visitor_run] at known
  exact Except.ok.inj known ▸ rest

theorem follows_onStore_insert {model : Model} {values : Fields}
    (step : ∀ id store, insert? model values v.host.store = .ok (id, store) →
      Step before request v { v with host := { v.host with store } }) :
    Walks before request (onStore (insert model values)) v := by
  cases inserted : insert? model values v.host.store with
  | error problem => exact follows_of_unchanged (by rw [onStore, runFrom_on, insert_run, inserted])
  | ok result =>
    obtain ⟨id, store⟩ := result
    exact follows_of_step (by rw [onStore, runFrom_on, insert_run, inserted]; exact step id store inserted)

theorem notify_run {notices : List Value} (category message : String)
    (listed : (v.host.session.get? (.text "_flashes")).getD (.list []) = .list notices) :
    (notify category message).runFrom v = (.ok (), { v with host := { v.host with
        session := v.host.session.set "_flashes" (.list (notices ++ [.list [.text category, .text message]])) } }) := by
  unfold notify
  rw [runFrom_get_bind]
  rw [listed]
  rfl

theorem follows_notify (category message : String) : Walks before request (notify category message) v := by
  unfold notify
  refine .getting ?_
  split
  · exact follows_of_step (.notified _)
  · exact follows_throw _

theorem follows_notify_pure (category message : String) (a : α) :
    Walks before request (do notify category message; return a) v :=
  .bind (follows_notify _ _) fun _ _ _ => follows_pure _

theorem follows_notifyDatabase : Walks before request notifyDatabase v := .getting (follows_notify _ _)

theorem follows_takeNotices : Walks before request takeNotices v := by
  unfold takeNotices
  refine .getting ?_
  split
  · exact .getting (follows_of_step (.tookNotices _))
  · exact follows_pure _

theorem shares_nil : v.Shares [] := List.forall_mem_nil _

variable {context : Context} {name : String} {page : Page}

theorem shares_cons {exhibit : Exhibit} (first : ∀ held ∈ exhibit.held, held.1.isPersonal → v.Owns held.2)
    (rest : v.Shares context) : v.Shares ((name, exhibit) :: context) :=
  List.forall_mem_cons.2 ⟨first, rest⟩

theorem shares_document {value : Value} : v.Shares [(name, .document value)] :=
  shares_cons (List.forall_mem_nil _) shares_nil

section
variable (own : v.Shares context)
include own

theorem follows_present : Walks before request (present page context) v := by
  unfold present
  refine .bind (follows_of_step (.showed page context own)) fun _ w _ => ?_
  refine .bind follows_takeNotices fun notices w _ => ?_
  refine .look (by rw [runFrom_liftM]) fun _ _ => ?_
  refine .getting ?_
  split
  · exact follows_throw _
  · split
    · by_cases tokened : w.host.session.contains "csrf_token" = true
      · refine follows_of_unchanged ?_
        simp [onSession, onHost, tokened]
      · refine follows_of_step ?_
        simpa [onSession, onHost, tokened] using Step.gotToken
    · exact follows_pure _

theorem follows_displayNamed : Walks before request (displayNamed name context) v := by
  have shares : v.Shares context.own := fun named member => own named (List.mem_filter.1 member).1
  unfold displayNamed
  extract_lets all work
  refine .bind (.outcome ?_) fun result w _ => ?_
  · unfold work
    split
    · rw [Context.own_overBase]
      exact follows_present shares
    · refine .look (by rw [runFrom_liftM]) fun all called => ?_
      rw [runFrom_liftM] at called
      rw [Context.called_ok called, Context.own_append, Context.own_overBase]
      exact follows_present (List.forall_mem_append.2 ⟨shares_document, shares⟩)
  · split
    · exact follows_pure _
    · refine .getting (.look (by rw [runFrom_liftM]) fun all called => ?_)
      rw [runFrom_liftM, Context.called_failure] at called
      cases called

theorem follows_display :
    Walks before request (display page context) v := follows_displayNamed own

theorem follows_display_pure (a : α) :
    Walks before request (do display page context; return a) v :=
  .bind (follows_display own) fun _ _ _ => follows_pure _

end

end Visit
end Playhouse.Site
