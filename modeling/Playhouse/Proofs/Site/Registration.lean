import Playhouse.Proofs.Site.Levels
import Playhouse.Proofs.Site.Pages
import Playhouse.Proofs.Text.Split

/-!
Registration. The form of a new account that is let through is accepted exactly if its name has 3 to 80 characters, its
address and its password are not empty, no account has the name or the address, and the address is not too long for a
database that insists on the length; then the table of accounts has one row more, and otherwise it is as it was. Every
other request leaves names and addresses alone, so that from a site without accounts no two ever share one.
-/
open List Playhouse.Fields Playhouse.Text

namespace Playhouse

/-- A text is another one without the blanks around it. -/
def TrimsTo (text core : String) : Prop :=
  IsBare core.toList ∧ ∃ front back, text.toList = front ++ core.toList ++ back ∧
    (∀ c ∈ front, isBlank c = true) ∧ ∀ c ∈ back, isBlank c = true

theorem trimsTo_trimmed (text : String) : TrimsTo text (trimmed text) := by
  rw [TrimsTo, trimmed, String.toList_ofList]
  exact ⟨isBare_trim _, trim_between _⟩

end Playhouse

namespace Playhouse.Site
open Act Relation

variable {before : Store} {request : Request} {v w : Visit} {host : Host} {rows : List Fields}
  {name email password : String} {strict : Bool}

/-! ### The table of accounts -/

/-- Accounts whose names are bare and have 3 to 80 characters, no two with one name and no two with one address. -/
structure Roll (rows : List Fields) : Prop where
  named : ∀ row ∈ rows, ∃ name, cell row "username" = .text name ∧ IsBare name.toList ∧
    3 ≤ name.length ∧ name.length ≤ 80
  addressed : ∀ row ∈ rows, ∃ email, cell row "email" = .text email
  names_apart : rows.Pairwise fun a b => cell a "username" ≠ cell b "username"
  emails_apart : rows.Pairwise fun a b => cell a "email" ≠ cell b "email"

/-- What a form for a new account has to be, in a database that insists on lengths or in one that does not. -/
structure Acceptable (strict : Bool) (rows : List Fields) (name email password : String) : Prop where
  least : 3 ≤ name.length
  most : name.length ≤ 80
  addressed : email ≠ ""
  secured : password ≠ ""
  new_name : ∀ row ∈ rows, cell row "username" ≠ .text name
  new_email : ∀ row ∈ rows, cell row "email" ≠ .text email
  brief : strict = true → email.length ≤ 120

/-- The row of a new account: at level 1, and with a number above all others. -/
structure IsNewAccount (rows : List Fields) (name email password : String) (row : Fields) : Prop where
  username : cell row "username" = .text name
  email : cell row "email" = .text email
  password : cell row "password_hash" = sealed password
  level : cell row "spiciness_level" = .int 1
  number : ∀ old ∈ rows, rowId old < rowId row

/-- What a form makes of the table of accounts. -/
def Enters (strict : Bool) (rows : List Fields) (name email password : String) (table : Option Table) : Prop :=
  (Acceptable strict rows name email password →
    ∃ row, IsNewAccount rows name email password row ∧ table = some { rows := rows ++ [row], strict }) ∧
  (¬ Acceptable strict rows name email password → table = some { rows, strict })

theorem Roll.concat {row : Fields} (roll : Roll rows) (bare : IsBare name.toList)
    (acceptable : Acceptable strict rows name email password) (new : IsNewAccount rows name email password row) :
    Roll (rows ++ [row]) := by
  constructor
  · exact forall_mem_append.2 ⟨roll.named,
      forall_mem_singleton.2 ⟨name, new.username, bare, acceptable.least, acceptable.most⟩⟩
  · exact forall_mem_append.2 ⟨roll.addressed, forall_mem_singleton.2 ⟨email, new.email⟩⟩
  · refine pairwise_append.mpr ⟨roll.names_apart, pairwise_singleton _ _, ?_⟩
    intro old member fresh last
    rw [mem_singleton.mp last, new.username]
    exact acceptable.new_name old member
  · refine pairwise_append.mpr ⟨roll.emails_apart, pairwise_singleton _ _, ?_⟩
    intro old member fresh last
    rw [mem_singleton.mp last, new.email]
    exact acceptable.new_email old member

/-- Whatever leaves the names and the addresses of the rows alone keeps the roll. -/
theorem Roll.map {change : Fields → Fields} (roll : Roll rows)
    (names : ∀ row, cell (change row) "username" = cell row "username")
    (emails : ∀ row, cell (change row) "email" = cell row "email") : Roll (rows.map change) := by
  constructor
  · intro row member
    obtain ⟨old, listed, rfl⟩ := mem_map.mp member
    rw [names]
    exact roll.named old listed
  · intro row member
    obtain ⟨old, listed, rfl⟩ := mem_map.mp member
    rw [emails]
    exact roll.addressed old listed
  · rw [pairwise_map]
    simpa only [names] using roll.names_apart
  · rw [pairwise_map]
    simpa only [emails] using roll.emails_apart

/-! ### Statements -/

namespace Store

theorem le_foldl_max (rows : List Fields) (start : Int) :
    start ≤ rows.foldl (fun n row => max n (rowId row)) start ∧
      ∀ row ∈ rows, rowId row ≤ rows.foldl (fun n row => max n (rowId row)) start := by
  induction rows generalizing start with
  | nil => simp
  | cons first rest ih =>
    obtain ⟨above, all⟩ := ih (max start (rowId first))
    rw [foldl_cons]
    exact ⟨by omega, forall_mem_cons.2 ⟨by omega, all⟩⟩

theorem rowId_lt_nextId {row : Fields} (member : row ∈ rows) : rowId row < nextId rows := by
  have bound := (le_foldl_max rows 0).2 row member
  rw [nextId]
  omega

/-- A look for a text in a column finds nothing exactly if no row has it there. -/
theorem rowsWith_text {store : Store} {model : Model} (known : store.table? model = some { rows, strict })
    (column : String) (text : String) : ∃ found, store.rowsWith model column (.text text) = .ok found ∧
      (found.isEmpty = true ↔ ∀ row ∈ rows, cell row column ≠ .text text) := by
  have history : store.history model = .ok rows := by rw [Store.history, known]
  refine ⟨_, rowsWith_of_history history column _, ?_⟩
  simp only [List.isEmpty_iff, filter_eq_nil_iff, mem_mergeSort, Value.equal_text, ne_eq]

/-- The row of a new account. -/
def accountRow (now : Moment) (id : Int) (name email password : String) : Fields :=
  [("id", .int id), ("username", .text name), ("email", .text email), ("password_hash", sealed password),
    ("gender", .null), ("spiciness_level", .int 1), ("created_at", .int now.micros)]

variable (now : Moment)

theorem isNewAccount_accountRow (rows : List Fields) (name email password : String) :
    IsNewAccount rows name email password (accountRow now (nextId rows) name email password) := by
  refine ⟨?_, ?_, ?_, ?_, fun old member => ?_⟩
  · simp [accountRow, cell]
  · simp [accountRow, cell]
  · simp [accountRow, cell]
  · simp [accountRow, cell]
  · have numbered : rowId (accountRow now (nextId rows) name email password) = nextId rows := by
      simp [accountRow, rowId, cell]
    rw [numbered]
    exact rowId_lt_nextId member

theorem columns_user : Model.user.columns =
    [{ name := "username", required := true, unique := true, most := some 80 },
      { name := "email", required := true, unique := true, most := some 120 },
      { name := "password_hash", kind := .secret, required := true, most := some 256 },
      { name := "gender", most := some 10 }, { name := "spiciness_level", kind := .integer, standard := .int 1 },
      { name := "created_at", kind := .date, stamped := true }] := rfl

theorem isShort_accountRow (id : Int) (email password : String) (most : name.length ≤ 80) :
    isShort .user (accountRow now id name email password) = true ↔ email.length ≤ 120 := by
  simp [isShort, columns_user, accountRow, cell, sealed, most]

theorem isDistinct_accountRow (new_name : ∀ row ∈ rows, cell row "username" ≠ .text name)
    (new_email : ∀ row ∈ rows, cell row "email" ≠ .text email) :
    isDistinct .user (accountRow now (nextId rows) name email password) rows = true := by
  have new := isNewAccount_accountRow now rows name email password
  refine all_eq_true.mpr fun old member => ?_
  have number := new.number old member
  have apart : rowId old ≠ rowId (accountRow now (nextId rows) name email password) := by omega
  simp [columns_user, new.username, new.email, apart, new_name old member, new_email old member]

/-- The values of a new account. -/
def accountValues (name email password : String) : Fields :=
  [("username", .text name), ("email", .text email), ("password_hash", sealed password)]

/-- Of a name of the right length, a statement for an account needs that it and the address are new and that the
address is not too long. -/
theorem insert?_account {store : Store} (known : store.table? .user = some { rows, strict }) (most : name.length ≤ 80)
    (new_name : ∀ row ∈ rows, cell row "username" ≠ .text name)
    (new_email : ∀ row ∈ rows, cell row "email" ≠ .text email) :
    insert? .user (accountValues name email password) store =
      if strict = true → email.length ≤ 120 then
        .ok (nextId rows, store.put .user
          { rows := rows ++ [accountRow store.clock (nextId rows) name email password], strict })
      else .error .badValue := by
  have admitted : (Model.user.columns.all fun column =>
      column.kind.admits ((given (accountValues name email password) column).getD .null)) = true := rfl
  have numbered : idFor (accountValues name email password) rows = .ok (nextId rows) := rfl
  have made : rowFor store.clock (nextId rows) .user (accountValues name email password) =
      .ok (accountRow store.clock (nextId rows) name email password) := rfl
  have filled : isFilled .user (accountValues name email password) = true := rfl
  have distinct : isDistinct .user (accountRow store.clock (nextId rows) name email password) rows = true :=
    isDistinct_accountRow store.clock new_name new_email
  have short := isShort_accountRow store.clock (nextId rows) email password most
  unfold insert?
  simp only [admitted, known, numbered, made, filled, distinct, bind, Except.bind]
  by_cases brief : strict = true → email.length ≤ 120
  · have kept : (strict && !isShort .user (accountRow store.clock (nextId rows) name email password)) = false := by
      cases strict <;> simp_all
    rw [if_pos brief, kept]
    rfl
  · obtain ⟨rfl, long⟩ := Classical.not_imp.1 brief
    have refused : isShort .user (accountRow store.clock (nextId rows) name email password) = false := by
      rwa [← Bool.not_eq_true, short]
    rw [if_neg brief, refused]
    rfl

end Store

/-! ### The steps of other requests -/

/-- A step of a request that is no registration changes accounts in place, and not their names and addresses. -/
theorem Step.roll (step : Step before request v w) (other : ¬ (request.route? = some .register ∧ request.method = .post))
    (rows : List Fields) (known : v.host.store.table? .user = some { rows, strict }) (roll : Roll rows) :
    ∃ rows', w.host.store.table? .user = some { rows := rows', strict } ∧ Roll rows' := by
  cases step with
  | enrolled reached posted => exact (other ⟨reached, posted⟩).elim
  | settled viewer least most updated reached posted named =>
    rcases Store.update?_ok updated with rfl | ⟨table, found, rfl⟩
    · exact ⟨rows, known, roll⟩
    · obtain rfl : table = { rows, strict } := Option.some.inj (found.symm.trans known)
      refine ⟨_, by rw [Store.table?_put, if_pos rfl, known]; rfl, roll.map ?_ ?_⟩
      all_goals
        intro row
        split <;> simp [cell, update]
  | added viewer kind own inserted =>
    refine ⟨rows, ?_, roll⟩
    rw [Store.table?_insert_of_ne inserted, known]
    rcases kind with rfl | rfl | rfl <;> decide
  | _ => exact ⟨rows, known, roll⟩

/-! ### The form -/

theorem Enters.refused {table : Option Table} (unacceptable : ¬ Acceptable strict rows name email password)
    (same : table = some { rows, strict }) : Enters strict rows name email password table :=
  ⟨fun acceptable => (unacceptable acceptable).elim, fun _ => same⟩

namespace Views
open Visit

/-- The form that a visitor posts is entered, whether the visitor can be told of it or not. -/
theorem enrol_enters (posted : Posted) (known : v.host.store.table? .user = some { rows, strict }) :
    Enters strict rows (posted.trimmedField "username") (posted.trimmedField "email")
      ((posted.form.lookup "password").getD "") (((enrol posted).runFrom v).2.host.store.table? .user) := by
  have told (category message : String) (response : Response) (w : Visit) :
      ((do notify category message; return response : Act Visit Response).runFrom w).2.host.store = w.host.store :=
    (Shows.bind (shows_notify _ _ : Shows [] _ _) fun _ w => .refl _ w).store
  have unchanged (message : String) (response : Response) :
      ((do notify "error" message; return response : Act Visit Response).runFrom v).2.host.store.table? .user =
        some { rows, strict } := by
    rw [told, known]
  unfold enrol
  extract_lets username email password
  change Enters strict rows username email password _
  clear_value username email password
  split
  · rename_i empty
    refine .refused (fun acceptable => ?_) (unchanged _ _)
    have filled : username ≠ "" := fun empty => by simpa [empty] using acceptable.least
    simp [filled, acceptable.addressed, acceptable.secured] at empty
  rename_i filled
  split
  · rename_i long
    refine .refused (fun acceptable => ?_) (unchanged _ _)
    have least := acceptable.least
    have most := acceptable.most
    simp at long
    omega
  rename_i measured
  obtain ⟨namesakes, asked, new_name⟩ := Store.rowsWith_text known "username" username
  rw [runFrom_bind, ask_run, asked]
  dsimp only
  split
  · rename_i taken
    refine .refused (fun acceptable => ?_) (unchanged _ _)
    simp [new_name.mpr acceptable.new_name] at taken
  rename_i free
  obtain ⟨neighbours, asked, new_email⟩ := Store.rowsWith_text known "email" email
  rw [runFrom_bind, ask_run, asked]
  dsimp only
  split
  · rename_i taken
    refine .refused (fun acceptable => ?_) (unchanged _ _)
    simp [new_email.mpr acceptable.new_email] at taken
  rename_i unused
  simp only [Bool.or_eq_true, beq_iff_eq, not_or, decide_eq_true_eq, Bool.not_eq_true', Bool.not_eq_false] at *
  have inserted : Store.insert? .user [("username", .text username), ("email", .text email),
      ("password_hash", sealed password)] v.host.store = _ :=
    Store.insert?_account known (by omega) (new_name.mp free) (new_email.mp unused)
  rw [runFrom_bind, onStore, runFrom_on, Store.insert_run, inserted]
  by_cases brief : strict = true → email.length ≤ 120
  · have acceptable : Acceptable strict rows username email password :=
      ⟨by omega, by omega, filled.1.2, filled.2, new_name.mp free, new_email.mp unused, brief⟩
    refine ⟨fun _ => ⟨_, Store.isNewAccount_accountRow v.host.store.clock rows username email password, ?_⟩,
      (absurd acceptable ·)⟩
    rw [if_pos brief]
    dsimp only
    rw [told, Store.table?_put, if_pos rfl, known]
    rfl
  · rw [if_neg brief]
    exact .refused (fun acceptable => brief acceptable.brief) known

theorem register_enters (posted : Posted) (known : v.host.store.table? .user = some { rows, strict }) :
    Enters strict rows (posted.trimmedField "username") (posted.trimmedField "email")
      ((posted.form.lookup "password").getD "") (((register .post posted).runFrom v).2.host.store.table? .user) := by
  have entered := enrol_enters posted known
  unfold register
  rw [if_pos rfl, runFrom_bind, runFrom_outcome]
  dsimp only
  rwa [(shows_followUp (mem_singleton_self Page.register)).store]

end Views

/-! ### Requests -/

/-- The text that a form has under a name. -/
def Request.field (request : Request) (name : String) : String := (request.form.lookup name).getD ""

namespace Host

/-- A posted registration is entered where its form is taken, and otherwise refused. -/
theorem answering_registration (known : host.store.table? .user = some { rows, strict }) (session : Fields)
    (reached : request.route? = some .register) (posted : request.method = .post) :
    let table := (host.answering (session, request)).store.table? .user
    (Serve.formProblem? { host with session } request = none →
      Enters strict rows (trimmed (request.field "username")) (trimmed (request.field "email"))
        (request.field "password") table) ∧
    (Serve.formProblem? { host with session } request ≠ none → table = some { rows, strict }) := by
  dsimp only
  rw [answering_eq, serve_store]
  rcases Serve.respond_cases reached (v := { host with session }.start) with ⟨passes, shows⟩ | ⟨refused, shows⟩
  · refine ⟨fun _ => ?_, fun problem => (problem passes.taken).elim⟩
    have followed : Views.follow .register .post request.posted = Views.register .post request.posted := rfl
    have start_known : { host with session }.start.host.store.table? .user = some { rows, strict } := known
    rw [shows.store, posted, followed]
    generalize { host with session }.start = v at start_known
    exact Views.register_enters request.posted start_known
  · refine ⟨fun taken => ?_, fun _ => ?_⟩
    · exact absurd ⟨by rw [posted]; rfl, taken, .inl rfl⟩ refused
    · rw [shows.store]
      exact known

/-- A request keeps the roll of the accounts. -/
theorem roll_answering (known : host.store.table? .user = some { rows, strict }) (roll : Roll rows)
    (visit : Fields × Request) :
    ∃ rows', (host.answering visit).store.table? .user = some { rows := rows', strict } ∧ Roll rows' := by
  obtain ⟨session, request⟩ := visit
  by_cases registration : request.route? = some .register ∧ request.method = .post
  · obtain ⟨entered, refused⟩ := answering_registration known session registration.1 registration.2
    by_cases taken : Serve.formProblem? { host with session } request = none
    · obtain ⟨accepted, turned_down⟩ := entered taken
      by_cases acceptable : Acceptable strict rows (trimmed (request.field "username"))
          (trimmed (request.field "email")) (request.field "password")
      · obtain ⟨row, new, grown⟩ := accepted acceptable
        exact ⟨_, grown, roll.concat (trimsTo_trimmed _).1 acceptable new⟩
      · exact ⟨rows, turned_down acceptable, roll⟩
    · exact ⟨rows, refused taken, roll⟩
  · rw [answering_eq, serve_store]
    refine respond_invariant
      (P := fun v => ∃ rows', v.host.store.table? .user = some { rows := rows', strict } ∧ Roll rows')
      ⟨rows, known, roll⟩ ?_
    rintro v w - ⟨rows, known, roll⟩ step
    exact step.roll registration rows known roll

theorem roll_afterAll (vacant : host.store.table? .user = some { strict }) (visits : List (Fields × Request)) :
    ∃ rows, (host.afterAll visits).store.table? .user = some { rows, strict } ∧ Roll rows := by
  induction visits using reverseRecOn with
  | nil => exact ⟨[], vacant, ⟨nofun, nofun, .nil, .nil⟩⟩
  | append_singleton visits visit ih =>
    obtain ⟨rows, known, roll⟩ := ih
    rw [afterAll_concat]
    exact roll_answering known roll visit

/-- From a site without accounts, after any requests of any clients: no two accounts share a name or an address, and
every name is bare and has 3 to 80 characters; and a registration that is posted next and whose form is taken adds one
account, with the name and the address of its form without the blanks around them and at level 1, exactly if it is
acceptable, and otherwise leaves the table as it was. A form that is not taken leaves the table as it was. -/
theorem registration_exact (host : Host) (strict : Bool) (vacant : host.store.table? .user = some { strict })
    (visits : List (Fields × Request)) :
    ∃ rows, (host.afterAll visits).store.table? .user = some { rows, strict } ∧ Roll rows ∧
      ∀ session request, request.route? = some .register → request.method = .post →
        let name := trimmed (request.field "username")
        let email := trimmed (request.field "email")
        let problem := Serve.formProblem? { host.afterAll visits with session } request
        let table := ((host.afterAll visits).answering (session, request)).store.table? .user
        TrimsTo (request.field "username") name ∧ TrimsTo (request.field "email") email ∧
        (problem = none → Enters strict rows name email (request.field "password") table) ∧
        (problem ≠ none → table = some { rows, strict }) := by
  obtain ⟨rows, known, roll⟩ := roll_afterAll vacant visits
  refine ⟨rows, known, roll, fun session request reached posted => ?_⟩
  exact ⟨trimsTo_trimmed _, trimsTo_trimmed _, answering_registration known session reached posted⟩

/-- Ann registers with blanks around the name, and nobody else can be Ann after that. -/
theorem second_ann_turned_down :
    let host : Host := { now := ⟨0⟩, tag := "", reference := "" }
    let ann : Request :=
      { method := .post, target := "/register"
        form := [("username", " ann\t"), ("email", "ann@x.org"), ("password", "pw")] }
    let other : Request :=
      { method := .post, target := "/register"
        form := [("username", "ann"), ("email", " eve@x.org"), ("password", "pw")] }
    ∃ row, IsNewAccount [] "ann" "ann@x.org" "pw" row ∧
      (host.afterAll [([], ann)]).store.table? .user = some { rows := [row] } ∧
      (host.afterAll [([], ann), ([], other)]).store.table? .user = some { rows := [row] } := by
  intro host ann other
  have vacant : host.store.table? .user = some {} := rfl
  have reached : Route.ofPath? (Serve.readTarget "/register").1 = some .register := by decide +kernel
  have ann_reaches : ann.route? = some .register := reached
  have ann_fields : trimmed (ann.field "username") = "ann" ∧ trimmed (ann.field "email") = "ann@x.org" ∧
      ann.field "password" = "pw" := by decide
  have other_reaches : other.route? = some .register := reached
  have other_name : trimmed (other.field "username") = "ann" := by decide
  have first := host.afterAll_concat [] ([], ann)
  have second := host.afterAll_concat [([], ann)] ([], other)
  have ann_posts : ann.method = .post := rfl
  have other_posts : other.method = .post := rfl
  have ann_taken : Serve.formProblem? { host.afterAll [] with session := [] } ann = none := rfl
  clear_value host ann other
  rw [List.nil_append] at first
  rw [List.singleton_append] at second
  have acceptable : Acceptable false [] "ann" "ann@x.org" "pw" :=
    ⟨by decide, by decide, by decide, by decide, nofun, nofun, nofun⟩
  obtain ⟨rows, known, -, enters⟩ := registration_exact host false vacant []
  obtain rfl : [] = rows := by simpa using vacant.symm.trans known
  obtain ⟨-, -, entered, -⟩ := enters [] ann ann_reaches ann_posts
  rw [ann_fields.1, ann_fields.2.1, ann_fields.2.2, ← first] at entered
  obtain ⟨row, new, grown⟩ := (entered ann_taken).1 acceptable
  obtain ⟨rows, known, -, enters⟩ := registration_exact host false vacant [([], ann)]
  obtain rfl : [row] = rows := by simpa using grown.symm.trans known
  obtain ⟨-, -, entered, refused⟩ := enters [] other other_reaches other_posts
  rw [other_name, ← second] at entered
  refine ⟨row, new, grown, ?_⟩
  by_cases taken : Serve.formProblem? { host.afterAll [([], ann)] with session := [] } other = none
  · exact (entered taken).2 fun acceptable => acceptable.new_name row List.mem_cons_self new.username
  · exact second ▸ refused taken

/-- Where forms need a token, an acceptable registration without one adds nobody. -/
theorem ann_without_token_turned_down :
    let host : Host := { now := ⟨0⟩, tag := "", reference := "", guarded := true }
    let ann : Request :=
      { method := .post, target := "/register"
        form := [("username", "ann"), ("email", "ann@x.org"), ("password", "pw")] }
    Acceptable false [] (trimmed (ann.field "username")) (trimmed (ann.field "email")) (ann.field "password") ∧
      (host.answering ([], ann)).store.table? .user = some {} := by
  intro host ann
  have reached : ann.route? = some .register := by decide +kernel
  have missing : Serve.formProblem? { host with session := [] } ann ≠ none := by decide
  refine ⟨⟨by decide, by decide, by decide, by decide, nofun, nofun, nofun⟩, ?_⟩
  have known : host.store.table? .user = some { rows := [], strict := false } := rfl
  exact (answering_registration known [] reached rfl).2 missing

end Host

end Playhouse.Site
