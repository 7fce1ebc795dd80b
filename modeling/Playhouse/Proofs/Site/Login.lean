import Playhouse.Proofs.Site.Views

/-!
Logging in. A login with the right credentials reports success, but it opens a session that names no account,
and nothing that the site does ever puts an account into a session. Whoever has just logged in is a stranger to
every later request, and the routes for members send them to the login page again.
-/
namespace Playhouse.Site
open Act Fields Serve Views

variable {account : Fields} {posted : Posted} {route : Route}

variable {before : Store} {request : Request} {v w : Visit} {host : Host}

/-! ### What becomes of a session -/

/-- No step puts an account into the session. -/
theorem Step.account_session (step : Step before request v w) (absent : v.host.session.get? (.text "_user_id") = none) :
    w.host.session.get? (.text "_user_id") = none := by
  cases step with
  | notified | gotToken | told => simpa using absent
  | tookNotices => simpa [get?_erase_of_ne] using absent
  | signedIn => simp
  | left => rfl
  | showed | enrolled | settled | added | cast | castFrom | filed => exact absent

/-- A session of a site without tokens that names no account and whose notices are a list. -/
structure Host.Anonymous (host : Host) : Prop where
  unguarded : host.guarded = false
  account : host.session.get? (.text "_user_id") = none
  notices : ∃ notices, (host.session.get? (.text "_flashes")).getD (.list []) = .list notices

theorem Step.anonymous (step : Step before request v w) (anonymous : v.host.Anonymous) : w.host.Anonymous := by
  refine ⟨?_, step.account_session anonymous.account, ?_⟩
  · cases step <;> exact anonymous.unguarded
  · obtain ⟨notices, listed⟩ := anonymous.notices
    cases step with
    | notified notices => exact ⟨notices, by simp⟩
    | gotToken | told => exact ⟨notices, by simpa using listed⟩
    | tookNotices => exact ⟨[], by simp [get?_erase_self]⟩
    | signedIn | left => exact ⟨[], by simp⟩
    | showed | enrolled | settled | added | cast | castFrom | filed => exact ⟨notices, listed⟩

namespace Host

theorem Anonymous.serve (anonymous : host.Anonymous) (request : Request) :
    ((Host.serve request).runFrom host).2.Anonymous := by
  have kept : ((respond request).runFrom host.start).2.host.Anonymous :=
    respond_invariant (P := fun v => v.host.Anonymous) anonymous fun _ _ _ kept step => step.anonymous kept
  rw [serve_run]
  rcases ran : (respond request).runFrom host.start with ⟨fault | response, visit⟩ <;> rw [ran] at kept
  · exact ⟨kept.unguarded, anonymous.account, anonymous.notices⟩
  · exact ⟨kept.unguarded, kept.account, kept.notices⟩

theorem Anonymous.after (anonymous : host.Anonymous) (requests : List Request) : (host.after requests).Anonymous := by
  induction requests generalizing host with
  | nil => exact anonymous
  | cons request rest ih =>
    rw [Host.after]
    exact ih (anonymous.serve request)

theorem Anonymous.account? (anonymous : host.Anonymous) : Site.account? host.store host.session = none := by
  simp [Site.account?, anonymous.account]

end Host

/-! ### Strangers -/

/-- A stranger on a route for members is asked to log in. -/
theorem Serve.reach_stranger (taken : formProblem? v.host request = none) (stranger : v.viewer = none)
    {path : String} {query : List Char} (isProtected : route.isProtected)
    (allowed : route.rule.methods.contains request.method) :
    (reach route request path query).runFrom v = (askToLogIn route path query).runFrom v := by
  unfold reach
  rw [runFrom_get_bind]
  simp only [allowed, taken, isProtected, Bool.not_true, Bool.false_eq_true, ↓reduceIte]
  rw [runFrom_get_bind]
  simp only [stranger, Option.isNone_none, Bool.and_self, ↓reduceIte]

/-- A stranger that follows a route for members is sent to the login page and sees nothing. -/
theorem Host.Anonymous.serve_protected (anonymous : host.Anonymous)
    (reached : request.route? = some route) (isProtected : route.isProtected)
    (allowed : route.rule.methods.contains request.method) :
    ∃ back answer session told, (Host.serve request).runFrom host = (.ok answer, { host with session, told }) ∧
      answer.response = ⟨302, some (Route.login.path ++ "?" ++ back)⟩ ∧ answer.shown = [] := by
  obtain ⟨notices, listed⟩ := anonymous.notices
  have stranger : host.start.viewer = none := anonymous.account?
  have asked : (reach route request (readTarget request.target).1
      (readTarget request.target).2).runFrom host.start = _ :=
    reach_stranger (formProblem?_of_unguarded anonymous.unguarded) stranger isProtected allowed
  unfold askToLogIn at asked
  rw [runFrom_bind, Visit.notify_run _ _ (v := host.start) listed] at asked
  rw [Host.serve_run, respond_of_reach reached asked]
  exact ⟨_, _, _, _, rfl, rfl, rfl⟩

/-! ### Logging in -/

/-- A form holds the address and the password of an account. -/
structure Posted.Authenticates (posted : Posted) (store : Store) (account : Fields) : Prop where
  email : posted.trimmedField "email" ≠ ""
  password : (posted.form.lookup "password").getD "" ≠ ""
  known : ∃ rows, store.rowsWith .user "email" (.text (posted.trimmedField "email")) = .ok rows ∧
    rows.head? = some account
  right : (cell account "password_hash").equal (sealed ((posted.form.lookup "password").getD "")) = true

theorem Posted.authenticates_of_only {store : Store} (known : store.history .user = .ok [account])
    (email : posted.trimmedField "email" ≠ "") (password : (posted.form.lookup "password").getD "" ≠ "")
    (same : (cell account "email").equal (.text (posted.trimmedField "email")) = true)
    (right : (cell account "password_hash").equal (sealed ((posted.form.lookup "password").getD "")) = true) :
    posted.Authenticates store account := by
  refine ⟨email, password, ⟨[account], ?_, rfl⟩, right⟩
  rw [Store.rowsWith_of_history known, List.mergeSort_singleton]
  simp [same]

/-- The session that a login opens: a notice, and no account. -/
def openedSession : Fields :=
  [("_fresh", .bool true), ("_flashes", .list [.list [.text "success", .text "Login successful!"]])]

theorem Views.signIn_run (fits : posted.Authenticates v.host.store account) :
    (signIn posted).runFrom v = ((v.host.located (nextPage posted)).map fun place => some ⟨302, some place⟩,
        { v with host := { v.host with session := openedSession } }) := by
  obtain ⟨rows, asked, first⟩ := fits.known
  have filled : (posted.trimmedField "email" == "" || (posted.form.lookup "password").getD "" == "") = false := by
    simp [fits.email, fits.password]
  unfold signIn
  simp only [filled, Bool.false_eq_true, ↓reduceIte, runFrom_bind, Visit.ask_run, asked, first, Option.map_some,
    Option.getD_some, fits.right]
  cases located : v.host.located (nextPage posted) <;>
    simp [Visit.onSession, Visit.onHost, Visit.notify, openedSession, located] <;> rfl

theorem Views.login_run {place : String} (fits : posted.Authenticates v.host.store account)
    (located : v.host.located (nextPage posted) = .ok place) :
    (login .post posted).runFrom v =
      (.ok ⟨302, some place⟩, { v with host := { v.host with session := openedSession } }) := by
  unfold login
  rw [if_pos rfl, runFrom_bind, runFrom_outcome, signIn_run fits, located]
  rfl

/-- A login whose next page cannot be written as a location shows the login page again, with no account either. -/
theorem Views.login_run_unlocated {fault : Fault} (untaken : v.taken = .null)
    (fits : posted.Authenticates v.host.store account) (located : v.host.located (nextPage posted) = .error fault) :
    ∃ w, (login .post posted).runFrom v = (.ok .page, w) ∧
      w.host = { v.host with session := [("_fresh", .bool true), ("csrf_token", .text "")] } := by
  unfold login
  rw [if_pos rfl, runFrom_bind, runFrom_outcome, signIn_run fits, located]
  obtain ⟨host, viewer, taken, shown⟩ := v
  cases untaken
  exact ⟨_, rfl, rfl⟩

theorem Serve.respond_login {response : Response} (taken : formProblem? v.host request = none)
    (reached : request.route? = some .login) (method : request.method = .post)
    (ran : (login .post request.posted).runFrom v = (.ok response, w)) :
    (respond request).runFrom v = (.ok response, w) := by
  refine respond_of_reach reached (reach_view taken ?_ (.inl rfl) ?_)
  · rw [method]
    rfl
  · rw [method]
    exact ran

/-- With the right address and password a login reports success, if its next page can be written as a location. In any
case the client has no account from then on: after any further requests, those to routes for members among them, every
such route sends it to the login page, shows nothing and leaves all but the session as it was. -/
theorem Host.login_opens_no_account (host : Host) (request : Request) (account : Fields) (later : List Request)
    (unguarded : host.guarded = false) (reached : request.route? = some .login) (method : request.method = .post)
    (fits : request.posted.Authenticates host.store account) :
    (∀ place, host.located (Views.nextPage request.posted) = .ok place →
      ∃ answer, ((serve request).runFrom host).1 = .ok answer ∧ answer.response = ⟨302, some place⟩ ∧
        answer.notices = .list [.list [.text "success", .text "Login successful!"]]) ∧
    Site.account? (host.after (request :: later)).store (host.after (request :: later)).session = none ∧
    ∀ (next : Request) (route : Route), next.route? = some route → route.isProtected →
      route.rule.methods.contains next.method →
      ∃ back answer session told,
        (serve next).runFrom (host.after (request :: later)) =
          (.ok answer, { host.after (request :: later) with session, told }) ∧
        answer.response = ⟨302, some (Route.login.path ++ "?" ++ back)⟩ ∧ answer.shown = [] := by
  have responds {response : Response} {w : Visit}
      (ran : (login .post request.posted).runFrom host.start = (.ok response, w)) :=
    Serve.respond_login (formProblem?_of_unguarded unguarded) reached method ran
  have opened : ((serve request).runFrom host).2.Anonymous := by
    rw [serve_run]
    cases located : host.located (nextPage request.posted) with
    | ok place =>
      rw [responds (login_run (v := host.start) fits located)]
      exact ⟨unguarded, by simp [openedSession], _, by simp [openedSession]; rfl⟩
    | error fault =>
      obtain ⟨w, ran, left⟩ := login_run_unlocated (v := host.start) rfl fits located
      rw [responds ran]
      simp only [left]
      exact ⟨unguarded, by simp, [], by simp⟩
  have stranger : (host.after (request :: later)).Anonymous := by
    rw [Host.after]
    exact opened.after later
  refine ⟨fun place located => ?_, stranger.account?, fun next route reached isProtected allowed =>
    stranger.serve_protected reached isProtected allowed⟩
  rw [serve_run, responds (login_run (v := host.start) fits located)]
  exact ⟨_, rfl, rfl, rfl⟩

/-- Ann logs in and looks at the start page, and is asked to log in again for the profile. -/
theorem Host.ann_is_asked_again :
    let ann : Fields := [("id", .int 1), ("email", .text "ann@x.org"), ("password_hash", sealed "pw")]
    let host : Host := { store := { tables := [(.user, { rows := [ann] })] }, now := ⟨0⟩, tag := "", reference := "" }
    let login : Request :=
      { method := .post, target := "/login", form := [("email", "ann@x.org"), ("password", "pw"), ("remember", "on")] }
    let start : Request := { method := .get, target := "/" }
    let profile : Request := { method := .get, target := "/profile" }
    (∃ answer, ((serve login).runFrom host).1 = .ok answer ∧ answer.response = ⟨302, some "/"⟩ ∧
      answer.notices = .list [.list [.text "success", .text "Login successful!"]]) ∧
    ∃ back answer after, (serve profile).runFrom (host.after [login, start]) = (.ok answer, after) ∧
      answer.response = ⟨302, some ("/login?" ++ back)⟩ ∧ answer.shown = [] := by
  intro ann host login start profile
  have fits : login.posted.Authenticates host.store ann :=
    Posted.authenticates_of_only rfl (by decide) (by decide) (by decide +kernel) (by decide +kernel)
  have located : host.located (Views.nextPage login.posted) = .ok "/" := by
    rw [show Views.nextPage login.posted = "/" by decide +kernel]
    rfl
  obtain ⟨reported, -, sent⟩ := login_opens_no_account host login ann [start] rfl (by decide +kernel) rfl fits
  obtain ⟨back, answer, session, told, ran, response, shown⟩ :=
    sent profile .profile (by decide +kernel) rfl rfl
  refine ⟨reported "/" located, back, answer, _, ran, ?_, shown⟩
  rw [response]
  rfl

end Playhouse.Site
