import Mathlib.Tactic.Choose
import Playhouse.Proofs.Site.Steps

/-!
Views and requests. Every view takes steps of a visit only: a failure on the way is answered by further steps, never by
others. A request that passes the checks of its route is answered by the view of the route; the site after it is the
site that the visit leaves, but that a request with a fault leaves the session as it was.
-/
namespace Playhouse.Site.Views
open Act Visit List Store

variable {method : Method} {page : Page} {β : Type}

variable {before : Store} {request : Request} {v : Visit} {posted : Posted}

/-! ### What follows a failure -/

variable {work : Act Visit Response} {c s : Nat} (message : String) (route : Route)

theorem orElse_run (work : Act Visit Response) (message : String) (route : Route) (v : Visit) :
    (orElse work message route).runFrom v =
      match work.runFrom v with
      | (.ok response, w) => (.ok response, w)
      | (.error _, w) => (do notify "error" message; return .redirect route : Act Visit Response).runFrom w := by
  unfold orElse
  rw [runFrom_bind, runFrom_outcome]
  rcases work.runFrom v with ⟨_ | _, w⟩ <;> rfl

theorem orElse_follows (steps : Walks before request work v) : Walks before request (orElse work message route) v := by
  unfold orElse
  refine .bind steps.outcome fun result w _ => ?_
  split
  · exact follows_pure _
  · exact follows_notify_pure _ _ _

theorem orElseDatabase_follows (steps : Walks before request work v) :
    Walks before request (orElseDatabase work message route) v := by
  unfold orElseDatabase
  refine .bind steps.outcome fun result w _ => ?_
  split
  · exact follows_pure _
  · split
    · exact .bind follows_notifyDatabase fun _ _ _ => follows_pure _
    · exact follows_notify_pure _ _ _

theorem followUp_notice_follows {outcome : Except Fault Response} {message : String} : Walks before request
      (followUp outcome (fun fault => if fault.isDatabase then notifyDatabase else notify "error" message) page) v := by
  unfold followUp
  split
  · exact follows_pure _
  · refine .bind ?_ fun _ _ _ => follows_display_pure shares_nil _
    dsimp only
    split
    · exact follows_notifyDatabase
    · exact follows_notify _ _

theorem followUp_follows {message : String} (steps : Walks before request work v) :
    Walks before request (work.outcome >>= fun outcome =>
        followUp outcome (fun fault => if fault.isDatabase then notifyDatabase else notify "error" message) page)
      v :=
  .bind steps.outcome fun _ _ _ => followUp_notice_follows

/-! ### Accounts -/

theorem index_follows : Walks before request index v := by
  unfold index
  refine .bind (.outcome ?_) fun result w _ => ?_
  · refine .getting ?_
    extract_lets rest
    have shown : ∀ templates : List Fields, (∀ row ∈ templates, v.Owns row) →
        Walks before request (rest templates) v := by
      intro templates own
      refine follows_display (shares_cons ?_ shares_nil)
      intro held member _
      obtain ⟨row, listed, rfl⟩ := mem_map.mp member
      exact own row listed
    split
    · rename_i account viewer
      exact follows_ask fun templates asked => shown templates fun row listed =>
        ⟨account, viewer, belongsTo_of_mem_rowsWith asked listed⟩
    · exact shown [] (forall_mem_nil _)
  · split
    · exact follows_pure _
    · exact follows_display_pure shares_document _

theorem enrol_follows (reached : request.route? = some .register) (method : request.method = .post) :
    Walks before request (enrol posted) v := by
  unfold enrol
  extract_lets username email password
  split
  · exact follows_notify_pure _ _ _
  split
  · exact follows_notify_pure _ _ _
  rename_i fits
  obtain ⟨least, most⟩ : 3 ≤ username.length ∧ username.length ≤ 80 := by
    simp only [Bool.or_eq_true, decide_eq_true_eq] at fits
    omega
  refine follows_ask fun named _ => ?_
  split
  · exact follows_notify_pure _ _ _
  refine follows_ask fun addressed _ => ?_
  split
  · exact follows_notify_pure _ _ _
  refine .bind (follows_onStore_insert ?_) fun _ _ _ => follows_notify_pure _ _ _
  exact fun id store inserted => .enrolled reached method least most inserted

theorem register_follows (reached : request.route? = some .register) :
    Walks before request (register request.method posted) v := by
  unfold register
  split
  · exact followUp_follows (enrol_follows reached ‹_›)
  · exact follows_display_pure shares_nil _

theorem signIn_follows : Walks before request (signIn posted) v := by
  unfold signIn
  extract_lets email password
  split
  · exact follows_notify_pure _ _ _
  refine follows_ask fun accounts _ => ?_
  extract_lets account
  split
  · refine .bind (follows_of_step .signedIn) fun _ _ _ => .bind (follows_notify _ _) fun _ _ _ => .getting ?_
    exact .look (by rw [runFrom_liftM]) fun _ _ => follows_pure _
  · exact follows_notify_pure _ _ _

theorem login_follows : Walks before request (login method posted) v := by
  unfold login
  extract_lets rest
  have shown : ∀ (response : Option Response) (w : Visit), Walks before request (rest response) w := by
    intro response w
    cases response with
    | none => exact follows_display_pure shares_nil _
    | some response => exact follows_pure _
  split
  · refine .bind signIn_follows.outcome fun result w _ => ?_
    split
    · exact shown _ w
    · exact .bind (follows_notify _ _) fun _ w _ => shown none w
  · exact shown none v

theorem logout_follows : Walks before request logout v :=
  .bind (follows_of_step .left) fun _ _ _ => follows_notify_pure _ _ _

theorem profile_follows : Walks before request profile v :=
  orElse_follows _ _ (follows_display_pure shares_nil _)

theorem levelOf?_bounds {text : Option String} {level : Int} (named : levelOf? text = some level) :
    1 ≤ level ∧ level ≤ 3 := by
  unfold levelOf? at named
  split at named <;> simp_all <;> omega

theorem updateProfile_follows (reached : request.route? = some .updateProfile) (method : request.method = .post)
    (sent : posted.form = request.form) : Walks before request (updateProfile posted) v := by
  unfold updateProfile
  refine orElseDatabase_follows _ _ ?_
  extract_lets gender
  split
  · exact follows_notify_pure _ _ _
  split
  · rename_i level named
    obtain ⟨least, most⟩ := levelOf?_bounds named
    refine follows_member fun account viewer => .bind ?_ fun _ _ _ => follows_notify_pure _ _ _
    cases updated : update? .user (rowId account)
        [("gender", .text gender), ("spiciness_level", .int level)] v.host.store with
    | error problem => exact follows_of_unchanged (by rw [onStore, runFrom_on, update_run, updated])
    | ok store =>
      refine follows_of_step ?_
      rw [onStore, runFrom_on, update_run, updated]
      exact .settled viewer least most updated reached method (sent ▸ named)
  · exact follows_notify_pure _ _ _

/-! ### Characters and templates -/

theorem castFor_follows (reached : request.route? = some .createCharacter) (known : v.viewer.isSome)
    (stored : v.host.store = before) : Walks before request (castFor posted) v := by
  unfold castFor
  extract_lets id
  split
  · exact follows_visitor (follows_of_step (.cast reached known))
  refine follows_ask fun row asked => follows_found fun template known => ?_
  subst known
  refine follows_checkOwner fun own => follows_visitor (follows_of_step ?_)
  exact .castFrom template (stored ▸ holds_of_findWritten asked) own reached

theorem createCharacter_follows (reached : request.route? = some .createCharacter) (known : v.viewer.isSome)
    (stored : v.host.store = before) : Walks before request (createCharacter posted) v := by
  unfold createCharacter
  refine orElseDatabase_follows _ _ ?_
  refine .bind (castFor_follows reached known stored) fun traits w _ => ?_
  refine .look (by rw [runFrom_liftM]) fun traits _ => ?_
  refine follows_member fun account viewer => ?_
  refine .bind (follows_onStore_insert ?_) fun _ _ _ => follows_pure _
  exact fun id store inserted => .added viewer (.inl rfl) (by simp) inserted

/-- What a view does with a character of the visitor's own. -/
theorem follows_ownCharacter {id : Nat} {next : Fields → Act Visit β}
    (rest : ∀ character, v.Owns character → Walks before request (next character) v) :
    Walks before request (ownCharacter id >>= next) v := by
  unfold ownCharacter
  rw [bind_assoc]
  refine follows_ask fun row _ => ?_
  rw [bind_assoc]
  refine follows_found fun character _ => ?_
  rw [bind_assoc]
  exact follows_checkOwner fun own => rest character own

theorem character_follows (id : Nat) : Walks before request (character id) v := by
  unfold character
  refine orElse_follows _ _ (follows_ownCharacter fun character own => ?_)
  refine follows_display_pure (shares_cons ?_ shares_nil) _
  intro held member _
  obtain rfl := mem_singleton.mp member
  exact own

theorem addTemplate_follows : Walks before request (addTemplate posted) v := by
  unfold addTemplate
  extract_lets name description options
  split
  · exact follows_notify_pure _ _ _
  refine follows_member fun account viewer => ?_
  refine .bind (follows_onStore_insert ?_) fun _ _ _ => follows_notify_pure _ _ _
  refine fun id store inserted => .added viewer (.inr (.inl rfl)) ?_ inserted
  simp [options, Fields.ofPairs, Fields.update, templateOptions, Fields.set]

theorem createTemplate_follows : Walks before request (createTemplate method posted) v := by
  unfold createTemplate
  split
  · exact followUp_follows addTemplate_follows
  · exact follows_display_pure shares_nil _

/-! ### Scenarios and stories -/

theorem scenarios_follows : Walks before request scenarios v := by
  unfold scenarios
  refine orElseDatabase_follows _ _ (follows_member fun account viewer => ?_)
  extract_lets me
  refine follows_ask fun scenarios _ => follows_ask fun completions done => follows_ask fun achievements reached => ?_
  refine follows_display_pure (shares_cons ?_ (shares_cons ?_ (shares_cons ?_ shares_nil))) _ <;>
    rintro held member personal <;> obtain ⟨row, listed, rfl⟩ := mem_map.mp member
  · cases personal
  · exact ⟨account, viewer, belongsTo_of_mem_rowsWith done listed⟩
  · exact ⟨account, viewer, belongsTo_of_mem_rowsWith reached listed⟩

/-- What a view does with a character and a scenario: both are stored, and the character is the visitor's. -/
theorem follows_castAndScenario {next : Fields × Fields → Act Visit β}
    (rest : ∀ character scenario, v.host.store.Holds .character character → v.host.store.Holds .scenario scenario →
      v.Owns character → Walks before request (next (character, scenario)) v) :
    Walks before request (castAndScenario c s >>= next) v := by
  unfold castAndScenario
  rw [bind_assoc]
  refine follows_ask fun row asked => ?_
  rw [bind_assoc]
  refine follows_found fun character known => ?_
  subst known
  rw [bind_assoc]
  refine follows_ask fun row askedScenario => ?_
  rw [bind_assoc]
  refine follows_found fun scenario known => ?_
  subst known
  rw [bind_assoc]
  exact follows_checkOwner fun own =>
    rest character scenario (holds_of_find asked) (holds_of_find askedScenario) own

theorem tellStory_follows {character scenario : Fields} (held : before.Holds .character character)
    (known : before.Holds .scenario scenario) (own : v.Owns character)
    (reached : ∃ c s, request.route? = some (.generateStory c s) ∨ request.route? = some (.story c s)) :
    Walks before request (tellStory character scenario) v := by
  unfold tellStory
  refine follows_visitor (.getting ?_)
  extract_lets casting
  cases generated : Scene.generate v.reader character scenario v.host.casting.muses with
  | mk scene muses => exact follows_of_step (.told character scenario held known own generated reached)

theorem generateStory_follows (reached : request.route? = some (.generateStory c s)) (stored : v.host.store = before) :
    Walks before request (generateStory c s) v := by
  unfold generateStory
  refine orElse_follows _ _ (follows_castAndScenario fun character scenario held known own => ?_)
  exact .bind (tellStory_follows (stored ▸ held) (stored ▸ known) own ⟨c, s, .inl reached⟩) fun _ _ _ => follows_pure _

theorem story_follows (reached : request.route? = some (.story c s)) (stored : v.host.store = before) :
    Walks before request (story c s) v := by
  unfold story
  refine orElse_follows _ _ (follows_castAndScenario fun character scenario held known own => ?_)
  refine .getting ?_
  extract_lets kept rest
  have shown : ∀ (story : Value) (w : Visit), w.Owns character → Walks before request (rest story) w := by
    intro story w own
    refine follows_display_pure (shares_cons ?_ (shares_cons ?_ shares_document)) _ <;>
      rintro held member personal <;> obtain rfl := mem_singleton.mp member
    · exact own
    · cases personal
  split
  · exact shown kept v own
  · have steps : Walks before request (tellStory character scenario) v :=
      tellStory_follows (stored ▸ held) (stored ▸ known) own ⟨c, s, .inr reached⟩
    refine .bind steps fun story w ran => shown story w ?_
    -- telling changes the session, not the visitor
    obtain ⟨account, viewer, belongs⟩ := own
    rw [Walks, Follows, ran] at steps
    exact ⟨account, (viewer_eq_of_steps steps).trans viewer, belongs⟩

/-! ### The hunt -/

/-- Gathering only looks, and it keeps the submissions of one account. -/
theorem gather_run (account : Fields) (detached : Bool) (tasks : List Fields) (v : Visit) :
    ∃ result, (gather (rowId account) detached tasks).runFrom v = (result, v) ∧
      ∀ gathered, result = .ok gathered → ∀ pair ∈ gathered, ∀ row ∈ pair.2, BelongsTo account row := by
  -- each task decides whether the next one can be asked for at all
  induction tasks generalizing detached with
  | nil => exact ⟨.ok [], rfl, by rintro _ ⟨⟩ _ absent; cases absent⟩
  | cons task rest ih =>
    unfold gather
    cases detached with
    | true => exact ⟨.error (.database .constraint), rfl, by rintro _ ⟨⟩⟩
    | false =>
      simp only [Bool.false_eq_true, ↓reduceIte, runFrom_bind, ask_run]
      cases v.host.store.rowsWith .submission "task_id" (.int (rowId task)) with
      | error fault => exact ⟨.error fault, rfl, by rintro _ ⟨⟩⟩
      | ok all =>
        choose result ran own using ih
        simp only [ran]
        split
        · rename_i later w looked
          obtain ⟨found, rfl⟩ := Prod.mk.inj looked
          refine ⟨_, rfl, ?_⟩
          rintro _ ⟨⟩ pair member row submitted
          rcases mem_cons.mp member with rfl | member
          · exact (mem_filter.mp (mem_mergeSort.mp submitted)).2
          · exact own _ later found pair member row submitted
        · rename_i fault w looked
          obtain ⟨-, rfl⟩ := Prod.mk.inj looked
          exact ⟨.error fault, rfl, by rintro _ ⟨⟩⟩

theorem hunt_follows (s : Nat) : Walks before request (hunt s) v := by
  unfold hunt
  refine orElse_follows _ _ (follows_ask fun row _ => follows_found fun scenario _ => follows_ask fun tasks _ => ?_)
  refine follows_member fun account viewer => ?_
  obtain ⟨result, ran, own⟩ := gather_run account false tasks v
  refine .look (by rw [ran]) fun gathered known => ?_
  rw [ran] at known
  refine follows_display_pure (shares_cons ?_ (shares_cons ?_ shares_nil)) _
  · rintro held member personal
    obtain rfl := mem_singleton.mp member
    cases personal
  · rintro held member personal
    obtain ⟨pair, listed, member⟩ := mem_flatMap.mp member
    rcases mem_cons.mp member with rfl | member
    · cases personal
    · obtain ⟨row, submitted, rfl⟩ := mem_map.mp member
      exact ⟨account, viewer, own gathered known pair listed row submitted⟩

theorem record_follows (reached : ∃ t, request.route? = some (.submitTask t)) (task : Fields) (photo : Photo.Upload) :
    Walks before request (record task photo) v := by
  unfold record
  refine .getting ?_
  extract_lets host
  refine .bind (follows_of_step (.filed _ reached)) fun path w _ => ?_
  refine .getting ?_
  split
  refine .bind (follows_of_step (.filed _ reached)) fun _ _ _ => follows_member fun account viewer => ?_
  refine .bind (follows_onStore_insert ?_) fun _ _ _ => ?_
  · exact fun id store inserted => .added viewer (.inr (.inr rfl)) (by simp) inserted
  · split <;> exact follows_notify _ _

theorem huntOf_follows (task : Fields) : Walks before request (huntOf task) v := by
  unfold huntOf
  split
  · exact follows_pure _
  · exact follows_throw _

theorem conclude_follows (reached : ∃ t, request.route? = some (.submitTask t)) (task : Fields)
    (result : Except Fault Unit) : Walks before request (conclude task result) v := by
  unfold conclude
  extract_lets goOn
  have goes (r : Unit) (w : Visit) : Walks before request (goOn r) w := by
    refine .bind (follows_of_step (.filed _ reached)) fun _ _ _ => ?_
    split
    · exact huntOf_follows task
    · split
      · exact follows_throw _
      · exact huntOf_follows task
  split
  · exact .bind (follows_notify _ _) fun r w _ => goes r w
  · exact goes () v

theorem submit_follows {t : Nat} (reached : request.route? = some (.submitTask t)) :
    Walks before request (submit t posted) v := by
  unfold submit
  refine orElse_follows _ _ (follows_ask fun row _ => follows_found fun task _ => ?_)
  split
  · rename_i photo _
    split
    · exact .bind (follows_notify _ _) fun _ _ _ => huntOf_follows task
    · exact .bind (record_follows ⟨t, reached⟩ task photo).outcome fun result w _ =>
        conclude_follows ⟨t, reached⟩ task result
  · exact .bind (follows_notify _ _) fun _ _ _ => huntOf_follows task

/-! ### Routes -/

theorem follow_follows {route : Route} (reached : request.route? = some route)
    (allowed : route.rule.methods.contains request.method) (admitted : route.isProtected = false ∨ v.viewer.isSome)
    (stored : v.host.store = before) (sent : posted.form = request.form) :
    Walks before request (follow route request.method posted) v := by
  unfold follow
  split
  case h_1 => exact index_follows
  case h_2 => exact register_follows reached
  case h_3 => exact login_follows
  case h_4 => exact logout_follows
  case h_5 => exact profile_follows
  case h_6 => exact updateProfile_follows reached (mem_singleton.mp (contains_iff_mem.mp allowed)) sent
  case h_7 => exact createCharacter_follows reached (admitted.resolve_left (by decide)) stored
  case h_8 id => exact character_follows id
  case h_9 => exact createTemplate_follows
  case h_10 => exact scenarios_follows
  case h_11 c s => exact generateStory_follows reached stored
  case h_12 c s => exact story_follows reached stored
  case h_13 s => exact hunt_follows s
  case h_14 t => exact submit_follows reached
  case h_15 =>
    split
    · exact follows_pure _
    · exact follows_throw _

end Playhouse.Site.Views

namespace Playhouse.Site
open Act Views

/-! ### Requests -/

/-- The form, the files and the query of a request. -/
def Request.posted (request : Request) : Posted where
  form := request.form
  files := request.files
  query := (Address.queryPairs (Serve.readTarget request.target).2).map fun (name, value) =>
    (String.ofList name, String.ofList value)

namespace Serve
open Visit

variable {before : Store} {request : Request} {v w : Visit}

theorem refuse_follows (status : Nat) (reason : String) : Walks before request (refuse status reason) v :=
  follows_display_pure shares_document _

theorem notFound_follows : Walks before request notFound v :=
  .bind (follows_present shares_nil) fun _ _ _ => follows_pure _

variable {path : String} {route : Route} {response : Response}

theorem reach_follows {query : List Char} (reached : request.route? = some route) (stored : v.host.store = before) :
    Walks before request (reach route request path query) v := by
  unfold reach
  refine .getting ?_
  extract_lets host pairs posted
  split
  · exact refuse_follows _ _
  rename_i allowed
  split
  · exact refuse_follows _ _
  refine .getting ?_
  split
  · exact follows_notify_pure _ _ _
  rename_i admitted
  have allowed : route.rule.methods.contains request.method := by simpa using allowed
  have admitted : route.isProtected = false ∨ v.viewer.isSome := by
    cases known : v.viewer <;> simp_all
  refine .bind (follow_follows reached allowed admitted stored rfl).outcome fun result w _ => ?_
  split
  · exact follows_pure _
  · exact notFound_follows
  · exact follows_throw _

theorem dispatch_follows (stored : v.host.store = before) : Walks before request (dispatch request) v := by
  unfold dispatch
  split
  rename_i path query target
  split
  · rename_i route reached
    refine reach_follows ?_ stored
    rw [Request.route?, target, reached]
  · split
    · exact follows_pure _
    · exact notFound_follows

/-- A request is answered by steps of a visit, whatever the outcome. -/
theorem respond_follows (stored : v.host.store = before) : Walks before request (respond request) v := by
  unfold respond
  refine .bind (dispatch_follows stored).outcome fun result w _ => ?_
  split
  · exact follows_pure _
  · exact .bind (follows_present shares_nil) fun _ _ _ => follows_pure _

/-! ### Answers -/

theorem formProblem?_of_unguarded {host : Host} (unguarded : host.guarded = false) : formProblem? host request = none := by
  simp [formProblem?, unguarded]

theorem formProblem?_of_get {host : Host} (method : request.method = .get) : formProblem? host request = none := by
  simp [formProblem?, method]

/-- A request that passes the checks of its route is answered by the view; where the view finds nothing, by the page
for that. -/
theorem reach_passed (taken : formProblem? v.host request = none)
    (allowed : route.rule.methods.contains request.method) (admitted : route.isProtected = false ∨ v.viewer.isSome) :
    (reach route request path (readTarget request.target).2).runFrom v =
      match (follow route request.method request.posted).runFrom v with
      | (.ok response, w) => (.ok response, w)
      | (.error .noPage, w) => notFound.runFrom w
      | (.error fault, w) => (.error fault, w) := by
  have passed : (route.isProtected && v.viewer.isNone) = false := by
    rcases admitted with free | known
    · simp [free]
    · simp [Option.isNone_eq_false_iff.mpr known]
  unfold reach
  rw [runFrom_get_bind]
  simp only [allowed, taken, Bool.not_true, Bool.false_eq_true, ↓reduceIte]
  rw [runFrom_get_bind]
  simp only [passed, Bool.false_eq_true, ↓reduceIte]
  rw [runFrom_bind, runFrom_outcome]
  simp only [Request.posted]
  generalize (follow route request.method _).runFrom v = left
  obtain ⟨outcome, w⟩ := left
  cases outcome with
  | ok response => rfl
  | error fault => cases fault <;> rfl

theorem reach_view (taken : formProblem? v.host request = none) (allowed : route.rule.methods.contains request.method)
    (admitted : route.isProtected = false ∨ v.viewer.isSome)
    (ran : (follow route request.method request.posted).runFrom v = (.ok response, w)) :
    (reach route request path (readTarget request.target).2).runFrom v = (.ok response, w) := by
  rw [reach_passed taken allowed admitted, ran]

section
variable (reached : request.route? = some route)
include reached

theorem dispatch_of_reached :
    dispatch request = reach route request (readTarget request.target).1 (readTarget request.target).2 := by
  rw [Request.route?] at reached
  unfold dispatch
  simp only [reached]

theorem respond_of_reach
    (ran : (reach route request (readTarget request.target).1 (readTarget request.target).2).runFrom v = (.ok
      response, w)) : (respond request).runFrom v = (.ok response, w) := by
  unfold respond
  rw [dispatch_of_reached reached, runFrom_bind, runFrom_outcome, ran]
  rfl

/-- A member that looks at a page gets what the view of the route gives. -/
theorem respond_viewed (method : request.method = .get)
    (allowed : route.rule.methods.contains .get) (known : v.viewer.isSome)
    (ran : (follow route .get request.posted).runFrom v = (.ok response, w)) :
    (respond request).runFrom v = (.ok response, w) := by
  refine respond_of_reach reached ?_
  rw [reach_passed (formProblem?_of_get method) (method ▸ allowed) (.inr known), method, ran]

end

end Serve

namespace Host

/-- What every step for a request keeps holds when the request is answered. -/
theorem respond_invariant {host : Host} {request : Request} {P : Visit → Prop} (start : P host.start)
    (step : ∀ v w, v.viewer = host.start.viewer → P v → Step host.store request v w → P w) :
    P ((Serve.respond request).runFrom host.start).2 := by
  have steps : Visit.Walks host.store request (Serve.respond request) host.start := Serve.respond_follows rfl
  have kept : ∀ w, Relation.ReflTransGen (Step host.store request) host.start w → P w := by
    intro w steps
    induction steps with
    | refl => exact start
    | tail earlier last ih => exact step _ _ (viewer_eq_of_steps earlier) ih last
  exact kept _ steps

variable (host : Host) (request : Request)

theorem serve_run :
    (serve request).runFrom host =
      match (Serve.respond request).runFrom host.start with
      | (.error fault, visit) => (.error fault, { visit.host with session := host.session })
      | (.ok response, visit) =>
        let story := (visit.host.session.get? "current_story").getD .null
        (.ok {
          response
          shown := visit.shown
          notices := (visit.host.session.get? "_flashes").getD (.list [])
          account := (visit.host.session.get? "_user_id").getD .null
          story := if story.equal host.told then none else some story },
          { visit.host with told := story }) := by
  unfold serve
  rw [runFrom_get_bind]
  rcases (Serve.respond request).runFrom host.start with ⟨fault | response, visit⟩ <;> rfl

theorem serve_store :
    ((serve request).runFrom host).2.store = ((Serve.respond request).runFrom host.start).2.host.store := by
  rw [serve_run]
  rcases (Serve.respond request).runFrom host.start with ⟨fault | response, visit⟩ <;> rfl

theorem serve_casting :
    ((serve request).runFrom host).2.casting = ((Serve.respond request).runFrom host.start).2.host.casting := by
  rw [serve_run]
  rcases (Serve.respond request).runFrom host.start with ⟨fault | response, visit⟩ <;> rfl

/-- The session is the one that the visit leaves, or with a fault the one before. -/
theorem serve_session :
    ((serve request).runFrom host).2.session = ((Serve.respond request).runFrom host.start).2.host.session ∨
      ((serve request).runFrom host).2.session = host.session := by
  rw [serve_run]
  rcases (Serve.respond request).runFrom host.start with ⟨fault | response, visit⟩
  · exact .inr rfl
  · exact .inl rfl

/-- An answer gives the pages of its visit. -/
theorem shown_of_serve {host : Host} {request : Request} {answer : Answer}
    (given : ((serve request).runFrom host).1 = .ok answer) :
    answer.shown = ((Serve.respond request).runFrom host.start).2.shown := by
  rw [serve_run] at given
  rcases ran : (Serve.respond request).runFrom host.start with ⟨fault | response, visit⟩ <;> rw [ran] at given
  · cases given
  · cases given
    rfl

/-- The host after some requests. -/
def after (host : Host) : List Request → Host
  | [] => host
  | request :: rest => ((serve request).runFrom host).2.after rest

theorem after_concat (requests : List Request) (request : Request) :
    host.after (requests ++ [request]) = ((serve request).runFrom (host.after requests)).2 := by
  induction requests generalizing host with
  | nil => rfl
  | cons first rest ih => rw [List.cons_append, after, ih, after]

end Host
end Playhouse.Site
