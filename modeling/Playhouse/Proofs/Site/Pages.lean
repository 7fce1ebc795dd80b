import Playhouse.Proofs.Site.Views

/-!
Pages and notices. To show a page takes the waiting notices out of the session, whether the page can then be made or
not; to leave a notice writes it there. Whatever a request does besides its view are pages and notices only: they
leave the tables, the files, the rest of the session and all that was generated as they were.
-/
namespace Playhouse.Site
open Act Views

variable {query : List Char} {path : String}

theorem Page.ofName?_name (page : Page) : Page.ofName? page.name = some page := by
  cases page <;> decide +kernel

namespace Visit

variable {v w : Visit} {page : Page} {pages : List Page}

/-! ### One page -/

def waiting (v : Visit) : Value := (v.host.session.get? "_flashes").getD (.list [])

/-- The visit once a page was asked for, whatever becomes of the page. -/
def facing (v : Visit) (page : Page) (context : Context) : Visit :=
  { v with
    host := { v.host with session := v.host.session.erase "_flashes" }
    taken := v.waiting
    shown := v.shown ++ [⟨page, v.viewer.map rowId, context⟩] }

/-- Whether a page can be made: the waiting notices are notices, and the page finds all that it looks at. -/
def canShow (v : Visit) (page : Page) (context : Context) : Bool :=
  (checkNotices v.waiting).isOk &&
    (page.content? (fun name => (context.lookup name).map Exhibit.view) v.lookingOn).isSome

theorem takeNotices_run (untaken : v.taken = .null) : takeNotices.runFrom v = (.ok v.waiting,
        { v with host := { v.host with session := v.host.session.erase "_flashes" }, taken := v.waiting }) := by
  unfold takeNotices
  rw [runFrom_get_bind]
  simp only [untaken]
  rfl

variable (context : Context) (message : String)

/-- The first page of a visit, if it has no form. -/
theorem present_run (untaken : v.taken = .null) (formless : page.hasToken = false) :
    ∃ fault, (present page context).runFrom v =
      (if v.canShow page context then .ok () else .error fault, v.facing page context) := by
  have took : takeNotices.runFrom { v with shown := v.shown ++ [⟨page, v.viewer.map rowId, context⟩] } =
      (.ok v.waiting, v.facing page context) := takeNotices_run untaken
  have looking : (v.facing page context).lookingOn = v.lookingOn := rfl
  unfold present
  rw [runFrom_bind, runFrom_modify]
  dsimp only
  rw [runFrom_bind, took]
  dsimp only
  rw [runFrom_bind, runFrom_liftM]
  unfold canShow
  cases checkNotices v.waiting with
  | error fault => exact ⟨fault, rfl⟩
  | ok _ =>
    refine ⟨.unrendered, ?_⟩
    dsimp only
    rw [runFrom_get_bind]
    simp only [looking, formless]
    cases page.content? (fun name => (context.lookup name).map Exhibit.view) v.lookingOn <;> rfl

/-- What goes wrong with a page leaves only the missing number of an error behind: the page for failures is called
with one number too many. -/
theorem displayNamed_run {name : String} (named : Page.ofName? name = some page) (v : Visit) :
    (displayNamed name context).runFrom v =
      (((present page context.own).runFrom v).1.mapError fun _ => .missingKey (.text "error_id"),
        ((present page context.own).runFrom v).2) := by
  unfold displayNamed
  simp only [named, Context.own_overBase]
  rw [runFrom_bind, runFrom_outcome]
  rcases (present page context.own).runFrom v with ⟨fault | _, w⟩
  · dsimp only
    rw [runFrom_get_bind, runFrom_bind, runFrom_liftM, Context.called_failure]
    rfl
  · rfl

variable {context} (plain : context.own = context)
include plain

theorem display_run (untaken : v.taken = .null) (formless : page.hasToken = false) :
    (display page context).runFrom v =
      (if v.canShow page context then .ok () else .error (.missingKey (.text "error_id")), v.facing page context) := by
  obtain ⟨fault, ran⟩ := present_run context untaken formless
  rw [display, displayNamed_run context (Page.ofName?_name page), plain, ran]
  cases v.canShow page context <;> rfl

/-- A view that shows one page at last, or leaves a notice and goes elsewhere. -/
theorem orElse_display_run (route : Route) (untaken : v.taken = .null) (formless : page.hasToken = false) :
    (orElse (do display page context; return .page) message route).runFrom v =
      if v.canShow page context then (.ok .page, v.facing page context)
      else (.ok (.redirect route), { v.facing page context with
        host := { v.host with
          session := (v.host.session.erase "_flashes").set "_flashes"
            (.list [.list [.text "error", .text message]]) } }) := by
  have emptied : ((v.facing page context).host.session.get? (.text "_flashes")).getD (.list []) = .list [] := by
    simp [facing, Fields.get?_erase_self]
  rw [orElse_run, runFrom_bind, display_run plain untaken formless]
  cases v.canShow page context with
  | true => rfl
  | false =>
    simp only [Bool.false_eq_true, ↓reduceIte]
    rw [runFrom_bind, notify_run "error" message emptied]
    rfl

omit plain

variable (context)

/-! ### Pages and notices only -/

/-- All that has changed are the notices and the token in the session and the pages shown, and those are of some
kinds. -/
structure Shows (pages : List Page) (v w : Visit) : Prop where
  shown : ∀ rendering ∈ w.shown, rendering ∈ v.shown ∨ rendering.page ∈ pages
  session : ∀ name, name ≠ "_flashes" → name ≠ "csrf_token" →
    w.host.session.get? (.text name) = v.host.session.get? (.text name)
  store : w.host.store = v.host.store
  tree : w.host.tree = v.host.tree

theorem Shows.refl (pages : List Page) (v : Visit) : Shows pages v v :=
  ⟨fun _ member => .inl member, fun _ _ _ => rfl, rfl, rfl⟩

theorem Shows.trans {u : Visit} (first : Shows pages u v) (second : Shows pages v w) : Shows pages u w := by
  refine ⟨fun rendering member => ?_, fun name notices token => ?_, second.store.trans first.store,
    second.tree.trans first.tree⟩
  · rcases second.shown rendering member with earlier | listed
    · exact first.shown rendering earlier
    · exact .inr listed
  · exact (second.session name notices token).trans (first.session name notices token)

theorem Shows.bind {α β : Type} {act : Act Visit α} {next : α → Act Visit β}
    (first : Shows pages v (act.runFrom v).2) (rest : ∀ a w, Shows pages w ((next a).runFrom w).2) :
    Shows pages v ((act >>= next).runFrom v).2 := by
  rw [runFrom_bind]
  rcases ran : act.runFrom v with ⟨fault | a, w⟩ <;> rw [ran] at first
  · exact first
  · exact first.trans (rest a w)

theorem Shows.outcome {α : Type} {act : Act Visit α} (changed : Shows pages v (act.runFrom v).2) :
    Shows pages v (act.outcome.runFrom v).2 := changed

theorem shows_notify (category message : String) : Shows pages v ((notify category message).runFrom v).2 := by
  unfold notify
  rw [runFrom_get_bind]
  split
  · exact ⟨fun _ member => .inl member, fun name notices _ => Fields.get?_set_of_ne notices _ _, rfl, rfl⟩
  · exact .refl _ _

/-- Work that fails without a trace leaves a notice. -/
theorem shows_orElse {work : Act Visit Response} {fault : Fault} (route : Route)
    (failed : work.runFrom v = (.error fault, v)) : Shows pages v ((orElse work message route).runFrom v).2 := by
  rw [orElse_run, failed]
  exact .bind (shows_notify _ _) fun _ w => .refl _ w

theorem shows_takeNotices : Shows pages v (takeNotices.runFrom v).2 := by
  unfold takeNotices
  rw [runFrom_get_bind]
  split
  · exact ⟨fun _ member => .inl member, fun name notices _ => Fields.get?_erase_of_ne notices _, rfl, rfl⟩
  · exact .refl _ _

theorem shows_present (listed : page ∈ pages) : Shows pages v ((present page context).runFrom v).2 := by
  unfold present
  refine .bind ?_ fun _ w => ?_
  · refine ⟨fun rendering member => ?_, fun _ _ _ => rfl, rfl, rfl⟩
    rcases List.mem_append.mp member with earlier | new
    · exact .inl earlier
    · obtain rfl := List.mem_singleton.mp new
      exact .inr listed
  refine .bind shows_takeNotices fun notices w => ?_
  refine .bind (by rw [runFrom_liftM]; exact .refl _ w) fun _ w => ?_
  rw [runFrom_get_bind]
  split
  · exact .refl _ w
  · split
    · refine ⟨fun _ member => .inl member, fun name _ token => ?_, rfl, rfl⟩
      by_cases tokened : w.host.session.contains "csrf_token" = true
      · simp [onSession, onHost, tokened]
      · simp [onSession, onHost, tokened, token]
    · exact .refl _ w

theorem shows_display (listed : page ∈ pages) : Shows pages v ((display page context).runFrom v).2 := by
  rw [display, displayNamed_run context (Page.ofName?_name page)]
  exact shows_present _ listed

/-- After a form that could not be read, a notice and a page. -/
theorem shows_followUp {outcome : Except Fault Response} {message : String} (listed : page ∈ pages) :
    Shows pages v ((followUp outcome
      (fun fault => if fault.isDatabase then notifyDatabase else notify "error" message) page).runFrom v).2 := by
  unfold followUp
  split
  · exact .refl _ v
  · refine .bind ?_ fun _ w => .bind (shows_display _ listed) fun _ w => .refl _ w
    dsimp only
    split
    · rw [notifyDatabase, runFrom_get_bind]
      exact shows_notify _ _
    · exact shows_notify _ _

/-! ### A page that cannot be made -/

/-- The notices that a page goes through. -/
def seen (v : Visit) : Value :=
  match v.taken with
  | .null => v.waiting
  | notices => notices

end Visit

/-! ### Around a view -/

namespace Serve
open Visit

variable {request : Request} {v : Visit} {pages : List Page}

theorem shows_refuse (status : Nat) (reason : String) (listed : .failure ∈ pages) :
    Shows pages v ((refuse status reason).runFrom v).2 :=
  .bind (shows_display _ listed) fun _ w => .refl _ w

theorem shows_notFound (listed : .notFound ∈ pages) : Shows pages v (notFound.runFrom v).2 :=
  .bind (shows_present _ listed) fun _ w => .refl _ w

variable {route : Route}

theorem shows_askToLogIn :
    Shows pages v ((askToLogIn route path query).runFrom v).2 :=
  .bind (shows_notify _ _) fun _ w => .refl _ w

/-- Once a route is reached, at most the page for failures follows. -/
theorem respond_shows (reached : request.route? = some route) (listed : .failure ∈ pages) :
    Shows pages ((reach route request (readTarget request.target).1 (readTarget request.target).2).runFrom v).2
      ((respond request).runFrom v).2 := by
  unfold respond
  rw [dispatch_of_reached reached, runFrom_bind, runFrom_outcome]
  rcases (reach route request _ _).runFrom v with ⟨fault | response, w⟩
  · exact .bind (shows_present _ listed) fun _ w => .refl _ w
  · exact .refl _ w

/-- What a request has to pass before its view answers it. -/
structure Passes (route : Route) (request : Request) (v : Visit) : Prop where
  allowed : route.rule.methods.contains request.method
  taken : formProblem? v.host request = none
  admitted : route.isProtected = false ∨ v.viewer.isSome

theorem reach_refused (refused : ¬ Passes route request v)
    (listed : .failure ∈ pages) : Shows pages v ((reach route request path query).runFrom v).2 := by
  unfold reach
  rw [runFrom_get_bind]
  dsimp only
  split
  · exact shows_refuse _ _ listed
  split
  · exact shows_refuse _ _ listed
  rename_i untaken
  rw [runFrom_get_bind]
  split
  · exact shows_askToLogIn
  · refine (refused ⟨by simp_all, Option.eq_none_iff_forall_ne_some.2 untaken, ?_⟩).elim
    cases viewer : v.viewer <;> simp_all

/-- A request either passes, and then all that follows its view are pages and notices, or all of it are. -/
theorem respond_cases (reached : request.route? = some route) :
    Passes route request v ∧ Shows [.notFound, .failure] ((follow route request.method request.posted).runFrom v).2
          ((respond request).runFrom v).2 ∨
      ¬ Passes route request v ∧ Shows [.notFound, .failure] v ((respond request).runFrom v).2 := by
  have last : Shows [.notFound, .failure] _ ((respond request).runFrom v).2 := respond_shows reached (by simp)
  by_cases passes : Passes route request v
  · refine .inl ⟨passes, Shows.trans ?_ last⟩
    rw [reach_passed passes.taken passes.allowed passes.admitted]
    rcases (follow route request.method request.posted).runFrom v with ⟨fault | response, w⟩
    · split
      · rename_i ran
        cases ran
      · rename_i ran
        cases ran
        exact shows_notFound (by simp)
      · rename_i ran
        cases ran
        exact .refl _ _
    · exact .refl _ _
  · exact .inr ⟨passes, (reach_refused passes (by simp)).trans last⟩

end Serve
end Playhouse.Site
