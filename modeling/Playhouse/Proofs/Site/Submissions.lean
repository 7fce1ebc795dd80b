import Playhouse.Proofs.Site.Pages

/-!
The page of a hunt. It lists the tasks of a scenario, each with the visitor's own submissions. To leave out the
submissions of others detaches them from their task, and the next question to the tables trips over that: with a
submission of another account for any task but the last, there is no page at all.
-/
namespace Playhouse.Site
open Act List Serve

/-- A submission is for a task. -/
def IsFor (task row : Fields) : Prop := (cell row "task_id").equal (.int (rowId task)) = true

instance (task row : Fields) : Decidable (IsFor task row) := inferInstanceAs (Decidable (_ = true))

instance (account row : Fields) : Decidable (BelongsTo account row) := inferInstanceAs (Decidable (_ = true))

/-- A submission is not older than another. One without a date is older than any that has one. -/
def NotOlder (a b : Fields) : Prop := ∀ n ∈ dateIn b "submitted_at", ∃ m ∈ dateIn a "submitted_at", n ≤ m

/-- A list has the submissions of an account for a task, all of them, and the newest first. -/
structure ListsOwn (account : Fields) (submissions : List Fields) (task : Fields) (own : List Fields) : Prop where
  all : own.Perm (submissions.filter fun row => IsFor task row ∧ BelongsTo account row)
  newestFirst : own.Pairwise NotOlder

/-- The list that the tables give. -/
def ownSubmissions (account : Fields) (submissions : List Fields) (task : Fields) : List Fields :=
  ((submissions.mergeSort fun a b => rowId a ≤ rowId b).filter fun row =>
    IsFor task row ∧ BelongsTo account row).mergeSort Views.isNewer

theorem isNewer_iff (a b : Fields) : Views.isNewer a b = true ↔ NotOlder a b := by
  unfold Views.isNewer NotOlder
  cases dateIn a "submitted_at" <;> cases dateIn b "submitted_at" <;> simp

theorem listsOwn_ownSubmissions (account : Fields) (submissions : List Fields) (task : Fields) :
    ListsOwn account submissions task (ownSubmissions account submissions task) := by
  refine ⟨(mergeSort_perm _ _).trans ((mergeSort_perm _ _).filter _), ?_⟩
  refine (pairwise_mergeSort ?_ ?_ _).imp fun {a b} newer => (isNewer_iff a b).1 newer
  · intro a b c first second
    rw [isNewer_iff] at first second ⊢
    intro n dated
    obtain ⟨m, known, most⟩ := second n dated
    obtain ⟨k, found, more⟩ := first m known
    exact ⟨k, found, Int.le_trans most more⟩
  · intro a b
    rw [Bool.or_eq_true, isNewer_iff, isNewer_iff]
    unfold NotOlder
    cases dateIn a "submitted_at" <;> cases dateIn b "submitted_at" <;> simp [Int.le_total]

/-- No other account has a submission for any task but the last. -/
def Undisturbed (account : Fields) (submissions tasks : List Fields) : Prop :=
  ∀ task ∈ tasks.dropLast, ∀ row ∈ submissions, IsFor task row → BelongsTo account row

instance (account : Fields) (submissions tasks : List Fields) : Decidable (Undisturbed account submissions tasks) :=
  inferInstanceAs (Decidable (∀ task ∈ tasks.dropLast, ∀ row ∈ submissions, IsFor task row → BelongsTo account row))

/-- The context of the page of a hunt. -/
def huntContext (account scenario : Fields) (submissions tasks : List Fields) : Context :=
  [("scenario", .row .scenario scenario),
    ("tasks", .tasks (tasks.map fun task => (task, ownSubmissions account submissions task)))]

namespace Visit
open Views

variable {v : Visit} {account scenario : Fields} {submissions tasks : List Fields} {s : Nat}

/-! ### Gathering -/

theorem undisturbed_cons {task : Fields} :
    Undisturbed account submissions (task :: tasks) ↔
      (tasks = [] ∨ ∀ row ∈ submissions, IsFor task row → BelongsTo account row) ∧
        Undisturbed account submissions tasks := by
  unfold Undisturbed
  cases tasks with
  | nil => simp
  | cons next rest => simp [dropLast]

theorem left_out_iff {task : Fields} :
    (((submissions.mergeSort fun a b => rowId a ≤ rowId b).filter fun row =>
        (cell row "task_id").equal (.int (rowId task))).any
        fun row => !(cell row "user_id").equal (.int (rowId account))) = false ↔
      ∀ row ∈ submissions, IsFor task row → BelongsTo account row := by
  simp [IsFor, BelongsTo]

theorem kept_eq (task : Fields) :
    (((submissions.mergeSort fun a b => rowId a ≤ rowId b).filter fun row =>
        (cell row "task_id").equal (.int (rowId task))).filter
        fun row => (cell row "user_id").equal (.int (rowId account))).mergeSort isNewer =
      ownSubmissions account submissions task := by
  rw [ownSubmissions, filter_filter]
  refine congrArg (mergeSort · isNewer) (filter_congr fun row _ => Bool.eq_iff_iff.mpr ?_)
  simp [IsFor, BelongsTo, and_comm]

/-- Gathering over the tasks still to come, when the last one has or has not lost submissions of others. -/
theorem gather_outcome (asked : v.host.store.history .submission = .ok submissions) (detached : Bool)
    (tasks : List Fields) :
    (gather (rowId account) detached tasks).runFrom v =
      (if (tasks = [] ∨ detached = false) ∧ Undisturbed account submissions tasks then
        .ok (tasks.map fun task => (task, ownSubmissions account submissions task))
      else .error (.database .constraint), v) := by
  induction tasks generalizing detached with
  | nil => simp [gather, Undisturbed]
  | cons task rest ih =>
    unfold gather
    cases detached with
    | true => simp
    | false =>
      simp only [Bool.false_eq_true, ↓reduceIte, runFrom_bind, ask_run, Store.rowsWith_of_history asked, ih, kept_eq,
        left_out_iff, ← undisturbed_cons]
      by_cases undisturbed : Undisturbed account submissions (task :: rest) <;> simp [undisturbed]

theorem hunt_run (viewer : v.viewer = some account) (known : v.host.store.find .scenario s = .ok (some scenario))
    (listed : v.host.store.rowsWith .task "scenario_id" (.int s) = .ok tasks)
    (asked : v.host.store.history .submission = .ok submissions) :
    (hunt s).runFrom v =
      if Undisturbed account submissions tasks then
        (orElse (do display .hunt (huntContext account scenario submissions tasks); return .page)
          "Failed to load scavenger hunt." .scenarios).runFrom v
      else
        (orElse (throw (.database .constraint)) "Failed to load scavenger hunt." .scenarios).runFrom v := by
  unfold hunt
  rw [orElse_run, orElse_run, orElse_run]
  simp only [runFrom_bind, ask_run, known, listed, found, runFrom_pure, member_run, viewer, gather_outcome asked]
  by_cases undisturbed : Undisturbed account submissions tasks <;> simp [undisturbed, huntContext]

/-! ### The page -/

/-- What the page of a hunt needs of a task and of the visitor's submissions for it: a number for the form where
there is none, and otherwise a path and a score that can be written for each. -/
def CanList (task : Fields) (own : List Fields) : Prop :=
  (own = [] → (Page.number? (task.get? (.text "id"))).isSome) ∧ ∀ row ∈ own, (Page.submission? (.record row)).isSome

theorem isSome_forM {α : Type} (check : α → Option Unit) (items : List α) :
    (items.forM check).isSome ↔ ∀ item ∈ items, (check item).isSome := by
  induction items with
  | nil => simp
  | cons item rest ih =>
    rw [forM_eq_forM] at ih
    cases checked : check item <;> simp [checked, ih]

theorem task?_iff (task : Fields) (own : List Fields) :
    (Page.task? (.record (task.set "submissions" (.list (own.map .record))))).isSome ↔ CanList task own := by
  unfold Page.task? CanList
  simp only [Value.field?_record, Fields.get?_set_self]
  cases own with
  | nil => cases numbered : Page.number? (task.get? (.text "id")) <;> simp [Page.isTrue, Value.truthy, numbered]
  | cons row rest =>
    change (((row :: rest).map Value.record).forM Page.submission?).isSome ↔ _
    rw [isSome_forM]
    simp

theorem hunt?_iff (scenario : Fields) (gathered : List (Fields × List Fields)) :
    (Page.hunt? fun name => (lookup name [("scenario", Exhibit.row .scenario scenario),
        ("tasks", .tasks gathered)]).map Exhibit.view).isSome ↔ ∀ listed ∈ gathered, CanList listed.1 listed.2 := by
  cases gathered with
  | nil => exact ⟨fun _ _ absent => (not_mem_nil absent).elim, fun _ => rfl⟩
  | cons first rest =>
    change (((first :: rest).map fun listed : Fields × List Fields =>
      Value.record (listed.1.set "submissions" (.list (listed.2.map .record)))).forM Page.task?).isSome ↔ _
    rw [isSome_forM, forall_mem_map]
    simp only [task?_iff]

theorem canShow_hunt_iff :
    v.canShow .hunt (huntContext account scenario submissions tasks) ↔
      (checkNotices v.waiting).isOk ∧ ∀ task ∈ tasks, CanList task (ownSubmissions account submissions task) := by
  rw [canShow, Bool.and_eq_true, Page.content?, huntContext, hunt?_iff]
  simp

end Visit

namespace Host

/-- A member asks for the hunt of a scenario, in a site that has the tables for it. -/
structure AsksForHunt (host : Host) (request : Request) (account scenario : Fields)
    (submissions tasks : List Fields) : Prop where
  signedIn : Site.account? host.store host.session = some account
  method : request.method = .get
  route : ∃ s : Nat, request.route? = some (.hunt s) ∧ host.store.find .scenario s = .ok (some scenario) ∧
    host.store.rowsWith .task "scenario_id" (.int s) = .ok tasks
  submissions : host.store.history .submission = .ok submissions

variable {host : Host} {request : Request} {account scenario : Fields} {submissions tasks : List Fields}

/-- Without submissions of others before the last task, the page is asked for with all tasks. -/
theorem hunt_of_undisturbed (asks : host.AsksForHunt request account scenario submissions tasks)
    (undisturbed : Undisturbed account submissions tasks) :
    let context := huntContext account scenario submissions tasks
    ∃ response visit, (respond request).runFrom host.start = (.ok response, visit) ∧
      visit.shown = [⟨.hunt, some (rowId account), context⟩] ∧ visit.host.store = host.store ∧
      (response = .page ↔ host.start.canShow .hunt context) := by
  intro context
  obtain ⟨s, reached, known, listed⟩ := asks.route
  have viewer : host.start.viewer = some account := asks.signedIn
  have admitted : host.start.viewer.isSome := by rw [viewer]; rfl
  have viewed : (Views.hunt s).runFrom host.start = _ := Visit.hunt_run viewer known listed asks.submissions
  rw [if_pos undisturbed, Visit.orElse_display_run _ rfl _ rfl rfl] at viewed
  have shown : (host.start.facing .hunt context).shown = [⟨.hunt, some (rowId account), context⟩] := by
    rw [Visit.facing, viewer]
    rfl
  cases makes : host.start.canShow .hunt context with
  | true =>
    rw [makes, if_pos rfl] at viewed
    exact ⟨_, _, respond_viewed reached asks.method rfl admitted viewed, shown, rfl, by simp⟩
  | false =>
    rw [makes, if_neg (by decide)] at viewed
    exact ⟨_, _, respond_viewed reached asks.method rfl admitted viewed, shown, rfl,
      by simp [Response.redirect, Response.page]⟩

/-- With one, there is no page of a hunt. -/
theorem no_hunt_of_disturbed (asks : host.AsksForHunt request account scenario submissions tasks)
    (disturbed : ¬ Undisturbed account submissions tasks) :
    Visit.Shows [.notFound, .failure] host.start ((respond request).runFrom host.start).2 := by
  obtain ⟨s, reached, known, listed⟩ := asks.route
  have viewed : (Views.hunt s).runFrom host.start = _ :=
    Visit.hunt_run asks.signedIn known listed asks.submissions
  rw [if_neg disturbed] at viewed
  rcases respond_cases (v := host.start) reached with ⟨passes, changed⟩ | ⟨-, changed⟩
  · rw [Views.follow, viewed] at changed
    exact (Visit.shows_orElse _ _ (runFrom_throw _ _)).trans changed
  · exact changed

/-- A member asks for the hunt of a scenario that is there. The tables stay as they are. The page is asked for exactly
if no other account has a submission for any task but the last, and then with all tasks, each with the member's own
submissions, newest first; it is shown exactly if also the waiting notices and these submissions can be written. -/
theorem hunt_shown_iff_undisturbed (host : Host) (request : Request) (account scenario : Fields)
    (submissions tasks : List Fields) (asks : host.AsksForHunt request account scenario submissions tasks) :
    let served := (serve request).runFrom host
    served.2.store = host.store ∧
    ((∃ rendering ∈ ((Serve.respond request).runFrom host.start).2.shown, rendering.page = .hunt) ↔
      Undisturbed account submissions tasks) ∧
    ∃ lists : List (Fields × List Fields), lists.map Prod.fst = tasks ∧
      (∀ listed ∈ lists, ListsOwn account submissions listed.1 listed.2) ∧
      ((∃ answer, served.1 = .ok answer ∧ answer.response = .page ∧ answer.shown =
          [⟨.hunt, some (rowId account), [("scenario", .row .scenario scenario), ("tasks", .tasks lists)]⟩]) ↔
        Undisturbed account submissions tasks ∧ (checkNotices host.start.waiting).isOk ∧
          ∀ listed ∈ lists, Visit.CanList listed.1 listed.2) := by
  intro served
  suffices shown : served.2.store = host.store ∧
      ((∃ rendering ∈ ((Serve.respond request).runFrom host.start).2.shown, rendering.page = .hunt) ↔
        Undisturbed account submissions tasks) ∧
      ((∃ answer, served.1 = .ok answer ∧ answer.response = .page ∧
          answer.shown = [⟨.hunt, some (rowId account), huntContext account scenario submissions tasks⟩]) ↔
        Undisturbed account submissions tasks ∧ (checkNotices host.start.waiting).isOk ∧
          ∀ task ∈ tasks, Visit.CanList task (ownSubmissions account submissions task)) by
    refine ⟨shown.1, shown.2.1, tasks.map fun task => (task, ownSubmissions account submissions task),
      by rw [List.map_map]; exact List.map_id tasks,
      List.forall_mem_map.2 fun task _ => listsOwn_ownSubmissions account submissions task, ?_⟩
    rw [List.forall_mem_map]
    exact shown.2.2
  by_cases undisturbed : Undisturbed account submissions tasks
  · obtain ⟨response, visit, ran, shown, store, made⟩ := hunt_of_undisturbed asks undisturbed
    rw [Visit.canShow_hunt_iff] at made
    have answered : ∃ answer, served.1 = .ok answer ∧ answer.response = response ∧ answer.shown = visit.shown := by
      unfold served
      rw [serve_run, ran]
      exact ⟨_, rfl, rfl, rfl⟩
    obtain ⟨answer, ok, responded, pages⟩ := answered
    refine ⟨?_, ⟨fun _ => undisturbed, fun _ => ?_⟩, ?_⟩
    · rw [serve_store, ran]
      exact store
    · rw [ran, shown]
      exact ⟨_, List.mem_singleton_self _, rfl⟩
    · simp only [undisturbed, true_and, ← made]
      constructor
      · rintro ⟨given, same, listed, -⟩
        obtain rfl : answer = given := Except.ok.inj (ok.symm.trans same)
        exact responded.symm.trans listed
      · exact fun listed => ⟨answer, ok, responded.trans listed, pages.trans shown⟩
  · have quiet := no_hunt_of_disturbed asks undisturbed
    have none_shown : ∀ rendering ∈ ((Serve.respond request).runFrom host.start).2.shown, rendering.page ≠ .hunt := by
      intro rendering member hunt
      rcases quiet.shown rendering member with absent | listed
      · cases absent
      · rw [hunt] at listed
        revert listed
        decide
    refine ⟨?_, ⟨?_, fun holds => (undisturbed holds).elim⟩, ⟨?_, fun holds => (undisturbed holds.1).elim⟩⟩
    · rw [serve_store]
      exact quiet.store
    · rintro ⟨rendering, member, hunt⟩
      exact (none_shown rendering member hunt).elim
    · rintro ⟨answer, ok, -, pages⟩
      rw [← shown_of_serve ok, pages] at none_shown
      exact (none_shown _ (List.mem_singleton_self _) rfl).elim

/-- A hunt of two tasks, two submissions of Ann for the first, and a submission of another account for one of the
tasks. If it is for the first, Ann gets no page; if it is for the last, Ann gets the page with both tasks, and with
the submission of the later date first, whichever of the two came first. -/
theorem hunt_lost_to_first_task :
    let ann : Fields := [("id", .int 1), ("email", .text "ann@x.org")]
    let park : Fields := [("id", .int 1), ("title", .text "Hunt")]
    let task (n : Int) : Fields := [("id", .int n), ("scenario_id", .int 1)]
    let submission (id task user date : Int) : Fields := [("id", .int id), ("task_id", .int task),
      ("user_id", .int user), ("photo_path", .text "a.jpg"), ("submitted_at", .int date)]
    let host (n : Int) : Host :=
      { store := { tables := [(.user, { rows := [ann] }), (.scenario, { rows := [park] }),
          (.task, { rows := [task 1, task 2] }),
          (.submission, { rows := [submission 1 1 1 9, submission 2 1 1 5, submission 3 n 2 7] })] }
        session := [("_user_id", .text "1")], now := ⟨0⟩, tag := "", reference := "" }
    let request : Request := { method := .get, target := "/scavenger_hunt/1" }
    (∀ rendering ∈ ((Serve.respond request).runFrom (host 1).start).2.shown, rendering.page ≠ .hunt) ∧
    ∃ answer, ((serve request).runFrom (host 2)).1 = .ok answer ∧ answer.response = .page ∧
      answer.shown = [⟨.hunt, some 1, [("scenario", .row .scenario park),
        ("tasks", .tasks [(task 1, [submission 1 1 1 9, submission 2 1 1 5]), (task 2, [])])]⟩] := by
  intro ann park task submission host request
  have signedIn (n : Int) : Site.account? (host n).store (host n).session = some ann :=
    Store.account?_eq_some_iff.2 ⟨_, rfl, 1, by decide +kernel, rfl⟩
  have listed (n : Int) : (host n).store.rowsWith .task "scenario_id" (.int 1) = .ok [task 1, task 2] := by
    have history : (host n).store.history .task = .ok [task 1, task 2] := rfl
    have sorted : [task 1, task 2].Pairwise fun a b => decide (rowId a ≤ rowId b) := by decide +kernel
    rw [Store.rowsWith_of_history history, List.mergeSort_of_pairwise sorted]
    rfl
  have asks (n : Int) : (host n).AsksForHunt request ann park
      [submission 1 1 1 9, submission 2 1 1 5, submission 3 n 2 7] [task 1, task 2] :=
    ⟨signedIn n, rfl, ⟨1, by decide +kernel, rfl, listed n⟩, rfl⟩
  obtain ⟨-, lost, -⟩ := hunt_shown_iff_undisturbed (host 1) request ann park _ _ (asks 1)
  obtain ⟨-, -, lists, tasks, own, shown⟩ := hunt_shown_iff_undisturbed (host 2) request ann park _ _ (asks 2)
  refine ⟨fun rendering member hunt => ?_, ?_⟩
  · have undisturbed := lost.mp ⟨rendering, member, hunt⟩
    revert undisturbed
    decide +kernel
  obtain ⟨⟨_, first⟩, others, rfl, rfl, remaining⟩ := List.map_eq_cons_iff.1 tasks
  obtain ⟨⟨_, second⟩, rest, rfl, rfl, ended⟩ := List.map_eq_cons_iff.1 remaining
  obtain rfl := List.map_eq_nil_iff.1 ended
  obtain ⟨⟨all, newest⟩, single⟩ := List.forall_mem_cons.1 own
  have nothing := (List.forall_mem_singleton.1 single).all
  have none : second = [] := by
    have : ([submission 1 1 1 9, submission 2 1 1 5, submission 3 2 2 7].filter fun row =>
        IsFor (task 2) row ∧ BelongsTo ann row) = [] := rfl
    exact List.perm_nil.1 (this ▸ nothing)
  have both : first = [submission 1 1 1 9, submission 2 1 1 5] := by
    have : ([submission 1 1 1 9, submission 2 1 1 5, submission 3 2 2 7].filter fun row =>
        IsFor (task 1) row ∧ BelongsTo ann row) = [submission 1 1 1 9, submission 2 1 1 5] := rfl
    have older : ¬ NotOlder (submission 2 1 1 5) (submission 1 1 1 9) :=
      fun newer => Bool.false_ne_true ((isNewer_iff _ _).2 newer)
    refine List.Perm.eq_of_pairwise (fun a b member other before after => ?_) newest ?_ (this ▸ all)
    · simp only [this, all.mem_iff, List.mem_cons, List.not_mem_nil, or_false] at member other
      rcases member with rfl | rfl <;> rcases other with rfl | rfl
      · rfl
      · exact (older after).elim
      · exact (older before).elim
      · rfl
    · exact List.pairwise_pair.2 ((isNewer_iff _ _).1 rfl)
  subst none both
  have ready : ∀ listed ∈ [(task 1, [submission 1 1 1 9, submission 2 1 1 5]), (task 2, [])],
      Visit.CanList listed.1 listed.2 := by
    refine List.forall_mem_cons.2 ⟨⟨nofun, ?_⟩, List.forall_mem_singleton.2 ⟨fun _ => rfl, nofun⟩⟩
    exact List.forall_mem_cons.2 ⟨rfl, List.forall_mem_singleton.2 rfl⟩
  exact shown.mpr ⟨by decide +kernel, by decide +kernel, ready⟩

end Host
end Playhouse.Site
