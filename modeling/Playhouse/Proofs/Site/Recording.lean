import Playhouse.Proofs.Photo.Folder
import Playhouse.Proofs.Photo.Threshold
import Playhouse.Proofs.Site.Registration

/-!
Recording what is handed in. A photo for a task leaves one complete row or none, and no other table changes: the row is
there exactly if the photo could be stored and the table takes it. Whatever goes wrong ends in a redirection.
-/
namespace Playhouse
open List Photo

namespace Photo

variable {lens : Lens}

/-- Every object is seen with a number for its score. -/
def Lens.ScoresObjects (lens : Lens) : Prop :=
  ∀ sighting ∈ lens.objects, ∀ score, sighting.score = some score → score.number?.isSome

theorem mem_of_filterMapM {α β : Type} {select : α → Option (Option β)} {items : List α} {kept : List β}
    (selected : items.filterMapM select = some kept) : ∀ b ∈ kept, ∃ a ∈ items, select a = some (some b) := by
  induction items generalizing kept with
  | nil =>
    obtain rfl : [] = kept := by simpa using selected
    simp
  | cons first rest ih =>
    rw [filterMapM_cons] at selected
    obtain ⟨chosen, choice, selected⟩ := Option.bind_eq_some_iff.1 selected
    cases chosen with
    | none =>
      intro b member
      obtain ⟨a, inside, picked⟩ := ih selected b member
      exact ⟨a, mem_cons_of_mem _ inside, picked⟩
    | some b =>
      obtain ⟨others, listed, same⟩ := Option.bind_eq_some_iff.1 selected
      obtain rfl : b :: others = kept := Option.some.inj same
      refine forall_mem_cons.2 ⟨⟨first, mem_cons_self, choice⟩, fun c member => ?_⟩
      obtain ⟨a, inside, picked⟩ := ih listed c member
      exact ⟨a, mem_cons_of_mem _ inside, picked⟩

theorem sureness_number (scored : lens.ScoresObjects) {required : List Value} {all : Bool}
    {sureness : Value} (searched : objects? required lens.objects = some (all, sureness)) :
    sureness.number?.isSome := by
  obtain ⟨found, -, searched⟩ := Option.bind_eq_some_iff.1 searched
  obtain ⟨hits, counted, least⟩ := Option.bind_eq_some_iff.1 searched
  have numbers : ∀ score ∈ hits, score.number?.isSome := by
    intro score member
    obtain ⟨sighting, inside, picked⟩ := mem_of_filterMapM counted score member
    obtain ⟨named, -, picked⟩ := Option.bind_eq_some_iff.1 picked
    cases named with
    | false => cases picked
    | true =>
      obtain ⟨seen, score_eq, same⟩ := Option.bind_eq_some_iff.1 picked
      cases same
      exact scored sighting inside score score_eq
  cases hits with
  | nil =>
    cases least
    rfl
  | cons score rest =>
    obtain ⟨best, compared, number⟩ := (Value.extremes_number numbers).1
    simp only [compared, Option.bind_eq_bind, Option.bind_some, Option.pure_def, Option.some.injEq,
      Prod.mk.injEq] at least
    exact least.2 ▸ number

/-- The confidence of a verdict is a number if the objects are seen with numbers: what cannot be compared with them is
not judged. -/
theorem confidence_number (scored : lens.ScoresObjects) (path : String) (demand : Demand)
    (tree : FileTree) : ∃ x, (verify lens path demand tree).1.confidence.number? = some x := by
  rw [← Option.isSome_iff_exists]
  unfold verify
  split
  swap
  · rfl
  cases judged : judge? lens demand with
  | none => rfl
  | some verdict =>
    obtain ⟨-, required, found, place, confidence, -, searched, -, least, rfl⟩ := judge?_iff.1 judged
    have number := sureness_number scored searched
    obtain ⟨best, compared, number_best⟩ :=
      (Value.extremes_number (forall_mem_cons.2 ⟨number, Value.numbers_of_least? least number⟩)).1
    exact Option.some.inj (compared.symm.trans least) ▸ number_best

end Photo

namespace Site
open Act

variable {uploads : List (String × Upload)} {back : Option Fields} {tree : FileTree} {act : Act Visit Response}
  {posted : Posted}

namespace Store

/-- The values of a new submission. -/
def submissionValues (task user : Int) (path : String) (verdict : Verdict) : Fields :=
  [("task_id", .int task), ("user_id", .int user), ("photo_path", .text path),
    ("confidence_score", verdict.confidence), ("is_verified", .bool verdict.confirmed)]

/-- The row of a submission with a score. -/
def submissionRow (now : Moment) (id task user : Int) (path : String) (score : Number) (confirmed : Bool) : Fields :=
  [("id", .int id), ("task_id", .int task), ("user_id", .int user), ("photo_path", .text path),
    ("confidence_score", .float score.toFloat), ("is_verified", .bool confirmed), ("submitted_at", .int now.micros),
    ("verified_at", .null), ("location_data", .null), ("pose_data", .null)]

section
variable {now : Moment} {task user : Int} {path : String} {verdict : Photo.Verdict} {score : Number}

theorem rowFor_submission (task_fits : fits task = true) (user_fits : fits user = true)
    (number : verdict.confidence.number? = some score) (id : Int) :
    rowFor now id .submission (submissionValues task user path verdict) =
      .ok (submissionRow now id task user path score verdict.confirmed) := by
  have columns : Model.submission.columns = { name := "task_id", kind := .integer, required := true } ::
      { name := "user_id", kind := .integer, required := true } :: Model.submission.columns.drop 2 := rfl
  have kept {n : Int} (small : fits n = true) : Kind.integer.store (.int n) = .ok (.int n) := if_pos small
  have kept_task : Kind.integer.store ((given (submissionValues task user path verdict)
    { name := "task_id", kind := .integer, required := true }).getD .null) = .ok (.int task) := kept task_fits
  have kept_user : Kind.integer.store ((given (submissionValues task user path verdict)
    { name := "user_id", kind := .integer, required := true }).getD .null) = .ok (.int user) := kept user_fits
  rw [rowFor, columns]
  simp only [mapM_cons, standardAt, Bool.false_eq_true, ↓reduceIte, kept_task, kept_user]
  obtain ⟨confirmed, confidence⟩ := verdict
  cases confidence with
  | bool | int | float =>
    cases number
    rfl
  | _ => cases number

theorem isShort_submissionRow (id : Int) (confirmed : Bool) :
    isShort .submission (submissionRow now id task user path score confirmed) = true ↔ path.length ≤ 255 := by
  have only : isShort .submission (submissionRow now id task user path score confirmed) =
      (decide (path.length ≤ 255) && true) := rfl
  rw [only, Bool.and_true, decide_eq_true_eq]

/-- The table of submissions is there and takes new rows, and the path of a photo is not too long for it. -/
def TakesSubmissions (store : Store) (path : String) (table : Table) : Prop :=
  store.table? .submission = some table ∧ table.refused.contains .insert = false ∧
    (table.strict = true → path.length ≤ 255)

theorem insert?_submission (task_fits : fits task = true) (user_fits : fits user = true)
    (number : verdict.confidence.number? = some score) (store : Store) :
    (∃ table id, store.TakesSubmissions path table ∧
        insert? .submission (submissionValues task user path verdict) store =
          .ok (id, store.put .submission { table with
            rows := table.rows ++
              [submissionRow store.clock (nextId table.rows) task user path score verdict.confirmed] })) ∨
      (∀ table, ¬store.TakesSubmissions path table) ∧
        ∃ problem, insert? .submission (submissionValues task user path verdict) store = .error problem := by
  have made := @rowFor_submission store.clock task user path verdict score task_fits user_fits number
  have admitted : (Model.submission.columns.all fun column =>
      column.kind.admits ((given (submissionValues task user path verdict) column).getD .null)) = true := by
    obtain ⟨confirmed, confidence⟩ := verdict
    cases confirmed <;> cases confidence <;> rfl
  have filled : isFilled .submission (submissionValues task user path verdict) = true := rfl
  unfold insert?
  simp only [admitted, bind, Except.bind]
  cases known : store.table? .submission with
  | none => exact .inr ⟨fun table takes => by simp [TakesSubmissions, known] at takes, .noTable, rfl⟩
  | some table =>
    have numbered : idFor (submissionValues task user path verdict) table.rows = .ok (nextId table.rows) := rfl
    have distinct : isDistinct .submission
        (submissionRow store.clock (nextId table.rows) task user path score verdict.confirmed) table.rows = true := by
      refine all_eq_true.2 fun old member => ?_
      have above := rowId_lt_nextId member
      have apart : (rowId old != nextId table.rows) = true := bne_iff_ne.2 (by omega)
      exact Bool.and_eq_true_iff.2 ⟨apart, rfl⟩
    have short := @isShort_submissionRow store.clock task user path score (nextId table.rows) verdict.confirmed
    have same {other : Table} (takes : store.TakesSubmissions path other) : table = other :=
      Option.some.inj (known.symm.trans takes.1)
    simp only [numbered, made, filled, distinct]
    cases refuses : table.refused.contains .insert with
    | true =>
      refine .inr ⟨fun other takes => ?_, .constraint, rfl⟩
      obtain rfl := same takes
      exact Bool.false_ne_true (takes.2.1.symm.trans refuses)
    | false =>
      by_cases brief : table.strict = true → path.length ≤ 255
      · have kept : (table.strict && !isShort .submission (submissionRow store.clock (nextId table.rows) task user path
            score verdict.confirmed)) = false := by
          cases strict : table.strict <;> simp_all
        rw [kept]
        exact .inl ⟨table, _, ⟨known, refuses, brief⟩, rfl⟩
      · obtain ⟨strict, long⟩ := Classical.not_imp.1 brief
        have refused : isShort .submission (submissionRow store.clock (nextId table.rows) task user path
            score verdict.confirmed) = false := by
          rwa [← Bool.not_eq_true, short]
        refine .inr ⟨fun other takes => ?_, .badValue, ?_⟩
        · obtain rfl := same takes
          exact brief takes.2.2
        · rw [refused, strict]
          rfl

end
end Store

open Store

/-! ### Handing in -/

/-- What a task asks of a photo. -/
def demandOf (task : Fields) : Demand where
  objects := cell task "required_objects"
  confidence := cell task "object_confidence"
  pose := cell task "required_pose"
  place := cell task "required_location"

namespace Host

/-- A photo with a name comes for a task that is there, and can be stored. -/
structure Sends (host : Host) (uploads : List (String × Upload)) (t : Nat) (task : Fields) (path : String)
    (tree : FileTree) : Prop where
  task : host.store.find .task t = .ok (some task)
  photo : ∃ photo, uploads.lookup "photo" = some photo ∧ photo.filename.truthy = true ∧
    (save host.now host.tag photo).runFrom host.tree = (.ok path, tree)

theorem sends_of_isOk {host : Host} {t : Nat} {task : Fields}
    {photo : Upload} (found : host.store.find .task t = .ok (some task))
    (sent : uploads.lookup "photo" = some photo) (named : photo.filename.truthy = true)
    (stored : ((save host.now host.tag photo).runFrom host.tree).1.isOk = true) :
    ∃ path tree, host.Sends uploads t task path tree := by
  rcases saved : (save host.now host.tag photo).runFrom host.tree with ⟨fault | path, tree⟩
  · rw [saved] at stored
    cases stored
  · exact ⟨path, tree, found, photo, sent, named, saved⟩

theorem Sends.unique {host : Host} {t : Nat} {task task' : Fields} {path path' : String} {tree tree' : FileTree}
    (one : host.Sends uploads t task path tree) (other : host.Sends uploads t task' path' tree') :
    task = task' ∧ path = path' ∧ tree = tree' := by
  obtain ⟨found, photo, sent, -, saved⟩ := one
  obtain ⟨found', photo', sent', -, saved'⟩ := other
  cases found.symm.trans found'
  cases sent.symm.trans sent'
  cases saved.symm.trans saved'
  exact ⟨rfl, rfl, rfl⟩

/-- The verdict on a stored photo. -/
def verdict (host : Host) (task : Fields) (path : String) (tree : FileTree) : Verdict :=
  (verify host.lens path (demandOf task) tree).1

/-- What is to be recorded of a stored photo. -/
def submission (host : Host) (account task : Fields) (path : String) (tree : FileTree) : Fields :=
  submissionValues (rowId task) (rowId account) path (host.verdict task path tree)

end Host

theorem Photo.isDatabase_of_saved {now : Moment} {tag : String} {upload : Upload} {fault : Fault}
    {after : FileTree} (saved : Saved now tag upload tree (.error fault, after)) : fault.isDatabase = false := by
  cases saved with
  | unready cause | fails cause => exact cause
  | tears => rfl

namespace Visit
open Views

variable {v : Visit} {account : Fields}

/-- A new row is refused and nothing else happens, or it is entered and the rest goes on. -/
theorem insert_then {α : Type} (model : Model) (values : Fields) (rest : Act Visit α) (v : Visit) :
    (∃ problem, insert? model values v.host.store = .error problem ∧
        (do let _ ← onStore (insert model values); rest).runFrom v = (.error (.database problem), v)) ∨
      ∃ id store, insert? model values v.host.store = .ok (id, store) ∧
        (do let _ ← onStore (insert model values); rest).runFrom v =
          rest.runFrom { v with host := { v.host with store } } := by
  rw [runFrom_bind, onStore, runFrom_on, insert_run]
  rcases insert? model values v.host.store with problem | ⟨id, store⟩
  · exact .inl ⟨problem, rfl, rfl⟩
  · exact .inr ⟨id, store, rfl, rfl⟩

/-- The notice on a verdict. -/
def announce (verdict : Verdict) : Act Visit Unit :=
  if verdict.confirmed then notify "success" "Task completed successfully!"
  else notify "warning" "Photo verification failed. Please try again."

variable {photo : Photo.Upload}

theorem record_saved (viewer : v.viewer = some account) (task : Fields) {path : String} {files : FileTree}
    (saved : (save v.host.now v.host.tag photo).runFrom v.host.tree = (.ok path, files)) :
    ∃ tree, (record task photo).runFrom v =
      (do let _ ← onStore (insert .submission (v.host.submission account task path files))
          announce (v.host.verdict task path files) : Act Visit Unit).runFrom
        { v with host := { v.host with tree } } := by
  have who (tree : FileTree) : member.runFrom { v with host := { v.host with tree } } =
      (.ok account, { v with host := { v.host with tree } }) := by
    rw [member_run, viewer]
  unfold record
  rw [runFrom_get_bind]
  rw [runFrom_bind, onTree, runFrom_on, saved]
  dsimp only
  rw [runFrom_get_bind]
  generalize looked : verify v.host.lens path _ files = result
  obtain ⟨verdict, tree⟩ := result
  have judged : v.host.verdict task path files = verdict := congrArg Prod.fst looked
  rw [Host.submission, judged]
  refine ⟨tree, ?_⟩
  rw [runFrom_bind]
  simp only [onHost, runFrom_modify]
  rw [runFrom_bind, who tree]
  rfl

theorem record_unsaved (task : Fields) {fault : Fault}
    (failed : (save v.host.now v.host.tag photo).runFrom v.host.tree = (.error fault, tree)) :
    (record task photo).runFrom v = (.error fault, { v with host := { v.host with tree } }) := by
  unfold record
  rw [runFrom_get_bind]
  rw [runFrom_bind, onTree, runFrom_on, failed]

/-! ### Ways back -/

/-- What waits are notices, so that another one can be left. -/
def Notes (v : Visit) : Prop := ∃ notices, v.waiting = .list notices

theorem Notes.notify (notes : v.Notes) (category message : String) :
    ∃ w, (notify category message).runFrom v = (.ok (), w) ∧ w.Notes ∧ w.host.store = v.host.store := by
  obtain ⟨notices, listed⟩ := notes
  exact ⟨_, notify_run category message listed, ⟨_, by rw [waiting, Fields.get?_set_self]; rfl⟩, rfl⟩

/-- A redirection, for a task to the hunt that it belongs to. -/
structure LeadsBack (back : Option Fields) (response : Response) : Prop where
  status : response.status = 302
  located : response.location.isSome
  hunt : ∀ task n, back = some task → cell task "scenario_id" = .int n →
    response.location = some ("/scavenger_hunt/" ++ toString n)

/-- An action that leads back and leaves the tables, or fails and does so elsewhere than to a hunt. -/
def Settles (back : Option Fields) (act : Act Visit Response) : Prop :=
  ∀ v : Visit, v.Notes → ∃ result w, act.runFrom v = (result, w) ∧ w.Notes ∧ w.host.store = v.host.store ∧
    (∀ response, result = .ok response → LeadsBack back response) ∧
    ∀ fault, result = .error fault → LeadsBack back (.redirect .scenarios)

theorem settles_throw (cause : Fault) : Settles none (throw cause) :=
  fun v notes => ⟨_, v, rfl, notes, rfl, by simp, fun _ _ => ⟨rfl, rfl, by simp⟩⟩

theorem settles_huntOf (task : Fields) : Settles (some task) (huntOf task) := by
  intro v notes
  unfold huntOf
  cases number : Page.number? (some (cell task "scenario_id")) with
  | none =>
    refine ⟨_, v, rfl, notes, rfl, by simp, fun _ _ => ⟨rfl, rfl, ?_⟩⟩
    rintro _ n ⟨⟩ whole
    rw [whole] at number
    cases number
  | some m =>
    refine ⟨_, v, rfl, notes, rfl, ?_, by simp⟩
    rintro _ ⟨⟩
    refine ⟨rfl, rfl, ?_⟩
    rintro _ n ⟨⟩ whole
    rw [whole] at number
    cases number
    rfl

theorem Settles.notify (settles : Settles back act)
    (category message : String) : Settles back (do Visit.notify category message; act) := by
  intro v notes
  obtain ⟨w, noted, notes, same⟩ := notes.notify category message
  obtain ⟨result, u, ran, rest⟩ := settles w notes
  rw [runFrom_bind, noted]
  exact ⟨result, u, ran, same ▸ rest⟩

/-- Where work settles that is redirected when it fails. -/
theorem Settles.orElse (settles : Settles back act) (message : String) (notes : v.Notes) :
    ∃ response w, (orElse act message .scenarios).runFrom v = (.ok response, w) ∧ w.host.store = v.host.store ∧
      LeadsBack back response := by
  obtain ⟨result, w, ran, notes, same, leads, fails⟩ := settles v notes
  rw [orElse_run, ran]
  cases result with
  | ok response => exact ⟨response, w, rfl, same, leads response rfl⟩
  | error fault =>
    obtain ⟨u, noted, -, kept⟩ := notes.notify "error" message
    refine ⟨_, u, ?_, kept.trans same, fails fault rfl⟩
    dsimp only
    rw [runFrom_bind, noted]
    rfl

/-! ### Handing in -/

/-- Clearing out old photos changes nothing else. -/
theorem Settles.cleared (settles : Settles back act) :
    Settles back (do onHost fun host => { host with tree := cleanUp host.now host.shelf host.tree }; act) :=
  fun v notes => settles { v with host := { v.host with tree := cleanUp v.host.now v.host.shelf v.host.tree } } notes

theorem settles_announced (task : Fields) (verdict : Verdict) :
    Settles (some task) (do conclude task (← (announce verdict).outcome)) := by
  intro v notes
  obtain ⟨w, noted, notes, same⟩ : ∃ w, (announce verdict).runFrom v = (.ok (), w) ∧ w.Notes ∧
      w.host.store = v.host.store := by
    unfold announce
    split
    · exact notes.notify _ _
    · exact notes.notify _ _
  obtain ⟨result, u, ran, rest⟩ := (settles_huntOf task).cleared w notes
  rw [runFrom_bind, runFrom_outcome, noted]
  exact ⟨result, u, ran, same ▸ rest⟩

theorem settles_failed {task : Fields} {fault : Fault}
    (last : Settles back (if fault.isDatabase then throw fault else huntOf task)) :
    Settles back (conclude task (.error fault)) := last.cleared.notify _ _

theorem settles_refused (task : Fields) (fault : Fault) : Settles none (conclude task (.error fault)) := by
  refine settles_failed fun v notes => ?_
  split
  · exact settles_throw fault v notes
  · obtain ⟨result, w, ran, notes, same, leads, fails⟩ := settles_huntOf task v notes
    have away {response : Response} (leads : LeadsBack (some task) response) : LeadsBack none response :=
      ⟨leads.status, leads.located, by simp⟩
    exact ⟨result, w, ran, notes, same, fun _ ends => away (leads _ ends), fun _ ends => away (fails _ ends)⟩

/-- Everything that handing in a photo can lead to: the tables that it leaves, and the task whose hunt is led to. -/
inductive Submits (account : Fields) (t : Nat) (posted : Posted) (host : Host) : Store → Option Fields → Prop
  | absent (missing : ∀ task, host.store.find .task t ≠ .ok (some task)) : Submits account t posted host host.store none
  | unsent {task : Fields} (found : host.store.find .task t = .ok (some task))
      (nothing : ∀ path tree, ¬host.Sends posted.files t task path tree) :
      Submits account t posted host host.store (some task)
  | refused {task : Fields} {path : String} {tree : FileTree} {problem : DatabaseProblem}
      (sends : host.Sends posted.files t task path tree)
      (refuses : insert? .submission (host.submission account task path tree) host.store = .error problem) :
      Submits account t posted host host.store none
  | entered {task : Fields} {path : String} {tree : FileTree} {id : Int} {store : Store}
      (sends : host.Sends posted.files t task path tree)
      (inserted : insert? .submission (host.submission account task path tree) host.store = .ok (id, store)) :
      Submits account t posted host store (some task)

/-- What is done for a task that is there. -/
def handIn (task : Fields) (posted : Posted) : Act Visit Response := do
  let some photo := posted.files.lookup "photo"
    | do notify "error" "No photo uploaded"; huntOf task
  if !photo.filename.truthy then
    notify "error" "No photo selected"
    return ← huntOf task
  conclude task (← (record task photo).outcome)

theorem submit_eq (t : Nat) (posted : Posted) :
    submit t posted =
      orElse (do handIn (← found (← ask (·.find .task t))) posted) "Failed to submit task." .scenarios := rfl

/-- An action does one of these things to the tables, and then settles. -/
def Ends (account : Fields) (t : Nat) (posted : Posted) (v : Visit) (act : Act Visit Response) : Prop :=
  ∃ w back last, act.runFrom v = last.runFrom w ∧ w.host.session = v.host.session ∧ Settles back last ∧
    Submits account t posted v.host w.host.store back

section
variable (viewer : v.viewer = some account)
include viewer

/-- A photo that is there is stored or not, and then recorded or not. -/
theorem ends_record {t : Nat} {task : Fields} (asked : v.host.store.find .task t = .ok (some task))
    (sent : posted.files.lookup "photo" = some photo) (named : photo.filename.truthy = true) :
    Ends account t posted v (do conclude task (← (record task photo).outcome)) := by
  unfold Ends
  rw [runFrom_bind, runFrom_outcome]
  rcases saved : (save v.host.now v.host.tag photo).runFrom v.host.tree with ⟨fault | path, files⟩
  · have early : fault.isDatabase = false := Photo.isDatabase_of_saved (saved ▸ save_saved _ _ _ _)
    rw [record_unsaved task saved]
    refine ⟨{ v with host := { v.host with tree := files } }, some task, _, rfl, rfl, ?_, ?_⟩
    · refine settles_failed ?_
      rw [early]
      exact settles_huntOf task
    · refine .unsent asked fun path tree sends => ?_
      obtain ⟨other, found, -, stored⟩ := sends.photo
      cases sent.symm.trans found
      cases saved.symm.trans stored
  · have sends : v.host.Sends posted.files t task path files := ⟨asked, photo, sent, named, saved⟩
    obtain ⟨tree, ran⟩ := record_saved viewer task saved
    rcases insert_then .submission (v.host.submission account task path files)
      (announce (v.host.verdict task path files)) { v with host := { v.host with tree } } with
      ⟨problem, refuses, ended⟩ | ⟨id, store, inserted, goes⟩
    · rw [ran, ended]
      exact ⟨_, _, _, rfl, rfl, settles_refused task _, .refused sends refuses⟩
    · rw [ran, goes]
      refine ⟨{ v with host := { v.host with tree, store } }, _,
        do conclude task (← (announce (v.host.verdict task path files)).outcome), ?_, rfl,
        settles_announced _ _, .entered sends inserted⟩
      rw [runFrom_bind, runFrom_outcome]

theorem ends_handIn {t : Nat} {task : Fields} (asked : v.host.store.find .task t = .ok (some task)) (posted : Posted) :
    Ends account t posted v (handIn task posted) := by
  -- without a photo that has a name nothing is sent
  have unsent (nothing : ∀ photo, posted.files.lookup "photo" = some photo → photo.filename.truthy ≠ true) :
      Submits account t posted v.host v.host.store (some task) := by
    refine .unsent asked fun path tree sends => ?_
    obtain ⟨photo, sent, named, -⟩ := sends.photo
    exact nothing photo sent named
  have turned (message : String) : Settles (some task) (do notify "error" message; huntOf task) :=
    (settles_huntOf task).notify _ _
  unfold handIn
  cases sent : posted.files.lookup "photo" with
  | none => exact ⟨v, _, _, rfl, rfl, turned _, unsent fun photo other => by simp [sent] at other⟩
  | some photo =>
    dsimp only
    cases named : photo.filename.truthy with
    | false =>
      refine ⟨v, _, _, rfl, rfl, turned _, unsent fun other found => ?_⟩
      cases sent.symm.trans found
      simp [named]
    | true => exact ends_record viewer asked sent named

theorem submit_settles (t : Nat) (posted : Posted) :
    Ends account t posted v (do handIn (← found (← ask (·.find .task t))) posted) := by
  unfold Ends
  rw [runFrom_bind, ask_run]
  rcases asked : v.host.store.find .task t with fault | row
  · exact ⟨v, _, throw fault, rfl, rfl, settles_throw _, .absent fun task => by simp [asked]⟩
  cases row with
  | none => exact ⟨v, _, throw .noPage, rfl, rfl, settles_throw _, .absent fun task => by simp [asked]⟩
  | some task => exact ends_handIn viewer asked posted

theorem submit_run (notes : v.Notes) (t : Nat) (posted : Posted) :
    ∃ response w back, (submit t posted).runFrom v = (.ok response, w) ∧ LeadsBack back response ∧
      Submits account t posted v.host w.host.store back := by
  obtain ⟨u, back, last, ran, session, settles, submits⟩ := submit_settles viewer t posted
  have notes : u.Notes := by rwa [Notes, waiting, session]
  obtain ⟨response, w, ended, same, leads⟩ := settles.orElse "Failed to submit task." notes
  refine ⟨response, w, back, ?_, leads, same ▸ submits⟩
  rw [submit_eq, orElse_run, ran, ← orElse_run]
  exact ended

end
end Visit

/-! ### Requests -/

theorem Store.find_some {store : Store} {model : Model} {id : Int} {row : Fields}
    (asked : store.find model id = .ok (some row)) : fits id = true ∧ rowId row = id := by
  unfold Store.find at asked
  split at asked
  · cases asked
  · split at asked
    · rename_i small
      exact ⟨small, by simpa using find?_some (Except.ok.inj asked)⟩
    · cases asked

namespace Host

variable {host : Host} {account : Fields} {t : Nat}

section
variable (signedIn : Site.account? host.store host.session = some account)
include signedIn

theorem fits_account : fits (rowId account) = true := by
  obtain ⟨value, -, id, -, found⟩ := account?_eq_some_iff.1 signedIn
  obtain ⟨small, number⟩ := find_some found
  rw [number]
  exact small

variable {task : Fields}

/-- What the statement for a stored photo does. -/
theorem insert?_sent (scored : host.lens.ScoresObjects) {path : String} (sends : host.Sends uploads t task path tree) :
    ∃ score, (host.verdict task path tree).confidence.number? = some score ∧
      ((∃ table id, host.store.TakesSubmissions path table ∧
          insert? .submission (host.submission account task path tree) host.store =
            .ok (id, host.store.put .submission { table with
              rows := table.rows ++ [submissionRow host.store.clock (nextId table.rows) t (rowId account) path score
                (host.verdict task path tree).confirmed] })) ∨
        (∀ table, ¬host.store.TakesSubmissions path table) ∧
          ∃ problem, insert? .submission (host.submission account task path tree) host.store = .error problem) := by
  obtain ⟨small, number⟩ := find_some sends.task
  obtain ⟨score, scores⟩ := confidence_number scored path (demandOf task) tree
  unfold submission verdict
  rw [number]
  exact ⟨score, scores, insert?_submission small (fits_account signedIn) scores host.store⟩

/-- A row is refused only by a table that takes none. -/
theorem not_takes_of_refused (scored : host.lens.ScoresObjects)
    {path : String} (sends : host.Sends uploads t task path tree) {problem : DatabaseProblem}
    (refuses : insert? .submission (host.submission account task path tree) host.store = .error problem)
    (table : Table) : ¬host.store.TakesSubmissions path table := by
  obtain ⟨score, -, ⟨_, id, -, inserted⟩ | ⟨closed, -⟩⟩ := insert?_sent signedIn scored sends
  · cases inserted.symm.trans refuses
  · exact closed table

/-- Unless a row is refused, handing in leads back to the hunt of the task that is there. -/
theorem back_eq_of_taken (scored : host.lens.ScoresObjects) {after : Store}
    (submits : Visit.Submits account t posted host after back) (known : host.store.find .task t = .ok (some task))
    (takes : ∀ path tree, host.Sends posted.files t task path tree → ∃ table, host.store.TakesSubmissions path table) :
    back = some task := by
  have only {other : Fields} (found : host.store.find .task t = .ok (some other)) : some other = some task :=
    Except.ok.inj (found.symm.trans known)
  cases submits with
  | absent missing => exact (missing task known).elim
  | unsent found => exact only found
  | refused sends refuses =>
    obtain rfl := Option.some.inj (only sends.task)
    obtain ⟨table, taken⟩ := takes _ _ sends
    exact (not_takes_of_refused signedIn scored sends refuses table taken).elim
  | entered sends => exact only sends.task

/-- What handing in leads to, for a whole request. -/
theorem serve_submission {request : Request} (method : request.method = .post)
    (reached : request.route? = some (.submitTask t)) (taken : Serve.formProblem? host request = none)
    (notes : host.start.Notes) :
    ∃ answer back, ((serve request).runFrom host).1 = .ok answer ∧ Visit.LeadsBack back answer.response ∧
      Visit.Submits account t request.posted host ((serve request).runFrom host).2.store back := by
  have viewer : host.start.viewer = some account := signedIn
  have admitted : Route.isProtected (.submitTask t) = false ∨ host.start.viewer.isSome := .inr (by rw [viewer]; rfl)
  have allowed : (Route.submitTask t).rule.methods.contains request.method := by rw [method]; rfl
  obtain ⟨response, w, back, ran, leads, submits⟩ := Visit.submit_run viewer notes t request.posted
  have responded : (Serve.respond request).runFrom host.start = (.ok response, w) :=
    Serve.respond_of_reach reached (Serve.reach_view taken allowed admitted ran)
  rw [serve_run, responded]
  exact ⟨_, back, rfl, leads, submits⟩

end

/-- **One row or none**, whatever the services that look at photos do. Where a member hands in something for a task, the
answer is a redirection, and to the hunt of the task if that is there and no row was refused. No other table changes. A
row comes in exactly if the task is there, the photo has a name and can be stored, and the table takes new rows: then it
is one row, with the task, the member, the place of the photo and the verdict on it, under the next number. A table
that insists on lengths takes no path of more than 255 characters. -/
theorem submission_recorded_once_or_not (host : Host) (request : Request) (account : Fields) (t : Nat)
    (signedIn : Site.account? host.store host.session = some account) (method : request.method = .post)
    (reached : request.route? = some (.submitTask t)) (taken : Serve.formProblem? host request = none)
    (scored : host.lens.ScoresObjects) (notes : host.start.Notes) :
    let after := ((serve request).runFrom host).2.store
    (∃ answer, ((serve request).runFrom host).1 = .ok answer ∧ answer.response.status = 302 ∧
        answer.response.location.isSome ∧ ∀ task n, host.store.find .task t = .ok (some task) →
          cell task "scenario_id" = .int n →
          (∀ path tree, host.Sends request.files t task path tree → ∃ table, host.store.TakesSubmissions path table) →
          answer.response.location = some ("/scavenger_hunt/" ++ toString n)) ∧
      (∀ model, model ≠ .submission → after.table? model = host.store.table? model) ∧
      ((∃ task path tree table score, host.Sends request.files t task path tree ∧
          host.store.TakesSubmissions path table ∧ (host.verdict task path tree).confidence.number? = some score ∧
          after.table? .submission = some { table with
            rows := table.rows ++ [Store.submissionRow host.store.clock (Store.nextId table.rows) t (rowId account)
              path score (host.verdict task path tree).confirmed] }) ∨
        (∀ task path tree table, host.Sends request.files t task path tree → ¬host.store.TakesSubmissions path table) ∧
          after.table? .submission = host.store.table? .submission) := by
  intro after
  obtain ⟨answer, back, answered, leads, submits⟩ := serve_submission signedIn method reached taken notes
  change Visit.Submits account t request.posted host after back at submits
  clear_value after
  rw [answered]
  refine ⟨⟨answer, rfl, leads.status, leads.located, fun task n known whole takes => ?_⟩, ?_⟩
  · exact leads.hunt task n (back_eq_of_taken signedIn scored submits known takes) whole
  cases submits with
  | absent missing => exact ⟨fun _ _ => rfl, .inr ⟨fun task _ _ _ sends => (missing task sends.task).elim, rfl⟩⟩
  | unsent found nothing =>
    refine ⟨fun _ _ => rfl, .inr ⟨fun task path tree table sends => ?_, rfl⟩⟩
    obtain rfl := Option.some.inj (Except.ok.inj (found.symm.trans sends.task))
    exact (nothing path tree sends).elim
  | refused sends refuses =>
    refine ⟨fun _ _ => rfl, .inr ⟨fun task path tree table sent => ?_, rfl⟩⟩
    obtain ⟨rfl, rfl, rfl⟩ := sent.unique sends
    exact not_takes_of_refused signedIn scored sends refuses table
  | @entered task path tree id store sends inserted =>
    refine ⟨fun model other => Store.table?_insert_of_ne inserted other, .inl ?_⟩
    obtain ⟨score, scores, ⟨table, number, takes, accepted⟩ | ⟨-, problem, refused⟩⟩ :=
      insert?_sent signedIn scored sends
    · cases Except.ok.inj (accepted.symm.trans inserted)
      refine ⟨task, path, tree, table, score, sends, takes, scores, ?_⟩
      rw [Store.table?_put, takes.1]
      rfl
    · cases refused.symm.trans inserted

/-- Ann hands in a photo, which is recorded, and is led back to the hunt. -/
theorem photo_of_ann_recorded :
    let ann : Fields := [("id", .int 1), ("email", .text "ann@x.org")]
    let task : Fields := [("id", .int 1), ("scenario_id", .int 1)]
    let photo : Photo.Upload := { filename := .text "cup.jpg", text := "x" }
    let host : Host :=
      { store := { tables := [(.user, { rows := [ann] }), (.task, { rows := [task] }), (.submission, {})] }, now := ⟨0⟩
        tag := "01020304", reference := "", session := [("_user_id", .text "1")] }
    let request : Request := { method := .post, target := "/submit_task/1", files := [("photo", photo)] }
    (∃ answer, ((serve request).runFrom host).1 = .ok answer ∧
        answer.response.location = some "/scavenger_hunt/1") ∧
      ∃ path score confirmed, ((serve request).runFrom host).2.store.table? .submission =
        some { rows := [Store.submissionRow ⟨0⟩ 1 1 1 path score confirmed] } := by
  intro ann task photo host request
  have signedIn : Site.account? host.store host.session = some ann :=
    account?_eq_some_iff.2 ⟨_, rfl, 1, by decide +kernel, rfl⟩
  have takes (path : String) : host.store.TakesSubmissions path {} := ⟨rfl, rfl, nofun⟩
  obtain ⟨⟨answer, answered, -, -, hunt⟩, -, recorded⟩ := submission_recorded_once_or_not host request ann 1
    signedIn rfl (by decide +kernel) rfl (fun sighting seen => by cases seen) ⟨[], rfl⟩
  refine ⟨⟨answer, answered, hunt task 1 rfl rfl fun path _ _ => ⟨_, takes path⟩⟩, ?_⟩
  obtain ⟨_, path, tree, table, score, -, ⟨same, -⟩, -, added⟩ | ⟨closed, -⟩ := recorded
  · obtain rfl := Option.some.inj ((takes path).1.symm.trans same)
    exact ⟨path, score, _, added⟩
  · obtain ⟨path, tree, sends⟩ : ∃ path tree, host.Sends request.files 1 task path tree :=
      sends_of_isOk rfl rfl rfl (by decide +kernel)
    exact (closed task path tree _ sends (takes path)).elim

/-- A photo is stored for a task, but the table takes no rows: there is none afterwards. -/
theorem photo_of_ann_refused :
    let ann : Fields := [("id", .int 1), ("email", .text "ann@x.org")]
    let task : Fields := [("id", .int 1), ("scenario_id", .int 1)]
    let photo : Photo.Upload := { filename := .text "cup.jpg", text := "x" }
    let host : Host :=
      { store := { tables := [(.user, { rows := [ann] }), (.task, { rows := [task] }),
          (.submission, { refused := [.insert] })] }
        now := ⟨0⟩, tag := "01020304", reference := "", session := [("_user_id", .text "1")] }
    let request : Request := { method := .post, target := "/submit_task/1", files := [("photo", photo)] }
    (∃ path tree, host.Sends request.files 1 task path tree) ∧
      (((serve request).runFrom host).2.store.table? .submission).map (·.rows.length) = some 0 :=
  ⟨sends_of_isOk rfl rfl rfl (by decide +kernel), by decide +kernel⟩

end Host
end Site
end Playhouse
