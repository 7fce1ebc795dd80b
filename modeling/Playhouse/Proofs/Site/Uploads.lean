import Playhouse.Proofs.Photo.Clearing
import Playhouse.Proofs.Site.Pages

/-!
What requests do to the files. Only a member who hands in a photo for a task that is there reaches them, and
then they are the files after that photo, with the old ones cleared out. Main statement: along any run of requests,
by any clients and at any times, the folder of uploads holds only photos exactly if everything that was stored and is
still there has a safe name of one; no view looks at the name that it is given.
-/
namespace Playhouse.Site
open Act Playhouse.Photo Serve List Option

namespace Visit
open Views

variable {v : Visit} {host : Host}

/-! ### Taking a photo -/

/-- The files are those of a host, and so is what old ones are cleared out by. -/
structure HasFiles (host : Host) (v : Visit) : Prop where
  tree : v.host.tree = host.tree
  now : v.host.now = host.now
  shelf : v.host.shelf = host.shelf

/-- An action that leaves the files as they are. -/
abbrev KeepsFiles {α : Type} (host : Host) (act : Act Visit α) : Prop := Keeps (HasFiles host) act

theorem keepsFiles_notify (category message : String) : KeepsFiles host (notify category message) := by
  intro v same
  unfold notify
  rw [runFrom_get_bind]
  split
  · exact ⟨same.tree, same.now, same.shelf⟩
  · exact same

theorem keepsFiles_huntOf (task : Fields) : KeepsFiles host (huntOf task) := by
  unfold huntOf
  split
  · exact keeps_pure _
  · exact fun _ same => same

theorem keepsFiles_member : KeepsFiles host member := by
  intro v same
  rw [member_run]
  exact same

theorem keepsFiles_onStore {α : Type} (work : Act Store α) : KeepsFiles host (onStore work) :=
  fun _ same => ⟨same.tree, same.now, same.shelf⟩

/-- Recording a submission hands the photo in, whatever the tables then say. -/
theorem record_tree (task : Fields) (photo : Upload) (v : Visit) :
    HasFiles { v.host with tree := file v.host.lens v.host.now v.host.tag photo v.host.tree }
      ((record task photo).runFrom v).2 := by
  unfold record file
  rw [runFrom_get_bind]
  rw [runFrom_bind, onTree, runFrom_on]
  have saved := save_saved v.host.now v.host.tag photo v.host.tree
  generalize (save v.host.now v.host.tag photo).runFrom v.host.tree = outcome at saved ⊢
  cases saved with
  | unready | fails | tears => exact ⟨rfl, rfl, rfl⟩
  | stores prepares named writes =>
    dsimp only
    rw [runFrom_get_bind]
    generalize looks : verify v.host.lens _ _ _ = result
    rw [← verify_tree writes v.host.lens, looks]
    obtain ⟨verdict, tree⟩ := result
    dsimp only
    rw [runFrom_bind]
    refine Keeps.bind keepsFiles_member (fun account => .bind (keepsFiles_onStore _) fun _ => ?_) _ ⟨rfl, rfl, rfl⟩
    split <;> exact keepsFiles_notify _ _

/-- At the end old photos are cleared out, unless the visitor cannot be told of a failure. -/
theorem conclude_tree (task : Fields) (outcome : Except Fault Unit) (same : HasFiles host v) :
    ((conclude task outcome).runFrom v).2.host.tree = host.tree ∨
      ((conclude task outcome).runFrom v).2.host.tree = cleanUp host.now host.shelf host.tree := by
  unfold conclude
  extract_lets goOn
  have goes (r : Unit) (w : Visit) (same : HasFiles host w) :
      ((goOn r).runFrom w).2.host.tree = cleanUp host.now host.shelf host.tree := by
    simp only [goOn, onHost]
    rw [runFrom_bind, runFrom_modify]
    have cleared : HasFiles { host with tree := cleanUp host.now host.shelf host.tree }
        { w with host := { w.host with tree := cleanUp w.host.now w.host.shelf w.host.tree } } :=
      ⟨by rw [same.now, same.shelf, same.tree], same.now, same.shelf⟩
    have hunted := (keepsFiles_huntOf task _ cleared).tree
    rcases outcome with fault | _
    · dsimp only
      split
      · exact cleared.tree
      · exact hunted
    · exact hunted
  split
  · have told := keepsFiles_notify "error" "Error processing photo submission. Please try again." v same
    rw [runFrom_bind]
    generalize (notify _ _).runFrom v = noticed at told ⊢
    rcases noticed with ⟨fault | r, w⟩
    · exact .inl told.tree
    · exact .inr (goes r w told)
  · exact .inr (goes () v same)

theorem orElse_tree (work : Act Visit Response) (message : String) (route : Route) (v : Visit) :
    ((orElse work message route).runFrom v).2.host.tree = (work.runFrom v).2.host.tree := by
  rw [orElse_run]
  rcases work.runFrom v with ⟨fault | response, w⟩
  · exact (Keeps.bind (keepsFiles_notify _ _) (fun _ => keeps_pure _) w (⟨rfl, rfl, rfl⟩ : HasFiles w.host w)).tree
  · rfl

/-- A visitor who sends a photo for a task that is there hands it in. -/
theorem submit_tree {t : Nat} {task : Fields} {posted : Posted} {photo : Upload}
    (known : v.host.store.find .task t = .ok (some task)) (sent : posted.files.lookup "photo" = some photo)
    (named : photo.filename.truthy = true) :
    let filed := file v.host.lens v.host.now v.host.tag photo v.host.tree
    ((submit t posted).runFrom v).2.host.tree = filed ∨
      ((submit t posted).runFrom v).2.host.tree = cleanUp v.host.now v.host.shelf filed := by
  intro filed
  unfold submit
  rw [orElse_tree, runFrom_bind, ask_run, known]
  simp only [runFrom_bind, found, runFrom_pure, sent, named, Bool.not_true, Bool.false_eq_true, if_false, runFrom_outcome]
  exact @conclude_tree _ { v.host with tree := filed } task _ (record_tree task photo v)

/-- Nobody else touches the files. -/
theorem submit_tree_of_unsent {t : Nat} {posted : Posted}
    (nothing : ∀ task photo, v.host.store.find .task t = .ok (some task) → posted.files.lookup "photo" = some photo →
      photo.filename.truthy = false) :
    ((submit t posted).runFrom v).2.host.tree = v.host.tree := by
  have refused (task : Fields) (message : String) :
      ((do notify "error" message; huntOf task : Act Visit Response).runFrom v).2.host.tree = v.host.tree :=
    (Keeps.bind (keepsFiles_notify _ _) (fun _ => keepsFiles_huntOf task) v (⟨rfl, rfl, rfl⟩ : HasFiles v.host v)).tree
  unfold submit
  rw [orElse_tree, runFrom_bind, ask_run]
  cases known : v.host.store.find .task t with
  | error fault => rfl
  | ok row =>
    cases row with
    | none => rfl
    | some task =>
      dsimp only
      rw [runFrom_bind]
      simp only [found, runFrom_pure]
      cases sent : posted.files.lookup "photo" with
      | none => exact refused task _
      | some photo =>
        simp only [nothing task photo known sent, Bool.not_false, if_true]
        exact refused task _

end Visit

/-! ### Requests -/

namespace Host

variable {host : Host} {request : Request} {upload : Photo.Upload}

/-- A member hands in a photo for a task that is there. -/
structure HandsIn (host : Host) (request : Request) (upload : Upload) : Prop where
  signedIn : (Site.account? host.store host.session).isSome
  method : request.method = .post
  taken : formProblem? host request = none
  task : ∃ t task, request.route? = some (.submitTask t) ∧ host.store.find .task (t : Nat) = .ok (some task)
  photo : request.files.lookup "photo" = some upload
  named : upload.filename.truthy = true

theorem serve_tree (host : Host) (request : Request) :
    ((serve request).runFrom host).2.tree = ((respond request).runFrom host.start).2.host.tree := by
  rw [serve_run]
  rcases (respond request).runFrom host.start with ⟨fault | response, visit⟩ <;> rfl

theorem tree_of_not_submitted (elsewhere : ∀ t, request.route? ≠ some (.submitTask t)) :
    ((serve request).runFrom host).2.tree = host.tree := by
  rw [serve_tree]
  refine respond_invariant (P := fun v => v.host.tree = host.tree) rfl fun v w _ same step => ?_
  cases step with
  | filed tree reached =>
    obtain ⟨t, reached⟩ := reached
    exact (elsewhere t reached).elim
  | _ => exact same

theorem tree_of_passed {t : Nat} (reached : request.route? = some (.submitTask t))
    (passes : Passes (.submitTask t) request host.start) :
    ((serve request).runFrom host).2.tree = ((Views.submit t request.posted).runFrom host.start).2.host.tree := by
  rw [serve_tree]
  rcases respond_cases reached (v := host.start) with ⟨-, shows⟩ | ⟨refused, -⟩
  · exact shows.tree
  · exact absurd passes refused

/-- A request changes the files as the photo does that it hands in, and may clear old ones out after that. -/
theorem tree_of_handsIn (hands : host.HandsIn request upload) :
    let filed := file host.lens host.now host.tag upload host.tree
    ((serve request).runFrom host).2.tree = filed ∨
      ((serve request).runFrom host).2.tree = cleanUp host.now host.shelf filed := by
  obtain ⟨t, task, reached, known⟩ := hands.task
  have passes : Passes (.submitTask t) request host.start :=
    ⟨by rw [hands.method]; rfl, hands.taken, .inr hands.signedIn⟩
  rw [tree_of_passed reached passes]
  exact Visit.submit_tree (v := host.start) known hands.photo hands.named

theorem tree_of_not_handsIn (nothing : ∀ upload, ¬host.HandsIn request upload) :
    ((serve request).runFrom host).2.tree = host.tree := by
  by_cases submitted : ∃ t, request.route? = some (.submitTask t)
  · obtain ⟨t, reached⟩ := submitted
    by_cases passes : Passes (.submitTask t) request host.start
    · have method : request.method = .post := mem_singleton.1 (contains_iff_mem.1 passes.allowed)
      have signedIn : (Site.account? host.store host.session).isSome := passes.admitted.resolve_left (nomatch ·)
      rw [tree_of_passed reached passes]
      refine Visit.submit_tree_of_unsent (v := host.start) fun task photo known sent => ?_
      by_contra named
      exact nothing photo ⟨signedIn, method, passes.taken, ⟨t, task, reached, known⟩, sent, by simpa using named⟩
    · rw [serve_tree]
      rcases respond_cases reached (v := host.start) with ⟨passed, -⟩ | ⟨-, shows⟩
      · exact absurd passed passes
      · exact shows.tree
  · exact tree_of_not_submitted fun t reached => submitted ⟨t, reached⟩

/-! ### Runs -/

/-- A request with what it finds at its time: the session of its client, the moment, the tag for a photo, what the
services see, and what the file system tells of the folder. -/
structure Arrival where
  session : Fields
  now : Moment
  tag : String
  lens : Lens
  shelf : Shelf := {}
  request : Request

/-- The site as a request finds it. -/
def facing (host : Host) (arrival : Arrival) : Host :=
  { host with
    session := arrival.session, now := arrival.now, tag := arrival.tag, lens := arrival.lens, shelf := arrival.shelf }

/-- The site after a request. -/
def receive (host : Host) (arrival : Arrival) : Host := ((serve arrival.request).runFrom (host.facing arrival)).2

/-- The site after some requests. -/
def receiveAll (host : Host) (arrivals : List Arrival) : Host := arrivals.foldl receive host

/-- The name under which a request stores a photo. -/
def Arrival.stored (arrival : Arrival) (name : String) : String := storedName arrival.now arrival.tag name

/-- A request hands in a photo of a name, and leaves a file for it: the photo or a part of it. -/
def Leaves (host : Host) (arrival : Arrival) (name : String) : Prop :=
  ∃ upload, (host.facing arrival).HandsIn arrival.request upload ∧ upload.filename = .text name ∧
    InFolder ((save arrival.now arrival.tag upload).runFrom host.tree).2 (arrival.stored name)

/-- A file is what a request leaves for a photo, or the enhanced copy of it. -/
def Arrival.Makes (arrival : Arrival) (name file : String) : Prop :=
  file = arrival.stored name ∨ enhancedName? (arrival.stored name) = some file

variable {arrival : Arrival} {name other : String}

theorem receiveAll_cons (host : Host) (arrival : Arrival) (rest : List Arrival) :
    host.receiveAll (arrival :: rest) = (host.receive arrival).receiveAll rest := by
  rw [receiveAll, receiveAll, foldl_cons]

theorem receiveAll_append (host : Host) (earlier later : List Arrival) :
    host.receiveAll (earlier ++ later) = (host.receiveAll earlier).receiveAll later := by
  rw [receiveAll, receiveAll, receiveAll, foldl_append]

theorem receive_tree_of_handsIn (hands : (host.facing arrival).HandsIn arrival.request upload) :
    let filed := file arrival.lens arrival.now arrival.tag upload host.tree
    (host.receive arrival).tree = filed ∨ (host.receive arrival).tree = cleanUp arrival.now arrival.shelf filed := by
  rw [receive]
  exact tree_of_handsIn hands

/-- What is in the folder after a request was there before, or the request made it. -/
theorem inFolder_before (tagged : IsTag arrival.tag) (held : InFolder (host.receive arrival).tree other) :
    InFolder host.tree other ∨ ∃ name, host.Leaves arrival name ∧ arrival.Makes name other := by
  by_cases hands : ∃ upload, (host.facing arrival).HandsIn arrival.request upload
  · obtain ⟨upload, hands⟩ := hands
    have filed : InFolder (file arrival.lens arrival.now arrival.tag upload host.tree) other := by
      rcases receive_tree_of_handsIn hands with same | cleared
      · rwa [same] at held
      · rw [cleared] at held
        exact (inFolder_cleanUp _ _ _ 7 other).1 held
    rcases (inFolder_file tagged _ _ upload host.tree other).1 filed with old | ⟨name, named, left, makes⟩
    · exact .inl old
    · exact .inr ⟨name, ⟨upload, hands, named, left⟩, makes⟩
  · rw [receive, tree_of_not_handsIn (not_exists.1 hands)] at held
    exact .inl held

/-- What was in the folder before a request is there after it, unless the request clears it out. -/
theorem inFolder_after (tagged : IsTag arrival.tag) (real : other ≠ ".test") (held : InFolder host.tree other) :
    InFolder (host.receive arrival).tree other ∨ arrival.shelf.ClearsOut arrival.now 7 other := by
  by_cases hands : ∃ upload, (host.facing arrival).HandsIn arrival.request upload
  · obtain ⟨upload, hands⟩ := hands
    have filed := (inFolder_file tagged arrival.lens arrival.now upload host.tree other).2 real held
    rcases receive_tree_of_handsIn hands with same | cleared
    · exact .inl (same ▸ filed)
    · rw [cleared]
      exact (inFolder_cleanUp _ _ _ 7 other).2 filed
  · rw [receive, tree_of_not_handsIn (not_exists.1 hands)]
    exact .inl held

/-- What a request leaves is in the folder after it, unless the same request clears it out. -/
theorem Leaves.inFolder (tagged : IsTag arrival.tag) (leaves : host.Leaves arrival name) :
    InFolder (host.receive arrival).tree (arrival.stored name) ∨
      arrival.shelf.ClearsOut arrival.now 7 (arrival.stored name) := by
  obtain ⟨upload, hands, -, left⟩ := leaves
  have filed := inFolder_file_of_left tagged arrival.lens left
  rcases receive_tree_of_handsIn hands with same | cleared
  · exact .inl (same ▸ filed)
  · rw [cleared]
    exact (inFolder_cleanUp _ _ _ 7 _).2 filed

/-- What is in the folder after a run was there before, or a request of the run made it. -/
theorem inFolder_receiveAll {arrivals : List Arrival} (tagged : ∀ arrival ∈ arrivals, IsTag arrival.tag)
    (held : InFolder (host.receiveAll arrivals).tree other) :
    InFolder host.tree other ∨ ∃ earlier arrival later, arrivals = earlier ++ arrival :: later ∧
      ∃ name, (host.receiveAll earlier).Leaves arrival name ∧ arrival.Makes name other := by
  induction arrivals generalizing host with
  | nil => exact .inl held
  | cons arrival rest ih =>
    rw [receiveAll_cons] at held
    rcases ih (forall_mem_cons.1 tagged).2 held with first | ⟨earlier, maker, later, rfl, name, leaves, makes⟩
    · rcases inFolder_before (tagged arrival mem_cons_self) first with old | ⟨name, leaves, makes⟩
      · exact .inl old
      · exact .inr ⟨[], arrival, rest, rfl, name, leaves, makes⟩
    · refine .inr ⟨arrival :: earlier, maker, later, rfl, name, ?_, makes⟩
      rwa [receiveAll_cons]

/-- What is in the folder stays there along a run, unless a request of the run clears it out. -/
theorem inFolder_kept {arrivals : List Arrival} (tagged : ∀ arrival ∈ arrivals, IsTag arrival.tag)
    (real : other ≠ ".test") (held : InFolder host.tree other) :
    InFolder (host.receiveAll arrivals).tree other ∨
      ∃ cleaner ∈ arrivals, cleaner.shelf.ClearsOut cleaner.now 7 other := by
  induction arrivals generalizing host with
  | nil => exact .inl held
  | cons arrival rest ih =>
    rcases inFolder_after (tagged arrival mem_cons_self) real held with kept | cleared
    · rw [receiveAll_cons]
      rcases ih (forall_mem_cons.1 tagged).2 kept with there | ⟨cleaner, member, cleared⟩
      · exact .inl there
      · exact .inr ⟨cleaner, mem_cons_of_mem _ member, cleared⟩
    · exact .inr ⟨arrival, mem_cons_self, cleared⟩

theorem isPhotoName_of_makes (tagged : IsTag arrival.tag) (makes : arrival.Makes name other) :
    isPhotoName other = isPhotoName (String.ofList (safeName name.toList)) := by
  have stored := isPhotoName_storedName tagged arrival.now name
  rcases makes with rfl | copy
  · exact stored
  · rw [isPhotoName_enhancedName copy]
    exact stored

/-- Whatever is handed in along a run, the folder of uploads holds only photos afterwards exactly if every photo that
was stored on the way, wholly or in part, and of which the file or its enhanced copy is still there, has a safe name of
one. And what was stored is still there, unless a later request has found it older than a week and cleared it out. -/
theorem uploads_only_photos_iff (host : Host) (only : Photo.OnlyPhotos host.tree) (arrivals : List Arrival)
    (tagged : ∀ arrival ∈ arrivals, Photo.IsTag arrival.tag) :
    let left := (host.receiveAll arrivals).tree
    (Photo.OnlyPhotos left ↔
      ∀ earlier arrival later, arrivals = earlier ++ arrival :: later → ∀ name,
        (host.receiveAll earlier).Leaves arrival name →
          (∃ file, arrival.Makes name file ∧ Photo.InFolder left file) →
            Photo.isPhotoName (String.ofList (Photo.safeName name.toList)) = true) ∧
    ∀ earlier arrival later, arrivals = earlier ++ arrival :: later → ∀ name,
      (host.receiveAll earlier).Leaves arrival name →
        Photo.InFolder left (arrival.stored name) ∨
          ∃ cleaner ∈ arrival :: later, cleaner.shelf.ClearsOut cleaner.now 7 (arrival.stored name) := by
  intro left
  refine ⟨⟨?_, fun photos other held => ?_⟩, ?_⟩
  · rintro photos earlier arrival later rfl name - ⟨file, makes, held⟩
    rw [← isPhotoName_of_makes (tagged arrival (by simp)) makes]
    exact photos file held
  · rcases inFolder_receiveAll tagged held with old | ⟨earlier, arrival, later, rfl, name, leaves, makes⟩
    · exact only other old
    · rw [isPhotoName_of_makes (tagged arrival (by simp)) makes]
      exact photos earlier arrival later rfl name leaves ⟨other, makes, held⟩
  · rintro earlier arrival later rfl name leaves
    have real : arrival.stored name ≠ ".test" := storedName_ne_probe _ _ _
    simp only [left, receiveAll_append, receiveAll_cons]
    rcases leaves.inFolder (tagged arrival (by simp)) with there | cleared
    · have later_tagged : ∀ cleaner ∈ later, IsTag cleaner.tag := fun cleaner member => tagged cleaner (by simp [member])
      rcases inFolder_kept later_tagged real there with kept | ⟨cleaner, member, cleared⟩
      · exact .inl kept
      · exact .inr ⟨cleaner, mem_cons_of_mem _ member, cleared⟩
    · exact .inr ⟨arrival, mem_cons_self, cleared⟩

/-- Ann hands in a text file where a photo is asked for, and the folder, empty before, holds it afterwards. -/
theorem text_file_among_uploads :
    let ann : Fields := [("id", .int 1), ("email", .text "ann@x.org")]
    let task : Fields := [("id", .int 1), ("scenario_id", .int 1)]
    let host : Host :=
      { store := { tables := [(.user, { rows := [ann] }), (.task, { rows := [task] })] }
        now := ⟨0⟩, tag := "", reference := "" }
    let notes : Photo.Upload := { filename := .text "notes.txt", text := "x" }
    let arrival : Arrival :=
      { session := [("_user_id", .text "1")], now := ⟨0⟩, tag := "01020304", lens := {}
        request := { method := .post, target := "/submit_task/1", files := [("photo", notes)] } }
    Photo.OnlyPhotos host.tree ∧ host.Leaves arrival "notes.txt" ∧
      Photo.InFolder (host.receiveAll [arrival]).tree (arrival.stored "notes.txt") ∧
      ¬Photo.OnlyPhotos (host.receiveAll [arrival]).tree := by
  intro ann task host notes arrival
  have nothing : Photo.OnlyPhotos host.tree := Photo.onlyPhotos_empty
  have signedIn : Site.account? host.store arrival.session = some ann :=
    Store.account?_eq_some_iff.2 ⟨_, rfl, 1, by decide +kernel, rfl⟩
  have hands : (host.facing arrival).HandsIn arrival.request notes :=
    ⟨Option.isSome_iff_exists.2 ⟨ann, signedIn⟩, rfl, rfl, ⟨1, task, by decide +kernel, rfl⟩, rfl, by decide +kernel⟩
  have tag : Photo.IsTag "01020304" :=
    List.all_eq_true.1 (show "01020304".toList.all Char.isAlphanum = true by decide)
  have tagged : ∀ other ∈ [arrival], Photo.IsTag other.tag := fun other member => List.mem_singleton.1 member ▸ tag
  have leaves : host.Leaves arrival "notes.txt" :=
    ⟨notes, hands, rfl, (Photo.inFolder_iff (Photo.isName_storedName tag _ _)).2 (by decide +kernel)⟩
  obtain ⟨photos, kept⟩ := uploads_only_photos_iff host nothing [arrival] tagged
  have there : Photo.InFolder (host.receiveAll [arrival]).tree (arrival.stored "notes.txt") := by
    rcases kept [] arrival [] rfl "notes.txt" leaves with there | ⟨cleaner, member, entry, reached, -⟩
    · exact there
    · rw [List.mem_singleton.1 member] at reached
      exact (List.not_mem_nil reached).elim
  refine ⟨nothing, leaves, there, fun only => ?_⟩
  have photo := photos.1 only [] arrival [] rfl "notes.txt" leaves ⟨_, .inl rfl, there⟩
  revert photo
  decide +kernel

end Host
end Playhouse.Site
