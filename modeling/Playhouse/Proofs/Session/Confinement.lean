import Playhouse.Proofs.Session.Expiry

/-!
What the calls on a session touch. Whatever an id is made of, and whatever memory and the files hold, a
call with it keeps to one file and to one session in memory. Main statement: that file lies in the
directory, and is shared with no id that is as simple, exactly if the id has no slash.
-/
namespace Playhouse.Sessions
open FileTree Act

variable {α β : Type} {id : String} {s t u : Sessions}

/-- The file that an id leads to in a tree, as its parts from the root. -/
def fileOf? (tree : FileTree) (id : String) : Option (List String) :=
  if problem? tree (.text id) = none then some (parts (path (.text id))) else none

variable {file : List String} {tree : FileTree}

theorem fileOf?_eq_some_iff :
    fileOf? tree id = some file ↔ problem? tree (.text id) = none ∧ parts (path (.text id)) = file := by
  unfold fileOf?
  split <;> simp_all

theorem fileOf?_congr {old new : FileTree} (folders : ∀ path, new.isDirectory path = old.isDirectory path)
    (id : String) : fileOf? new id = fileOf? old id := by
  rw [fileOf?, fileOf?]
  simp only [problem?_congr folders]

/-! ### The file of an id -/

/-- A file in the directory is the one of an id without a slash. -/
theorem exists_plain {name : String} (leads : fileOf? tree id = some (folder ++ [name])) :
    ∃ other, '/' ∉ other.toList ∧ fileOf? tree other = some (folder ++ [name]) := by
  obtain ⟨free, place⟩ := fileOf?_eq_some_iff.1 leads
  obtain ⟨-, short, file⟩ := problem?_eq_none_iff.1 free
  obtain ⟨pieces, stem, whole, split⟩ := splitText_path_last id
  have last : folder ++ [name] = (pieces.foldl resolve []).reverse ++ [String.ofList (stem ++ ".json".toList)] := by
    rw [← place]
    exact parts_path_of_split whole split
  have named : name = String.ofList stem ++ ".json" := by
    rw [(List.append_inj_right' last rfl |> List.cons.inj).1]
    simp
  have plain : '/' ∉ (String.ofList stem).toList := by rwa [String.toList_ofList]
  have parts_plain := parts_path_plain plain
  rw [← named] at parts_plain
  refine ⟨String.ofList stem, plain, fileOf?_eq_some_iff.2 ⟨problem?_eq_none_iff.2 ⟨?_, ?_, ?_⟩, parts_plain⟩⟩
  · rw [obstacle?, splitText_path_plain plain, List.dropLast_concat]
    have named_folder : ∀ name ∈ folder, IsName name := by
      intro name member
      rw [← parts_directory] at member
      exact (mem_parts member).2
    refine obstacleFrom?_names named_folder (by decide) fun front above => ?_
    rw [List.reverse_nil, List.nil_append]
    refine isDirectory_of_problem? free ?_
    rwa [place, List.dropLast_concat]
  · -- The name is one of the parts of the longer path, all of which are short.
    have fits := List.all_eq_true.1 (isNameable_path short) name (by rw [place]; simp)
    rw [decide_eq_true_iff] at fits
    simpa [hasLongName, splitText_fileName_plain plain, ← named, nameLimit] using fits
  · rw [isDirectory, find?_congr tree (parts_plain.trans place.symm)]
    exact file

/-- An id has a file in the directory that no other such id has exactly if it has no slash. -/
theorem own_file_iff_plain (leads : fileOf? tree id = some file) :
    '/' ∉ id.toList ↔ (∃ name, file = folder ++ [name]) ∧
      ∀ other, other ≠ id → fileOf? tree other = some file → '/' ∈ other.toList := by
  obtain ⟨free, rfl⟩ := fileOf?_eq_some_iff.1 leads
  constructor
  · intro plain
    refine ⟨⟨_, parts_path_plain plain⟩, fun other differs shared => ?_⟩
    by_contra plain_other
    exact differs (sameFile_plain plain_other plain (fileOf?_eq_some_iff.1 shared).2)
  · rintro ⟨⟨name, place⟩, own⟩ slash
    rw [place] at leads own
    obtain ⟨other, plain, shared⟩ := exists_plain leads
    exact plain (own other (fun same => plain (same ▸ slash)) shared)

/-! ### Actions that keep to an id -/

/-- Nothing has changed but the file of an id and its session in memory. -/
structure Touched (id : String) (s t : Sessions) : Prop where
  file : ∀ path, fileOf? s.tree id ≠ some (parts path) → t.tree.find? path = s.tree.find? path
  isDirectory : ∀ path, t.tree.isDirectory path = s.tree.isDirectory path
  session : ∀ other, other ≠ id → t.find? (.text other) = s.find? (.text other)

theorem Touched.refl (id : String) (s : Sessions) : Touched id s s :=
  ⟨fun _ _ => rfl, fun _ => rfl, fun _ _ => rfl⟩

theorem Touched.trans (first : Touched id s t) (second : Touched id t u) : Touched id s u := by
  refine ⟨fun path away => ?_, fun path => ?_, fun other differs => ?_⟩
  · rw [second.file path (by rwa [fileOf?_congr first.isDirectory]), first.file path away]
  · rw [second.isDirectory, first.isDirectory]
  · rw [second.session other differs, first.session other differs]

/-- Two stores that differ in files only, and not in the one of an id. -/
structure Alike (id : String) (s t : Sessions) : Prop where
  rest : t = { s with tree := t.tree }
  problem : problem? t.tree (.text id) = problem? s.tree (.text id)
  text : t.tree.text? (path (.text id)) = s.tree.text? (path (.text id))

theorem Alike.now (alike : Alike id s t) : t.now = s.now := by rw [alike.rest]

theorem Alike.find? (alike : Alike id s t) : t.find? = s.find? := by
  rw [alike.rest]
  rfl

/-- An action that keeps to an id: it changes nothing but the file and the session of the id, and what
it answers and leaves in memory does not depend on any other file. -/
structure Confined (id : String) (act : Act Sessions α) : Prop where
  touched : ∀ s, Touched id s (act.runFrom s).2
  blind : ∀ s t, Alike id s t → (act.runFrom t).1 = (act.runFrom s).1 ∧ Alike id (act.runFrom s).2 (act.runFrom t).2

section
variable {act : Act Sessions α} {next : α → Act Sessions β}

theorem confined_of_unchanged {result : Except Fault α} (ran : ∀ s, act.runFrom s = (result, s)) : Confined id act := by
  refine ⟨fun s => ?_, fun s t alike => ?_⟩
  · rw [ran]
    exact .refl id s
  · rw [ran, ran]
    exact ⟨rfl, alike⟩

theorem confined_pure (a : α) : Confined id (pure a) := confined_of_unchanged fun _ => rfl

theorem confined_throw (fault : Fault) : Confined id (throw fault : Act Sessions α) :=
  confined_of_unchanged fun _ => rfl

theorem confined_throw_bind (fault : Fault) : Confined id (throw fault >>= next) :=
  confined_of_unchanged fun _ => rfl

theorem confined_liftM (result : Except Fault α) : Confined id (liftM result : Act Sessions α) :=
  confined_of_unchanged fun s => runFrom_liftM result s

theorem Confined.bind (first : Confined id act) (rest : ∀ a, Confined id (next a)) : Confined id (act >>= next) := by
  refine ⟨fun s => ?_, fun s t alike => ?_⟩
  · have touched := first.touched s
    rw [runFrom_bind]
    generalize act.runFrom s = between at touched
    obtain ⟨fault | a, u⟩ := between
    · exact touched
    · exact touched.trans ((rest a).touched u)
  · obtain ⟨same, alike⟩ := first.blind s t alike
    rw [runFrom_bind, runFrom_bind]
    generalize act.runFrom s = between at same alike
    generalize act.runFrom t = between_too at same alike
    obtain ⟨outcome, u⟩ := between
    obtain ⟨outcome_too, u_too⟩ := between_too
    cases same
    cases outcome with
    | error fault => exact ⟨rfl, alike⟩
    | ok a => exact (rest a).blind u u_too alike

/-- An action may look at all of the store but the files. -/
theorem Confined.getting {next : Sessions → Act Sessions β}
    (unseen : ∀ s t, Alike id s t → next t = next s) (rest : ∀ s, Confined id (next s)) :
    Confined id (get >>= next) := by
  refine ⟨fun s => (rest s).touched s, fun s t alike => ?_⟩
  have same : (get >>= next).runFrom t = (next s).runFrom t := by
    rw [← unseen s t alike]
    rfl
  rw [same]
  exact (rest s).blind s t alike

/-- An action may change the session of the id in memory. -/
theorem confined_modify {change : List (Value × Value) → List (Value × Value)}
    (kept : ∀ (s : Sessions) (other : String), other ≠ id →
      ({ s with active := change s.active } : Sessions).find? (.text other) = s.find? (.text other)) :
    Confined id (modify fun s => { s with active := change s.active } : Act Sessions PUnit) := by
  refine ⟨fun s => ⟨fun _ _ => rfl, fun _ => rfl, kept s⟩, fun s t alike => ⟨rfl, ?_, alike.problem, alike.text⟩⟩
  simp only [runFrom_modify]
  rw [alike.rest]

end

theorem confined_put (session : Value) : Confined id (put (.text id) session) :=
  confined_modify fun _ _ differs => (find?_of_putIn rfl _).trans (if_neg differs)

theorem confined_drop : Confined id (drop (.text id)) := by
  refine confined_modify fun s other differs => ?_
  have same (entry : Value × Value) :
      decide ((!entry.1.equal (.text id)) = true ∧ entry.1.equal (.text other) = true) =
        entry.1.equal (.text other) := by
    cases found : entry.1.equal (.text other) with
    | false => simp
    | true =>
      rw [Value.equal_text] at found
      simp [found, differs]
  simp only [find?, List.find?_filter, same]

theorem confined_stamp : Confined id stamp :=
  .getting (fun s t alike => by rw [alike.now]) fun s => confined_pure _

theorem confined_print (line : String) : Confined id (print line) := by
  refine ⟨fun s => ⟨fun _ _ => rfl, fun _ => rfl, fun _ _ => rfl⟩,
    fun s t alike => ⟨rfl, ?_, alike.problem, alike.text⟩⟩
  simp only [print, runFrom_modify]
  rw [alike.rest]

theorem confined_save (session : Value) : Confined id (save (.text id) session) := by
  refine ⟨fun s => ?_, fun s t alike => ?_⟩
  · cases problem : problem? s.tree (.text id) with
    | some problem_ =>
      rw [save_reports problem]
      exact (confined_print _).touched s
    | none =>
      obtain ⟨tree, writes, saves⟩ := save_writes problem session
      rw [saves]
      refine ⟨fun path away => ?_, isDirectory_write writes, fun _ _ => rfl⟩
      rw [find?_write writes, if_neg fun here => away (fileOf?_eq_some_iff.2 ⟨problem, here.symm⟩)]
  · have problem_too := alike.problem
    cases problem : problem? s.tree (.text id) with
    | some problem_ =>
      rw [problem] at problem_too
      rw [save_reports problem, save_reports problem_too]
      exact (confined_print _).blind s t alike
    | none =>
      rw [problem] at problem_too
      obtain ⟨tree, writes, saves⟩ := save_writes problem session
      obtain ⟨tree_too, writes_too, saves_too⟩ := save_writes problem_too session
      rw [saves, saves_too]
      refine ⟨rfl, by rw [alike.rest], ?_, ?_⟩
      · rw [(problem?_congr (isDirectory_write writes) _).2 problem,
          (problem?_congr (isDirectory_write writes_too) _).2 problem_too]
      · rw [text?_write writes, text?_write writes_too, if_pos rfl, if_pos rfl]

theorem confined_loadFile : Confined id (loadFile (.text id)) := by
  refine .getting (fun s t alike => by rw [alike.problem, alike.text]) fun s => ?_
  have report (message : String) : Confined id (do print message; return Value.null) :=
    .bind (confined_print message) fun _ => confined_pure _
  split
  · exact confined_pure _
  · exact confined_pure _
  · exact report _
  · split
    · exact confined_pure _
    · split
      · exact confined_pure _
      · exact report _

theorem confined_renew (session : Value) : Confined id (renew (.text id) session) := by
  refine .getting (fun s t alike => by rw [alike.now]) fun s => .bind (confined_liftM _) fun expired => ?_
  cases expired with
  | true => exact confined_pure _
  | false =>
    cases session with
    | record fields =>
      exact .bind confined_stamp fun now => .bind (confined_put _) fun _ => .bind (confined_save _) fun _ =>
        confined_pure _
    | _ => exact confined_pure _

theorem confined_get? : Confined id (get? (.text id)) := by
  have key : (!(Value.text id).isKey) = false := rfl
  simp only [get?, key, Bool.false_eq_true, if_false]
  refine .getting (fun s t alike => by rw [alike.find?]) fun s => ?_
  generalize (s.find? (.text id)).getD .null = held
  have goes_on (session : Value) : Confined id (do
      if !session.truthy then return none
      if !held.truthy then put (.text id) session
      renew (.text id) session) := by
    split
    · exact confined_pure _
    · split
      · exact .bind (confined_put session) fun _ => confined_renew session
      · exact confined_renew session
  split
  · exact .bind (confined_pure held) goes_on
  · exact .bind confined_loadFile goes_on

theorem confined_update (changes : Value) : Confined id (update (.text id) changes) := by
  refine .bind confined_get? fun found => ?_
  cases found with
  | none => exact confined_throw _
  | some session =>
    dsimp only
    generalize session.mergeFrom changes = merged
    obtain ⟨changed, fault?⟩ := merged
    refine .bind (confined_put _) fun _ => ?_
    cases fault? with
    | some fault => exact confined_throw_bind fault
    | none =>
      exact .bind confined_stamp fun now => .bind (confined_put _) fun _ => .bind (confined_save _) fun _ =>
        confined_pure _

theorem confined_finish : Confined id (finish (.text id)) := by
  refine .bind confined_get? fun found => ?_
  cases found with
  | none => exact confined_pure _
  | some session =>
    exact .bind confined_stamp fun now => .bind (confined_save _) fun _ => .bind confined_drop fun _ => confined_pure _

theorem confined_history : Confined id (history (.text id)) := by
  refine .bind confined_get? fun found => ?_
  cases found with
  | none | some session => exact confined_pure _

theorem confined_record (event : Value) : Confined id (record (.text id) event) := by
  refine .bind confined_get? fun found => ?_
  cases found with
  | none => exact confined_pure _
  | some session =>
    refine .bind ?_ fun event => .bind (confined_liftM _) fun events => ?_
    · cases event with
      | record fields => exact .bind confined_stamp fun now => confined_pure _
      | _ => exact confined_throw _
    · cases events with
      | list events => exact .bind (confined_put _) fun _ => .bind (confined_save _) fun _ => confined_pure _
      | _ => exact confined_throw _

/-! ### The file in use -/

theorem renew_writes {fields : Fields} (fresh : isExpired s.now (.record fields) = .ok false)
    (free : problem? s.tree (.text id) = none) :
    ∃ t, (renew (.text id) (.record fields)).runFrom s = (.ok (some (refreshed s.now fields)), t) ∧
      ∀ other, t.tree.text? other = if parts other = parts (path (.text id)) then
        some (Json.spread 2 (.record (refreshed s.now fields))) else s.tree.text? other := by
  generalize held : ({ s with active := putIn (.text id) (.record (refreshed s.now fields)) s.active } : Sessions) = t
  have tree : t.tree = s.tree := by rw [← held]
  obtain ⟨written, writes, saves⟩ := save_writes (tree ▸ free) (.record (refreshed s.now fields))
  refine ⟨{ t with tree := written }, ?_, fun other => ?_⟩
  · have stamped : Fields.set "last_activity" (.text s.now.iso) fields = refreshed s.now fields := rfl
    simp only [renew, runFrom_bind, runFrom_get, runFrom_liftM, fresh, Bool.false_eq_true, if_false,
      stamp_run, put_run, stamped, held, saves, runFrom_pure]
  · rw [text?_write writes, tree]

/-- A live session that is asked for, in memory or in the file that its id leads to, is written to that
file. -/
theorem get?_writes {fields : Fields} (found : s.current id = some (.record fields)) (some_ : fields ≠ [])
    (fresh : isExpired s.now (.record fields) = .ok false) (leads : fileOf? s.tree id = some file) :
    ∃ t, (get? (.text id)).runFrom s = (.ok (some (refreshed s.now fields)), t) ∧
      ∀ other, t.tree.text? other =
        if parts other = file then some (Json.spread 2 (.record (refreshed s.now fields))) else s.tree.text? other := by
  obtain ⟨free, rfl⟩ := fileOf?_eq_some_iff.1 leads
  obtain ⟨t, held, asks⟩ := get?_renews found some_
  rw [asks, ← held.now, ← held.tree]
  exact renew_writes (held.now ▸ fresh) (held.tree ▸ free)

/-! ### Confinement -/

/-- Whatever the id, the calls with it read and write no file but the one that it leads to, and no session
in memory but its own. The file in use lies in the directory, and belongs to no other id without a slash,
exactly if the id has no slash itself: `./x` shares the file of `x`, and `../x` leads out. -/
theorem calls_confined_own_iff_plain (id : String) :
    Confined id (get? (.text id)) ∧ (∀ changes, Confined id (update (.text id) changes)) ∧
      Confined id (finish (.text id)) ∧ Confined id (history (.text id)) ∧
      (∀ event, Confined id (record (.text id) event)) ∧
      ∀ (s : Sessions) (file : List String), fileOf? s.tree id = some file →
        (∀ fields, s.current id = some (.record fields) → fields ≠ [] →
          isExpired s.now (.record fields) = .ok false →
          ∃ t, (get? (.text id)).runFrom s = (.ok (some (refreshed s.now fields)), t) ∧
            ∀ other, t.tree.text? other =
              if parts other = file then some (Json.spread 2 (.record (refreshed s.now fields)))
              else s.tree.text? other) ∧
        ('/' ∉ id.toList ↔ (∃ name, file = folder ++ [name]) ∧
          ∀ other, other ≠ id → fileOf? s.tree other = some file → '/' ∈ other.toList) :=
  ⟨confined_get?, confined_update, confined_finish, confined_history, confined_record, fun _ _ leads =>
    ⟨fun _ found some_ fresh => get?_writes found some_ fresh leads, own_file_iff_plain leads⟩⟩

/-- A store with a session in memory under an id with a slash. -/
def dotted : Sessions :=
  { now := ⟨0⟩, tree := emptyTree,
    active := [(.text "./x", .record [(.text "last_activity", .text (⟨0⟩ : Moment).iso)])] }

/-- Asking for the session of `./x` writes the file of `x`, and `../x` leads to a file outside of the
directory. -/
theorem slash_id_writes_other_file :
    fileOf? dotted.tree "./x" = some (folder ++ ["x.json"]) ∧
      dotted.tree.text? (path (.text "x")) = none ∧
      (∃ t, (get? (.text "./x")).runFrom dotted =
          (.ok (some (refreshed ⟨0⟩ [(.text "last_activity", .text (⟨0⟩ : Moment).iso)])), t) ∧
        t.tree.text? (path (.text "x")) ≠ none) ∧
      (∃ other, other ≠ "./x" ∧ fileOf? dotted.tree other = some (folder ++ ["x.json"]) ∧ '/' ∉ other.toList) ∧
      fileOf? dotted.tree "../x" = some ["<tmp>", "backend", "data", "x.json"] := by
  have leads : fileOf? dotted.tree "./x" = some (folder ++ ["x.json"]) := by decide +kernel
  have active : lastActivity (.record [(.text "last_activity", .text (⟨0⟩ : Moment).iso)]) = some ⟨0⟩ :=
    lastActivity_of_get? (by decide) rfl
  have fresh : isExpired dotted.now (.record [(.text "last_activity", .text (⟨0⟩ : Moment).iso)]) = .ok false := by
    rw [isExpired_eq active, isIdle, active]
    rfl
  have confined := (calls_confined_own_iff_plain "./x").2.2.2.2.2 dotted _ leads
  obtain ⟨t, asks, files⟩ := confined.1 _ rfl (List.cons_ne_nil _ _) fresh
  refine ⟨leads, text?_start ⟨0⟩ _, ⟨t, asks, ?_⟩, ?_, by decide +kernel⟩
  · have own : parts (path (.text "x")) = folder ++ ["x.json"] := parts_path_plain (by decide)
    rw [files, if_pos own]
    exact Option.some_ne_none _
  · by_contra own
    push Not at own
    exact confined.2.2 ⟨⟨_, rfl⟩, own⟩ (by decide)

end Playhouse.Sessions
