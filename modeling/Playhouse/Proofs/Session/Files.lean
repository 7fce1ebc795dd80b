import Playhouse.Proofs.Act
import Playhouse.Proofs.Json.Reading
import Playhouse.Proofs.Time.Iso
import Playhouse.Proofs.World.FileTree
import Playhouse.Session.Store

/-!
The files of sessions. Every id leads to a file; an id without a slash leads to one of its own in the
directory. Saving a session there changes nothing but that file, and loading gives what the file reads
as.
-/
namespace Playhouse.Sessions
open FileTree List Act Value

variable {s : Sessions}

/-! ### Paths -/

/-- The parts of the directory. -/
def folder : List String := ["<tmp>", "backend", "data", "sessions"]

theorem parts_directory : parts directory = folder := by decide

/-- The way to the file of an id passes no directory but the one of the files and those above it. -/
def Passable (id : String) : Prop := emptyTree.obstacle? (path (.text id)) = none

instance (id : String) : Decidable (Passable id) := inferInstanceAs (Decidable (_ = none))

/-- The file of an id lies in the directory. -/
structure Inside (id : String) : Prop where
  place : ∃ name, parts (path (.text id)) = folder ++ [name]
  passable : Passable id

/-- Two ids lead to one file. -/
structure SameFile (id other : String) : Prop where
  parts_eq : parts (path (.text id)) = parts (path (.text other))
  passable_iff : Passable id ↔ Passable other

instance (id other : String) : Decidable (SameFile id other) :=
  decidable_of_iff (parts (path (.text id)) = parts (path (.text other)) ∧ (Passable id ↔ Passable other))
    ⟨fun both => ⟨both.1, both.2⟩, fun same => ⟨same.1, same.2⟩⟩

theorem SameFile.refl (id : String) : SameFile id id := ⟨rfl, Iff.rfl⟩

variable {id other : String} {tree new old : FileTree} {fields : Fields} {session : Value}

theorem SameFile.trans {third : String} (first : SameFile id other) (second : SameFile other third) :
    SameFile id third :=
  ⟨first.parts_eq.trans second.parts_eq, first.passable_iff.trans second.passable_iff⟩

theorem isName_json (stem : List Char) (whole : '/' ∉ stem) : IsName (String.ofList (stem ++ ".json".toList)) := by
  refine isName_of_length ?_ ?_
  · rw [String.toList_ofList, length_append]
    have five : ".json".toList.length = 5 := rfl
    omega
  · rw [String.toList_ofList, mem_append, not_or]
    exact ⟨whole, by decide⟩

/-- Whatever the id, its path ends in a name of a session's file. -/
theorem splitText_path_last (id : String) : ∃ pieces stem, '/' ∉ stem ∧
    splitText "/" (path (.text id)) = pieces ++ [String.ofList (stem ++ ".json".toList)] := by
  obtain ⟨front, text⟩ : ∃ front, (path (.text id)).toList = front ++ ".json".toList := by
    unfold path
    split
    · exact ⟨id.toList, by simp [fileName, asText]⟩
    · exact ⟨(directory ++ "/" ++ id).toList, by simp [fileName, asText]⟩
  obtain ⟨pieces, last, cut, cut_path⟩ := @Text.split_append_ending '/' front ".json".toList (by decide)
  have whole : '/' ∉ last := Text.notMem_of_mem_split (cut ▸ mem_append_right _ mem_cons_self)
  refine ⟨pieces.map String.ofList, last, whole, ?_⟩
  have slash : "/".toList = ['/'] := rfl
  rw [splitText, slash, text, cut_path, map_append]
  rfl

theorem parts_path_of_split {pieces : List String} {stem : List Char} (whole : '/' ∉ stem)
    (split : splitText "/" (path (.text id)) = pieces ++ [String.ofList (stem ++ ".json".toList)]) :
    parts (path (.text id)) = (pieces.foldl resolve []).reverse ++ [String.ofList (stem ++ ".json".toList)] := by
  rw [parts_eq, split, foldl_append, foldl_cons, foldl_nil, resolve_name (isName_json stem whole), reverse_cons]

theorem splitText_path (relative : startsWith "/" (fileName (.text id)) = false) :
    splitText "/" (path (.text id)) = folder ++ splitText "/" (fileName (.text id)) := by
  have text : (path (.text id)).toList = directory.toList ++ '/' :: (fileName (.text id)).toList := by
    simp [path, relative]
  have slash : "/".toList = ['/'] := rfl
  have above : (Text.split ['/'] directory.toList).map String.ofList = folder := by decide
  rw [splitText, slash, text, Text.split_append, map_append, above]
  rfl

section
variable (plain : '/' ∉ id.toList)
include plain

theorem notMem_fileName_plain : '/' ∉ (fileName (.text id)).toList := by
  have name : fileName (.text id) = id ++ ".json" := rfl
  rw [name, String.toList_append, mem_append, not_or]
  exact ⟨plain, by decide⟩

theorem splitText_fileName_plain : splitText "/" (fileName (.text id)) = [id ++ ".json"] := by
  have slash : "/".toList = ['/'] := rfl
  rw [splitText, slash, Text.split_of_notMem (notMem_fileName_plain plain)]
  simp [fileName, asText]

theorem splitText_path_plain : splitText "/" (path (.text id)) = folder ++ [id ++ ".json"] := by
  have whole := notMem_fileName_plain plain
  have relative : startsWith "/" (fileName (.text id)) = false := by
    cases front : (fileName (.text id)).toList with
    | nil => simp [startsWith, front]
    | cons c rest =>
      have other : '/' ≠ c := fun same => whole (front ▸ same ▸ mem_cons_self)
      simp [startsWith, isPrefixOf, front, other]
  rw [splitText_path relative, splitText_fileName_plain plain]

theorem parts_path_plain : parts (path (.text id)) = folder ++ [id ++ ".json"] := by
  have named : ∀ name ∈ folder ++ [id ++ ".json"], IsName name := by
    refine forall_mem_append.2 ⟨fun name above => ?_, forall_mem_singleton.2 ?_⟩
    · rw [← parts_directory] at above
      exact (mem_parts above).2
    · have text : id ++ ".json" = String.ofList (id.toList ++ ".json".toList) := by simp
      rw [text]
      exact isName_json id.toList plain
  rw [parts_eq, splitText_path_plain plain, foldl_resolve_names named]
  simp

theorem passable_plain : Passable id := by
  rw [Passable, obstacle?, splitText_path_plain plain, dropLast_concat]
  decide

theorem inside_plain : Inside id :=
  ⟨⟨_, parts_path_plain plain⟩, passable_plain plain⟩

theorem sameFile_plain (plain_other : '/' ∉ other.toList)
    (same : parts (path (.text id)) = parts (path (.text other))) : id = other := by
  rw [parts_path_plain plain, parts_path_plain plain_other] at same
  have names := (cons.inj (append_cancel_left same)).1
  exact (String.append_left_inj _).1 names

end

theorem idOf_toList (n : Nat) :
    (idOf n).toList = "00000000-0000-4000-8000-".toList ++ (Moment.padded 12 n).toList := String.toList_append

theorem plain_idOf (n : Nat) : '/' ∉ (idOf n).toList := by
  rw [idOf_toList, mem_append, not_or]
  refine ⟨by decide, fun member => ?_⟩
  have digit : '/'.isDigit = true := Moment.isDigit_padded member
  cases digit

theorem idOf_inj {n m : Nat} (same : idOf n = idOf m) : n = m :=
  Moment.padded_inj ((String.append_right_inj _).1 same)

theorem isNameable_path (short : hasLongName (.text id) = false) : isNameable (path (.text id)) = true := by
  have pieces : ∀ piece ∈ splitText "/" (fileName (.text id)), piece.utf8ByteSize ≤ nameLimit := by
    simpa [hasLongName, nameLimit] using short
  rw [isNameable, all_eq_true]
  intro part member
  have piece := (mem_parts member).1
  rw [decide_eq_true_iff]
  cases rooted : startsWith "/" (fileName (.text id)) with
  | true =>
    have same : path (.text id) = fileName (.text id) := by simp [path, rooted]
    rw [same] at piece
    exact pieces part piece
  | false =>
    rw [splitText_path rooted] at piece
    rcases mem_append.1 piece with above | piece
    · have small : ∀ name ∈ folder, name.utf8ByteSize ≤ nameLimit := by decide
      exact small part above
    · exact pieces part piece

/-! ### The directory -/

/-- A tree with the directory of sessions, where all files lie in it. -/
structure Housed (tree : FileTree) : Prop where
  folder : tree.isDirectory directory = true
  directories : ∀ path, tree.isDirectory path = true ↔ parts path <+: Sessions.folder
  files : ∀ path text, tree.text? path = some text → ∃ name, parts path = Sessions.folder ++ [name]

theorem find?_start (now : Moment) (path : String) :
    (start now).tree.find? path = if parts path <+: folder then some .directory else none := by
  have entries : (start now).tree.entries =
      [("<tmp>", .directory), ("<tmp>/backend", .directory), ("<tmp>/backend/data", .directory),
        ("<tmp>/backend/data/sessions", .directory)] := rfl
  have root := @plain_eq_empty_iff path
  have first : plain path = "<tmp>" ↔ parts path = ["<tmp>"] := @plain_eq_iff path "<tmp>"
  have second : plain path = "<tmp>/backend" ↔ parts path = ["<tmp>", "backend"] := @plain_eq_iff path "<tmp>/backend"
  have third : plain path = "<tmp>/backend/data" ↔ parts path = ["<tmp>", "backend", "data"] :=
    @plain_eq_iff path "<tmp>/backend/data"
  have fourth : plain path = "<tmp>/backend/data/sessions" ↔ parts path = folder := @plain_eq_iff path directory
  have levels : parts path <+: folder ↔ parts path = [] ∨ parts path = ["<tmp>"] ∨ parts path = ["<tmp>", "backend"] ∨
      parts path = ["<tmp>", "backend", "data"] ∨ parts path = folder := by
    rw [← mem_inits]
    simp [folder]
  rw [FileTree.find?, entries]
  simp only [FileTree.lookup_cons, lookup_nil, levels, ← root, ← first, ← second, ← third, ← fourth]
  by_cases at_root : plain path = ""
  · simp [at_root]
  by_cases at_first : plain path = "<tmp>"
  · simp [at_first]
  by_cases at_second : plain path = "<tmp>/backend"
  · simp [at_second]
  by_cases at_third : plain path = "<tmp>/backend/data"
  · simp [at_third]
  by_cases at_fourth : plain path = "<tmp>/backend/data/sessions"
  · simp [at_fourth]
  · simp [at_root, at_first, at_second, at_third, at_fourth]

theorem text?_start (now : Moment) (path : String) : (start now).tree.text? path = none := by
  rw [Option.eq_none_iff_forall_not_mem]
  intro text found
  rw [Option.mem_def, text?_eq_some_iff, find?_start] at found
  split at found <;> cases found

theorem housed_start (now : Moment) : Housed (start now).tree := by
  refine ⟨?_, ?_, ?_⟩
  · simp [isDirectory_iff, find?_start, parts_directory]
  · intro path
    rw [isDirectory_iff, find?_start]
    by_cases above : parts path <+: folder <;> simp [above]
  · intro path text found
    rw [text?_start] at found
    cases found

theorem Housed.not_isDirectory (housed : Housed tree) (id : String) : tree.isDirectory (path (.text id)) = false := by
  rw [Bool.eq_false_iff]
  intro directory_
  obtain ⟨pieces, stem, whole, split⟩ := splitText_path_last id
  have last := parts_path_of_split whole split
  have member : String.ofList (stem ++ ".json".toList) ∈ Sessions.folder :=
    ((housed.directories _).1 directory_).subset (last ▸ mem_append_right _ mem_cons_self)
  have ends : ∀ name ∈ Sessions.folder, name.toList.getLast? ≠ some 'n' := by decide
  apply ends _ member
  rw [String.toList_ofList, getLast?_append]
  rfl

/-- Whether the way to a file is free does not depend on the files in the directory. -/
theorem Housed.obstacle?_iff (housed : Housed tree) (id : String) :
    tree.obstacle? (path (.text id)) = none ↔ Passable id := by
  refine obstacle?_congr (fun path => ?_) _
  rw [Bool.eq_iff_iff, housed.directories]
  exact ((housed_start ⟨0⟩).directories path).symm

/-- Only a name that is too long keeps a session from its file in the directory. -/
theorem Housed.problem?_eq (housed : Housed tree) (passable : Passable id) :
    problem? tree (.text id) = if hasLongName (.text id) then some .longName else none := by
  simp [problem?, (housed.obstacle?_iff id).2 passable, housed.not_isDirectory id]

theorem problem?_eq_none_iff {id : Value} : problem? tree id = none ↔
    tree.obstacle? (path id) = none ∧ hasLongName id = false ∧ tree.isDirectory (path id) = false := by
  unfold problem?
  cases tree.obstacle? (path id) with
  | some problem => simp
  | none => cases hasLongName id <;> cases tree.isDirectory (path id) <;> simp

theorem Housed.problem?_iff (housed : Housed tree) :
    problem? tree (.text id) = none ↔ Passable id ∧ hasLongName (.text id) = false := by
  rw [problem?_eq_none_iff, housed.obstacle?_iff]
  simp [housed.not_isDirectory id]

theorem problem?_congr (folders : ∀ path, new.isDirectory path = old.isDirectory path) (id : Value) :
    problem? new id = none ↔ problem? old id = none := by
  rw [problem?_eq_none_iff, problem?_eq_none_iff, folders, obstacle?_congr folders]

/-! ### Saving -/

/-- What saving does to the files: the file of the id holds the session, unless its name is too long
for a file; all else is as before. -/
structure Filed (id : String) (fields : Fields) (old new : FileTree) : Prop where
  text? : ∀ other, new.text? other =
    if hasLongName (.text id) = false ∧ parts other = parts (path (.text id)) then
      some (Json.spread 2 (.record fields)) else old.text? other
  isDirectory : ∀ other, new.isDirectory other = old.isDirectory other

theorem Filed.trans {later : Fields} {middle : FileTree} (first : Filed id fields old middle)
    (second : Filed id later middle new) : Filed id later old new := by
  refine ⟨fun other => ?_, fun other => (second.isDirectory other).trans (first.isDirectory other)⟩
  rw [second.text?, first.text?]
  split <;> rfl

theorem Filed.text?_of_ne (filed : Filed id fields old new) (plain : '/' ∉ id.toList)
    (plain_other : '/' ∉ other.toList) (differs : other ≠ id) :
    new.text? (path (.text other)) = old.text? (path (.text other)) := by
  have apart : parts (path (.text other)) ≠ parts (path (.text id)) :=
    fun same => differs (sameFile_plain plain_other plain same)
  rw [filed.text?, if_neg fun here => apart here.2]

theorem Housed.filed (housed : Housed old) (inside : Inside id) (filed : Filed id fields old new) : Housed new := by
  refine ⟨?_, ?_, ?_⟩
  · rw [filed.isDirectory]
    exact housed.folder
  · intro other
    rw [filed.isDirectory]
    exact housed.directories other
  · intro other text
    rw [filed.text?]
    split
    · rename_i here
      intro _
      rw [here.2]
      exact inside.place
    · exact housed.files other text

/-- What an operation on files leaves as it is. -/
structure Frame (s t : Sessions) : Prop where
  now : t.now = s.now
  made : t.made = s.made
  limit : t.limit = s.limit

theorem Frame.trans {t u : Sessions} (first : Frame s t) (second : Frame t u) : Frame s u :=
  ⟨second.now.trans first.now, second.made.trans first.made, second.limit.trans first.limit⟩

/-- Saving never fails: what goes wrong is only reported. -/
theorem save_total (s : Sessions) (id session : Value) : ∃ t, (save id session).runFrom s = (.ok (), t) := by
  simp only [save, runFrom_bind, runFrom_get]
  split
  · exact ⟨_, rfl⟩
  · exact ⟨_, rfl⟩

/-- An id that leads to a file leads to a directory first, with directories above it. -/
theorem isDirectory_of_problem? (free : problem? tree (.text id) = none) {front : List String}
    (above : front <+: (parts (path (.text id))).dropLast) : tree.isDirectory (joinTexts "/" front) = true := by
  obtain ⟨pieces, stem, whole, split⟩ := splitText_path_last id
  have way := (problem?_eq_none_iff.1 free).1
  rw [obstacle?, split, dropLast_concat] at way
  rw [parts_path_of_split whole split, dropLast_concat] at above
  refine isDirectory_of_passed way (fun front root => ?_) above
  rw [reverse_nil, prefix_nil] at root
  subst root
  rfl

/-- A session that reaches its file is written there. -/
theorem save_writes (free : problem? s.tree (.text id) = none) (session : Value) :
    ∃ tree, s.tree.write? (path (.text id)) (Json.spread 2 session) = some tree ∧
      (save (.text id) session).runFrom s = (.ok (), { s with tree }) := by
  obtain ⟨-, short, file⟩ := problem?_eq_none_iff.1 free
  have above : s.tree.isDirectory (parent (path (.text id))) = true := isDirectory_of_problem? free prefix_rfl
  have writes := write?_eq_some (isNameable_path short) above file (Json.spread 2 session)
  refine ⟨_, writes, ?_⟩
  simp [save, free, writes]

theorem save_reports {problem : Problem} (blocked : problem? s.tree (.text id) = some problem) (session : Value) :
    (save (.text id) session).runFrom s =
      (print ("Error saving session " ++ id ++ ": " ++ problemMessage (.text id) problem)).runFrom s := by
  simp [save, blocked, asText]

theorem save_filed (housed : Housed s.tree) (inside : Inside id) (fields : Fields) :
    ∃ t, (save (.text id) (.record fields)).runFrom s = (.ok (), t) ∧ t.active = s.active ∧
      Filed id fields s.tree t.tree ∧ Frame s t := by
  cases long : hasLongName (.text id) with
  | true =>
    have blocked : problem? s.tree (.text id) = some .longName := by simp [housed.problem?_eq inside.passable, long]
    rw [save_reports blocked]
    exact ⟨_, rfl, rfl, ⟨fun other => by simp [long], fun other => rfl⟩, ⟨rfl, rfl, rfl⟩⟩
  | false =>
    obtain ⟨tree, writes, saves⟩ := save_writes (housed.problem?_iff.2 ⟨inside.passable, long⟩) (.record fields)
    refine ⟨_, saves, rfl, ⟨fun other => ?_, isDirectory_write writes⟩, ⟨rfl, rfl, rfl⟩⟩
    simpa [long] using text?_write writes other

/-! ### Loading -/

/-- What the file of an id reads as. -/
def stored (tree : FileTree) (id : String) : Option Value :=
  if problem? tree (.text id) = none then
    (tree.text? (path (.text id))).bind fun text => (Json.read (unifiedLines text)).toOption
  else none

theorem stored_eq_some_iff :
    stored tree id = some session ↔ problem? tree (.text id) = none ∧
      ∃ text, tree.text? (path (.text id)) = some text ∧ Json.read (unifiedLines text) = .ok session := by
  by_cases free : problem? tree (.text id) = none
  · rw [stored, if_pos free, Option.bind_eq_some_iff]
    have reads (text : String) : (Json.read (unifiedLines text)).toOption = some session ↔
        Json.read (unifiedLines text) = .ok session := by
      cases Json.read (unifiedLines text) <;> simp
    simp only [free, true_and, reads]
  · simp [stored, free]

theorem hasLongName_of_stored (found : stored tree id = some session) : hasLongName (.text id) = false :=
  (problem?_eq_none_iff.1 (stored_eq_some_iff.1 found).1).2.1

theorem passable_of_stored (housed : Housed tree) (found : stored tree id = some session) : Passable id :=
  (housed.problem?_iff.1 (stored_eq_some_iff.1 found).1).1

/-- With the same directories, a file that stays reads as before. -/
theorem stored_eq_of_text? (folders : ∀ path, new.isDirectory path = old.isDirectory path)
    (file : new.text? (path (.text id)) = old.text? (path (.text id))) : stored new id = stored old id := by
  rw [stored, stored, file]
  simp only [problem?_congr folders]

theorem loadFile_stored (s : Sessions) (id : String) :
    ∃ t, (loadFile (.text id)).runFrom s = (.ok ((stored s.tree id).getD .null), t) ∧ t.active = s.active ∧
      t.tree = s.tree ∧ Frame s t := by
  cases problem : problem? s.tree (.text id) with
  | some kind =>
    have none_ : stored s.tree id = none := by simp [stored, problem]
    rw [none_]
    simp only [loadFile, runFrom_bind, runFrom_get, problem]
    cases kind with
    | missing | notDirectory => exact ⟨s, rfl, rfl, rfl, ⟨rfl, rfl, rfl⟩⟩
    | directory | longName => exact ⟨_, rfl, rfl, rfl, ⟨rfl, rfl, rfl⟩⟩
  | none =>
    have reads : stored s.tree id =
        (s.tree.text? (path (.text id))).bind fun text => (Json.read (unifiedLines text)).toOption := by
      simp [stored, problem]
    rw [reads]
    simp only [loadFile, runFrom_bind, runFrom_get, problem]
    cases s.tree.text? (path (.text id)) with
    | none => exact ⟨s, rfl, rfl, rfl, ⟨rfl, rfl, rfl⟩⟩
    | some text =>
      simp only [Option.bind_some]
      cases Json.read (unifiedLines text) with
      | ok session => exact ⟨s, rfl, rfl, rfl, ⟨rfl, rfl, rfl⟩⟩
      | error fault => exact ⟨_, rfl, rfl, rfl, ⟨rfl, rfl, rfl⟩⟩

end Playhouse.Sessions
