import Playhouse.Proofs.Photo.Folder

/-!
Clearing out old photos. The age of an entry is rounded down to whole days before it is compared with the limit, so a
photo goes one day after it has become too old. What cannot be removed is passed over; a time outside the calendar ends
the clean-up, and nothing behind it in the listing is looked at.
-/
namespace Playhouse.Photo
open FileTree List Moment Bool

variable {name : String}

variable {now : Moment} {limit : Value} {shelf : Shelf} {tree : FileTree} {days : Nat} {path : String}

/-! ### What goes -/

/-- The entries that are looked at: those before the first one that breaks the clean-up off. -/
def Shelf.reached (shelf : Shelf) (now : Moment) (limit : Value) : List String :=
  shelf.listing.takeWhile fun name => ruling now limit (shelf.changed? name) != .breaksOff

/-- The entry goes, and nothing keeps it. -/
def Shelf.loses (shelf : Shelf) (now : Moment) (limit : Value) (name : String) : Bool :=
  ruling now limit (shelf.changed? name) == .goes && !shelf.isFixed name

/-- Removes some files of the folder. -/
def removeAll (names : List String) (tree : FileTree) : FileTree :=
  names.foldl (fun tree name => tree.removeFile (uploadFolder ++ "/" ++ name)) tree

theorem removeAll_cons (name : String) (names : List String) (tree : FileTree) :
    removeAll (name :: names) tree = removeAll names (tree.removeFile (uploadFolder ++ "/" ++ name)) := foldl_cons ..

theorem clear_eq (now : Moment) (limit : Value) (shelf : Shelf) (listing : List String) (tree : FileTree) :
    clear now limit shelf listing tree =
      removeAll ((listing.takeWhile fun name => ruling now limit (shelf.changed? name) != .breaksOff).filter
        (shelf.loses now limit)) tree := by
  induction listing generalizing tree with
  | nil => rfl
  | cons name rest ih =>
    rw [clear, takeWhile_cons]
    cases rule : ruling now limit (shelf.changed? name) with
    | breaksOff => rfl
    | stays =>
      have kept : shelf.loses now limit name = false := by simp [Shelf.loses, rule]
      simp only [bne_iff_ne, ne_eq, reduceCtorEq, not_false_eq_true, if_true, filter_cons, kept,
        false_eq_true, if_false, ih]
    | goes =>
      have lost : shelf.loses now limit name = !shelf.isFixed name := by simp [Shelf.loses, rule]
      simp only [bne_iff_ne, ne_eq, reduceCtorEq, not_false_eq_true, if_true, filter_cons, lost, ih]
      cases shelf.isFixed name with
      | true => simp only [Bool.not_true, false_eq_true, if_true, if_false]
      | false => simp only [Bool.not_false, false_eq_true, if_true, if_false, removeAll_cons]

theorem text?_removeAll (names : List String) (tree : FileTree) (path : String) :
    (removeAll names tree).text? path =
      if names.any fun name => parts path == parts (uploadFolder ++ "/" ++ name) then none else tree.text? path := by
  induction names generalizing tree with
  | nil => rw [removeAll, foldl_nil, any_nil, if_neg Bool.false_ne_true]
  | cons name names ih =>
    rw [removeAll_cons, ih, text?_removeFile, any_cons]
    generalize parts (uploadFolder ++ "/" ++ name) = place
    by_cases here : parts path = place <;> simp [here]

theorem isDirectory_removeAll (there : tree.isDirectory path = true) (names : List String) :
    (removeAll names tree).isDirectory path = true := by
  induction names generalizing tree with
  | nil => exact there
  | cons name names ih => exact ih (isDirectory_removeFile there _)

/-! ### What becomes of the photos -/

/-- The entry was changed more than some days ago. -/
def Shelf.IsOld (shelf : Shelf) (now : Moment) (days : Nat) (name : String) : Prop :=
  ∃ changed, shelf.changed? name = some changed ∧ days * day < now.micros - changed.micros

/-- The entry has been old for a day. -/
def Shelf.IsOverdue (shelf : Shelf) (now : Moment) (days : Nat) (name : String) : Prop :=
  ∃ changed, shelf.changed? name = some changed ∧ (days + 1) * day ≤ now.micros - changed.micros

theorem ruling_days (now changed : Moment) (days : Nat) :
    ruling now (.int days) (some changed) =
      if changed.isDate then
        if (days + 1) * day ≤ now.micros - changed.micros then .goes else .stays
      else .breaksOff := by
  have positive : 0 < day := by decide
  have least : (days : Int) < (now.micros - changed.micros) / day ↔
      (days + 1) * day ≤ now.micros - changed.micros := Int.le_ediv_iff_mul_le positive
  cases date : changed.isDate <;> simp [ruling, date, Value.number?, Number.less, least]

/-- An entry that is reached is lost if it has been old for a day and nothing keeps it. -/
theorem loses_iff (reached : ruling now (.int days) (shelf.changed? name) ≠ .breaksOff) :
    shelf.loses now (.int days) name = true ↔ shelf.IsOverdue now days name ∧ shelf.isFixed name = false := by
  rw [Shelf.loses, and_eq_true, not_eq_true', beq_iff_eq]
  refine and_congr_left fun _ => ?_
  cases known : shelf.changed? name with
  | none => simp [Shelf.IsOverdue, known, ruling]
  | some changed =>
    rw [known, ruling_days] at reached
    rw [ruling_days]
    cases date : changed.isDate with
    | false => simp [date] at reached
    | true => simp [Shelf.IsOverdue, known]

/-- Under a name of the folder stands an entry that is reached, has been old for a day, and is not kept. -/
def Shelf.ClearsOut (shelf : Shelf) (now : Moment) (days : Nat) (name : String) : Prop :=
  ∃ entry ∈ shelf.reached now (.int days), parts (uploadFolder ++ "/" ++ entry) = folder ++ [name] ∧
    shelf.IsOverdue now days entry ∧ shelf.isFixed entry = false

theorem mem_reached (reached : name ∈ shelf.reached now limit) :
    name ∈ shelf.listing ∧ ruling now limit (shelf.changed? name) ≠ .breaksOff :=
  ⟨( takeWhile_prefix _).subset reached, by simpa using mem_takeWhile_imp reached⟩

/-- Whatever the listing says, clearing out adds no file to the folder and takes only what it clears out. -/
theorem inFolder_cleanUp (now : Moment) (shelf : Shelf) (tree : FileTree) (days : Nat) (name : String) :
    (InFolder (cleanUp now shelf tree (.int days)) name → InFolder tree name) ∧
      (InFolder tree name → InFolder (cleanUp now shelf tree (.int days)) name ∨ shelf.ClearsOut now days name) := by
  unfold cleanUp
  split
  · rw [clear_eq]
    unfold InFolder
    simp only [text?_removeAll]
    constructor
    · rintro ⟨path, held, inside⟩
      split at held
      · cases held
      · exact ⟨path, held, inside⟩
    · rintro ⟨path, held, inside⟩
      by_cases taken : (((shelf.reached now (.int days)).filter (shelf.loses now (.int days))).any
          fun entry => parts path == parts (uploadFolder ++ "/" ++ entry)) = true
      · obtain ⟨entry, member, here⟩ := any_eq_true.1 taken
        obtain ⟨reached, lost⟩ := mem_filter.1 member
        refine .inr ⟨entry, reached, ?_, (loses_iff (mem_reached reached).2).1 lost⟩
        rw [← inside, beq_iff_eq.1 here]
      · exact .inl ⟨path, (if_neg taken).symm ▸ held, inside⟩
  · exact ⟨id, .inl⟩

/-- The folder is there, and the listing names its entries. -/
structure Shelf.Lists (shelf : Shelf) (tree : FileTree) : Prop where
  there : tree.exists? uploadFolder = true
  names : ∀ name, name ∈ shelf.listing ↔ IsName name ∧ tree.exists? (uploadFolder ++ "/" ++ name) = true

theorem Shelf.Lists.cleanUp_eq (lists : shelf.Lists tree) (now : Moment) (limit : Value) :
    cleanUp now shelf tree limit = removeAll ((shelf.reached now limit).filter (shelf.loses now limit)) tree := by
  rw [cleanUp, if_pos lists.there, clear_eq]
  rfl

/-- The path is that of an entry that is reached, has been old for a day, and is not kept. -/
def Shelf.Takes (shelf : Shelf) (now : Moment) (days : Nat) (path : String) : Prop :=
  ∃ name ∈ shelf.reached now (.int days), parts path = folder ++ [name] ∧ shelf.IsOverdue now days name ∧
    shelf.isFixed name = false

theorem Shelf.Lists.takes_iff_any (lists : shelf.Lists tree) :
    shelf.Takes now days path ↔ ((shelf.reached now (.int days)).filter (shelf.loses now (.int days))).any
      (fun name => parts path == parts (uploadFolder ++ "/" ++ name)) = true := by
  have place {name : String} (reached : name ∈ shelf.reached now (.int days)) :
      parts (uploadFolder ++ "/" ++ name) = folder ++ [name] :=
    parts_uploaded ((lists.names name).1 (mem_reached reached).1).1
  rw [any_eq_true]
  constructor
  · rintro ⟨name, reached, here, late⟩
    refine ⟨name, mem_filter.2 ⟨reached, (loses_iff (mem_reached reached).2).2 late⟩, ?_⟩
    rw [beq_iff_eq, place reached, here]
  · rintro ⟨name, member, here⟩
    obtain ⟨reached, lost⟩ := mem_filter.1 member
    rw [beq_iff_eq, place reached] at here
    exact ⟨name, reached, here, (loses_iff (mem_reached reached).2).1 lost⟩

/-- What is taken is gone, and every other file is as before. -/
theorem Shelf.Lists.text?_cleanUp (lists : shelf.Lists tree) (now : Moment) (days : Nat) (path : String) :
    (shelf.Takes now days path → (cleanUp now shelf tree (.int days)).text? path = none) ∧
      (¬shelf.Takes now days path → (cleanUp now shelf tree (.int days)).text? path = tree.text? path) := by
  rw [lists.cleanUp_eq, text?_removeAll, lists.takes_iff_any]
  exact ⟨fun taken => if_pos taken, fun spared => if_neg spared⟩

/-- Of the listed files exactly those are gone that are taken. -/
theorem Shelf.Lists.removed_iff (lists : shelf.Lists tree) (listed : name ∈ shelf.listing)
    (file : tree.isFile (uploadFolder ++ "/" ++ name) = true) :
    (cleanUp now shelf tree (.int days)).isFile (uploadFolder ++ "/" ++ name) = false ↔
      name ∈ shelf.reached now (.int days) ∧ shelf.IsOverdue now days name ∧ shelf.isFixed name = false := by
  have place : parts (uploadFolder ++ "/" ++ name) = folder ++ [name] := parts_uploaded ((lists.names name).1 listed).1
  obtain ⟨gone, spared⟩ := lists.text?_cleanUp now days (uploadFolder ++ "/" ++ name)
  have taken : shelf.Takes now days (uploadFolder ++ "/" ++ name) ↔
      name ∈ shelf.reached now (.int days) ∧ shelf.IsOverdue now days name ∧ shelf.isFixed name = false := by
    rw [Shelf.Takes, place]
    constructor
    · rintro ⟨other, reached, same, late⟩
      cases (cons.inj (append_cancel_left same)).1
      exact ⟨reached, late⟩
    · rintro ⟨reached, late⟩
      exact ⟨name, reached, rfl, late⟩
  rw [← taken]
  constructor
  · intro missing
    by_contra kept
    rw [isFile, spared kept, ← isFile, file] at missing
    cases missing
  · intro took
    rw [isFile, gone took]
    rfl

/-- **Which old photos go.** Clearing out leaves every directory. It removes the photos of the folder that have been too
old for a day, can be removed, and are not listed behind an entry whose time is outside the calendar; every other file is
as before, whatever could not be removed. So all photos that are older than the given days and can be removed are gone
exactly if each of them has been too old for a day and is reached. -/
theorem old_photos_gone_iff (lists : shelf.Lists tree) (now : Moment) (days : Nat) :
    let left := cleanUp now shelf tree (.int days)
    (∀ path, (tree.isDirectory path = true → left.isDirectory path = true) ∧
      (shelf.Takes now days path → left.text? path = none) ∧
      (¬shelf.Takes now days path → left.text? path = tree.text? path)) ∧
    ((∀ name ∈ shelf.listing, tree.isFile (uploadFolder ++ "/" ++ name) = true → shelf.isFixed name = false →
        shelf.IsOld now days name → left.isFile (uploadFolder ++ "/" ++ name) = false) ↔
      ∀ name ∈ shelf.listing, tree.isFile (uploadFolder ++ "/" ++ name) = true → shelf.isFixed name = false →
        shelf.IsOld now days name → name ∈ shelf.reached now (.int days) ∧ shelf.IsOverdue now days name) := by
  refine ⟨fun path => ⟨fun there => ?_, lists.text?_cleanUp now days path⟩, ?_⟩
  · rw [lists.cleanUp_eq]
    exact isDirectory_removeAll there _
  · refine forall₂_congr fun name listed => forall₃_congr fun file loose old => ?_
    rw [lists.removed_iff listed file]
    simp [loose]

/-- A photo of seven days and a second stays where those of more than seven days are to go. -/
theorem photo_of_last_week_stays :
    let tree : FileTree := ⟨[("static", .directory), ("static/uploads", .directory), ("static/uploads/a.jpg", .file "x")]⟩
    let shelf : Shelf := { listing := ["a.jpg"], changed? := fun _ => some ⟨0⟩ }
    let now : Moment := ⟨7 * Moment.day + Moment.second⟩
    shelf.Lists tree ∧ shelf.IsOld now 7 "a.jpg" ∧
      (cleanUp now shelf tree (.int 7)).isFile "static/uploads/a.jpg" = true := by
  intro tree shelf now
  have named : IsName "a.jpg" := isName_of_length (by decide) (by decide)
  have lists : shelf.Lists tree := by
    refine ⟨rfl, fun name => ⟨fun listed => ?_, fun ⟨named, found⟩ => ?_⟩⟩
    · rw [List.mem_singleton.1 listed]
      exact ⟨named, by decide +kernel⟩
    · have place := parts_uploaded named
      obtain ⟨entry, found⟩ := Option.isSome_iff_exists.1 found
      have held := mem_of_find? (by rw [place]; exact List.cons_ne_nil _ _) found
      have same : plain (uploadFolder ++ "/" ++ name) ∈ tree.entries.map Prod.fst := List.mem_map.2 ⟨_, held, rfl⟩
      have known : folder ++ [name] ∈ (tree.entries.map Prod.fst).map parts := by
        rw [← place, ← parts_plain]
        exact List.mem_map.2 ⟨_, same, rfl⟩
      have keys : (tree.entries.map Prod.fst).map parts = [["static"], folder, folder ++ ["a.jpg"]] := by decide +kernel
      rw [keys] at known
      exact List.mem_singleton.2 (by simpa [folder] using known)
  have old : shelf.IsOld now 7 "a.jpg" := ⟨⟨0⟩, rfl, by decide⟩
  refine ⟨lists, old, ?_⟩
  by_contra gone
  rw [Bool.not_eq_true] at gone
  have overdue := (old_photos_gone_iff lists now 7).2.1 (fun name listed _ _ _ => List.mem_singleton.1 listed ▸ gone)
    "a.jpg" List.mem_cons_self (by decide +kernel) rfl old
  obtain ⟨changed, same, late⟩ := overdue.2
  cases same
  exact absurd late (by decide)

end Playhouse.Photo
