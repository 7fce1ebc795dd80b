import Playhouse.Photo.Upload
import Playhouse.Photo.Verification
import Playhouse.Proofs.Act
import Playhouse.Proofs.Time.Iso
import Playhouse.Proofs.World.FileTree

/-!
The folder of uploads. A photo is stored under its safe name with a stamp and a tag before it, and its
enhanced copy beside it with the same extension; both are names of photos exactly if the safe name is one.
Nothing but these two appears in the folder, and handing in a photo takes nothing but the probe out of it. Whatever an
upload calls itself, every file but that of its photo is left as it was.
-/
namespace Playhouse
open Text Moment Act Option

variable {better other : String}

namespace Photo
open FileTree

variable {now : Moment} {tag name : String} {tree : FileTree} {upload : Upload} {lens : Lens}

/-! ### Names -/

theorem isPhotoName_append {front : String} (pointless : '.' ∉ front.toList) (name : String) :
    isPhotoName (front ++ name) = isPhotoName name := by
  unfold isPhotoName
  rw [String.toList_append, cutLast?_append pointless]
  cases cutLast? '.' name.toList <;> rfl

theorem isPhotoName_of_cut {head tail : List Char} (cut : cutLast? '.' name.toList = some (head, tail))
    (front : List Char) : isPhotoName (String.ofList (front ++ '.' :: tail)) = isPhotoName name := by
  have last := (cutLast?_eq_some_iff.1 cut).2
  have cut_front : cutLast? '.' (front ++ '.' :: tail) = some (front, tail) :=
    cutLast?_eq_some_iff.2 ⟨rfl, last⟩
  rw [isPhotoName, String.toList_ofList, cut_front, isPhotoName, cut]

variable {c : Char} {prepared written : FileTree} {path text : String}

theorem isSafe_of_mem_safeName {name : List Char} (member : c ∈ safeName name) : isSafe c = true := by
  unfold safeName trimEdges at member
  have inner := (List.dropWhile_sublist _).subset (List.mem_reverse.1 member)
  have kept := (List.dropWhile_sublist _).subset (List.mem_reverse.1 inner)
  exact (List.mem_filter.1 kept).2

/-- What stands before the safe name. -/
def label (now : Moment) (tag : String) : String := now.stamp ++ "_" ++ tag ++ "_"

theorem storedName_eq (now : Moment) (tag name : String) :
    storedName now tag name = label now tag ++ String.ofList (safeName name.toList) := rfl

/-- A tag of letters and digits. -/
def IsTag (tag : String) : Prop := ∀ c ∈ tag.toList, c.isAlphanum = true

theorem isAlphanum_of_isDigit (digit : c.isDigit = true) : c.isAlphanum = true := by
  simp [Char.isAlphanum, digit]

theorem mem_label (tagged : IsTag tag) (member : c ∈ (label now tag).toList) : c.isAlphanum = true ∨ c = '_' := by
  have digits {width n : Nat} (member : c ∈ (padded width n).toList) : c.isAlphanum = true :=
    isAlphanum_of_isDigit (isDigit_padded member)
  have underline (member : c ∈ "_".toList) : c = '_' := List.mem_singleton.1 member
  simp only [label, stamp, String.toList_append, List.mem_append] at member
  rcases member with ((((((((year | month) | day) | mark) | hour) | minute) | second) | mark) | letter) | mark
  · exact .inl (digits year)
  · exact .inl (digits month)
  · exact .inl (digits day)
  · exact .inr (underline mark)
  · exact .inl (digits hour)
  · exact .inl (digits minute)
  · exact .inl (digits second)
  · exact .inr (underline mark)
  · exact .inl (tagged c letter)
  · exact .inr (underline mark)

theorem notMem_label (tagged : IsTag tag) (other : c.isAlphanum = false) (differs : c ≠ '_') :
    c ∉ (label now tag).toList := by
  intro member
  rcases mem_label tagged member with letter | mark
  · rw [other] at letter
    cases letter
  · exact differs mark

theorem isPhotoName_storedName (tagged : IsTag tag) (now : Moment) (name : String) :
    isPhotoName (storedName now tag name) = isPhotoName (String.ofList (safeName name.toList)) := by
  rw [storedName_eq]
  exact isPhotoName_append (notMem_label tagged rfl (by decide)) _

theorem isName_storedName (tagged : IsTag tag) (now : Moment) (name : String) : IsName (storedName now tag name) := by
  refine isName_of_length ?_ ?_
  · simp [storedName, stamp]
    omega
  · rw [storedName_eq, String.toList_append, List.mem_append, not_or, String.toList_ofList]
    refine ⟨notMem_label tagged rfl (by decide), fun member => ?_⟩
    have safe := isSafe_of_mem_safeName member
    revert safe
    decide

theorem storedName_ne_probe (now : Moment) (tag name : String) : storedName now tag name ≠ ".test" := by
  intro same
  have mark : '_' ∈ (storedName now tag name).toList := by simp [storedName]
  rw [same] at mark
  revert mark
  decide

/-! ### The folder -/

/-- The parts of the folder. -/
def folder : List String := ["static", "uploads"]

theorem parts_uploaded (named : IsName name) : parts (uploadFolder ++ "/" ++ name) = folder ++ [name] :=
  parts_append_name uploadFolder named

/-- A file stands in the folder under a name. -/
def InFolder (tree : FileTree) (name : String) : Prop := ∃ path, (tree.text? path).isSome ∧ parts path = folder ++ [name]

theorem inFolder_iff (named : IsName name) : InFolder tree name ↔ (tree.text? (uploadFolder ++ "/" ++ name)).isSome := by
  refine ⟨?_, fun held => ⟨_, held, parts_uploaded named⟩⟩
  rintro ⟨path, held, inside⟩
  rwa [text?, ← find?_congr tree (inside.trans (parts_uploaded named).symm)]

/-- Every file in the folder has the name of a photo. -/
def OnlyPhotos (tree : FileTree) : Prop := ∀ name, InFolder tree name → isPhotoName name = true

theorem onlyPhotos_empty : OnlyPhotos {} := by
  rintro name ⟨path, held, -⟩
  obtain ⟨text, found⟩ := Option.isSome_iff_exists.1 held
  rw [text?_eq_some_iff, find?] at found
  dsimp only at found
  split at found <;> cases found

theorem inFolder_write (named : IsName name) (writes : tree.write? (uploadFolder ++ "/" ++ name) text = some written) :
    InFolder written other ↔ other = name ∨ InFolder tree other := by
  unfold InFolder
  simp only [text?_write writes, parts_uploaded named]
  constructor
  · rintro ⟨path, held, inside⟩
    split at held
    · rename_i here
      exact .inl (List.cons.inj (List.append_cancel_left (inside.symm.trans here))).1
    · exact .inr ⟨path, held, inside⟩
  · rintro (rfl | ⟨path, held, inside⟩)
    · exact ⟨_, by simp [parts_uploaded named], parts_uploaded named⟩
    · refine ⟨path, ?_, inside⟩
      split
      · rfl
      · exact held

/-- The name of the enhanced copy of a file in the folder. -/
def enhancedName? (name : String) : Option String :=
  (cutLast? '.' name.toList).map fun (stem, extension) =>
    String.ofList stem ++ "_enhanced." ++ String.ofList extension

theorem enhancedPath?_uploaded (name : String) :
    enhancedPath? (uploadFolder ++ "/" ++ name) =
      (enhancedName? name).map fun better => uploadFolder ++ "/" ++ better := by
  have pointless : '.' ∉ (uploadFolder ++ "/").toList := by decide
  rw [enhancedPath?, enhancedName?, String.toList_append, cutLast?_append pointless]
  cases cutLast? '.' name.toList with
  | none => rfl
  | some pair =>
    obtain ⟨stem, extension⟩ := pair
    simp [String.ofList_append, String.append_assoc]

theorem isPhotoName_enhancedName (enhances : enhancedName? name = some better) :
    isPhotoName better = isPhotoName name := by
  obtain ⟨⟨stem, extension⟩, cut, rfl⟩ := map_eq_some_iff.1 enhances
  have form : String.ofList stem ++ "_enhanced." ++ String.ofList extension =
      String.ofList (stem ++ "_enhanced".toList ++ '.' :: extension) := String.toList_inj.1 (by simp)
  dsimp only
  rw [form]
  exact isPhotoName_of_cut cut _

theorem isName_enhancedName (named : IsName name) (enhances : enhancedName? name = some better) : IsName better := by
  obtain ⟨⟨stem, extension⟩, cut, rfl⟩ := map_eq_some_iff.1 enhances
  have whole := named.2.2.2
  rw [(cutLast?_eq_some_iff.1 cut).1] at whole
  refine isName_of_length ?_ ?_
  · simp
    omega
  · simp_all

theorem text?_prepare (prepares : prepare? tree = some prepared) (path : String) :
    prepared.text? path = if parts path = folder ++ [".test"] then none else tree.text? path := by
  obtain ⟨made, makes, rest⟩ := bind_eq_some_iff.1 prepares
  obtain ⟨probed, probes, done⟩ := bind_eq_some_iff.1 rest
  have probe : parts (uploadFolder ++ "/.test") = folder ++ [".test"] := by decide
  rw [← Option.some.inj done, text?_removeFile, probe]
  split
  · rfl
  · rename_i elsewhere
    rw [text?_write probes, probe, if_neg elsewhere, text?_makeDirectories makes]

/-! ### Storing a photo -/

/-- What storing a photo can do: nothing, try the folder out and fail, write a part of the photo and fail, or write the
photo. -/
inductive Saved (now : Moment) (tag : String) (upload : Upload) (tree : FileTree) : Except Fault String × FileTree → Prop
  | unready {fault : Fault} (cause : fault.isDatabase = false) : Saved now tag upload tree (.error fault, tree)
  | fails {fault : Fault} (cause : fault.isDatabase = false) {prepared : FileTree}
      (prepares : prepare? tree = some prepared) : Saved now tag upload tree (.error fault, prepared)
  | tears {part reason : String} {prepared written : FileTree} {name : String}
      (torn : upload.saving = .tears part reason) (prepares : prepare? tree = some prepared)
      (named : upload.filename = .text name)
      (writes : prepared.write? (uploadFolder ++ "/" ++ storedName now tag name) part = some written) :
      Saved now tag upload tree (.error (.storage reason), written)
  | stores {prepared written : FileTree} {name : String} (prepares : prepare? tree = some prepared)
      (named : upload.filename = .text name)
      (writes : prepared.write? (uploadFolder ++ "/" ++ storedName now tag name) upload.text = some written) :
      Saved now tag upload tree (.ok (uploadFolder ++ "/" ++ storedName now tag name), written)

theorem save_saved (now : Moment) (tag : String) (upload : Upload) (tree : FileTree) :
    Saved now tag upload tree ((save now tag upload).runFrom tree) := by
  simp only [save, runFrom_bind, runFrom_get]
  cases prepares : prepare? tree with
  | none => exact .unready rfl
  | some prepared =>
    cases named : upload.filename with
    | text name =>
      simp only [runFrom_bind, runFrom_set, runFrom_pure]
      cases saving : upload.saving with
      | fails reason | loses => exact .fails rfl prepares
      | tears part reason =>
        rw [runFrom_bind]
        cases writes : prepared.write? (uploadFolder ++ "/" ++ storedName now tag name) part with
        | none => exact .fails (by split <;> rfl) prepares
        | some written => exact .tears saving prepares named writes
      | writes =>
        rw [runFrom_bind]
        cases writes : prepared.write? (uploadFolder ++ "/" ++ storedName now tag name) upload.text with
        | none => exact .fails (by split <;> rfl) prepares
        | some written => exact .stores prepares named writes
    | _ => exact .fails rfl prepares

/-! ### Handing in a photo -/

/-- Only a copy with an enhanced name may appear beside a photo that is looked at. -/
theorem enhance_cases (lens : Lens) (path : String) (tree : FileTree) : (enhance lens path tree).2 = tree ∨
      ∃ better, enhancedPath? path = some better ∧ tree.write? better "" = some (enhance lens path tree).2 := by
  unfold enhance
  cases lens.image with
  | readable =>
    cases enhances : enhancedPath? path with
    | none => exact .inl rfl
    | some better =>
      dsimp only
      cases writes : tree.write? better "" with
      | none => exact .inl rfl
      | some written => exact .inr ⟨better, rfl, writes⟩
  | _ => exact .inl rfl

/-- A photo that was stored is there to be looked at. -/
theorem verify_tree (writes : tree.write? path text = some written) (lens : Lens) (demand : Demand) :
    (verify lens path demand written).2 = (enhance lens path written).2 := by
  have there : written.exists? path = true := by
    rw [exists?, find?_write writes, if_pos rfl]
    rfl
  rw [verify, if_pos there]

/-- The files after a photo was handed in: it is stored, and then looked at. -/
def file (lens : Lens) (now : Moment) (tag : String) (upload : Upload) (tree : FileTree) : FileTree :=
  match (save now tag upload).runFrom tree with
  | (.ok path, stored) => (enhance lens path stored).2
  | (.error _, left) => left

theorem inFolder_prepare (prepares : prepare? tree = some prepared) :
    InFolder prepared other ↔ other ≠ ".test" ∧ InFolder tree other := by
  unfold InFolder
  simp only [text?_prepare prepares]
  constructor
  · rintro ⟨path, held, inside⟩
    split at held
    · cases held
    · rename_i elsewhere
      exact ⟨fun probe => elsewhere (by rw [inside, probe]), path, held, inside⟩
  · rintro ⟨kept, path, held, inside⟩
    refine ⟨path, ?_, inside⟩
    rw [if_neg]
    · exact held
    · intro probe
      exact kept (List.cons.inj (List.append_cancel_left (inside.symm.trans probe))).1

theorem inFolder_enhance (named : IsName name) (lens : Lens) (tree : FileTree) (other : String) :
    (InFolder (enhance lens (uploadFolder ++ "/" ++ name) tree).2 other →
        InFolder tree other ∨ enhancedName? name = some other) ∧
      (InFolder tree other → InFolder (enhance lens (uploadFolder ++ "/" ++ name) tree).2 other) := by
  rcases enhance_cases lens (uploadFolder ++ "/" ++ name) tree with same | ⟨better, enhances, copies⟩
  · rw [same]
    exact ⟨.inl, id⟩
  · rw [enhancedPath?_uploaded] at enhances
    obtain ⟨copy, names, rfl⟩ := map_eq_some_iff.1 enhances
    rw [inFolder_write (isName_enhancedName named names) copies]
    refine ⟨?_, .inr⟩
    rintro (rfl | held)
    · exact .inr names
    · exact .inl held

/-- What is in the folder after a photo was handed in was there before, or is the file of the photo or its enhanced
copy; and nothing that was there is gone but the probe. -/
theorem inFolder_file (tagged : IsTag tag) (lens : Lens) (now : Moment) (upload : Upload) (tree : FileTree)
    (other : String) :
    (InFolder (file lens now tag upload tree) other → InFolder tree other ∨ ∃ name, upload.filename = .text name ∧
        InFolder ((save now tag upload).runFrom tree).2 (storedName now tag name) ∧
        (other = storedName now tag name ∨ enhancedName? (storedName now tag name) = some other)) ∧
      (other ≠ ".test" → InFolder tree other → InFolder (file lens now tag upload tree) other) := by
  have saved := save_saved now tag upload tree
  unfold file
  generalize (save now tag upload).runFrom tree = outcome at saved ⊢
  cases saved with
  | unready => exact ⟨.inl, fun _ => id⟩
  | fails _ prepares =>
    rw [inFolder_prepare prepares]
    exact ⟨fun held => .inl held.2, And.intro⟩
  | @tears part reason prepared written name torn prepares named writes =>
    simp only [inFolder_write (isName_storedName tagged now name) writes, inFolder_prepare prepares]
    refine ⟨?_, fun kept held => .inr ⟨kept, held⟩⟩
    rintro (rfl | held)
    · exact .inr ⟨name, named, .inl rfl, .inl rfl⟩
    · exact .inl held.2
  | @stores prepared written name prepares named writes =>
    have label := isName_storedName tagged now name
    have both (other : String) : InFolder written other ↔
        other = storedName now tag name ∨ other ≠ ".test" ∧ InFolder tree other := by
      rw [inFolder_write label writes, inFolder_prepare prepares]
    obtain ⟨only, kept⟩ := inFolder_enhance label lens written other
    refine ⟨fun held => ?_, fun differs held => kept ((both other).2 (.inr ⟨differs, held⟩))⟩
    have left : InFolder written (storedName now tag name) := (both _).2 (.inl rfl)
    rcases only held with held | copy
    · rcases (both other).1 held with rfl | held
      · exact .inr ⟨name, named, left, .inl rfl⟩
      · exact .inl held.2
    · exact .inr ⟨name, named, left, .inr copy⟩

/-- A file that storing a photo leaves is there when the photo was looked at. -/
theorem inFolder_file_of_left (tagged : IsTag tag) (lens : Lens)
    (left : InFolder ((save now tag upload).runFrom tree).2 other) : InFolder (file lens now tag upload tree) other := by
  have saved := save_saved now tag upload tree
  unfold file
  generalize (save now tag upload).runFrom tree = outcome at saved left ⊢
  cases saved with
  | unready | fails | tears => exact left
  | @stores prepared written name prepares named writes =>
    exact (inFolder_enhance (isName_storedName tagged now name) lens written other).2 left

/-! ### Every other file -/

variable {after : FileTree}

end Photo
end Playhouse
