import Playhouse.Proofs.Text.Split
import Playhouse.World.FileTree

/-!
Paths and what is found under them. A path names its file by its parts alone, so two paths lead to one
file exactly when their parts agree, and writing a file changes what is found under those paths only.
-/
namespace Playhouse
open List Text

variable {keeps : String × Entry → Bool} {entries : List (String × Entry)} {name : String} {entry : Entry}

namespace FileTree

/-! ### Parts -/

/-- A part that leads one step down. -/
def IsName (part : String) : Prop := part ≠ "" ∧ part ≠ "." ∧ part ≠ ".." ∧ '/' ∉ part.toList

theorem parts_eq (path : String) : parts path = ((splitText "/" path).foldl resolve []).reverse := rfl

variable {part text : String} {names : List String} {written : FileTree}

theorem resolve_name (name : IsName part) (done : List String) : resolve done part = part :: done := by
  obtain ⟨empty, here, back, -⟩ := name
  simp [resolve, empty, here, back]

theorem resolve_cases (done : List String) (part : String) : resolve done part = done ∨ resolve done part = done.tail ∨
      (resolve done part = part :: done ∧ part ≠ "" ∧ part ≠ "." ∧ part ≠ "..") := by
  unfold resolve
  split
  · exact .inl rfl
  · split
    · exact .inr (.inl rfl)
    · simp_all

theorem mem_foldl_resolve {pieces done : List String} (member : part ∈ pieces.foldl resolve done) :
    part ∈ done ∨ (part ∈ pieces ∧ part ≠ "" ∧ part ≠ "." ∧ part ≠ "..") := by
  induction pieces generalizing done with
  | nil => exact .inl member
  | cons piece pieces ih =>
    rcases ih member with passed | ⟨later, named⟩
    · rcases resolve_cases done piece with stays | back | ⟨down, named⟩
      · exact .inl (stays ▸ passed)
      · exact .inl (mem_of_mem_tail (back ▸ passed))
      · rw [down] at passed
        rcases mem_cons.1 passed with rfl | passed
        · exact .inr ⟨mem_cons_self, named⟩
        · exact .inl passed
    · exact .inr ⟨mem_cons_of_mem _ later, named⟩

variable {path : String}

theorem mem_splitText {piece : String} : piece ∈ splitText "/" path ↔ piece.toList ∈ split ['/'] path.toList := by
  simp only [splitText, mem_map]
  constructor
  · rintro ⟨chars, member, rfl⟩
    rw [String.toList_ofList]
    exact member
  · intro member
    exact ⟨piece.toList, member, String.ofList_toList⟩

theorem mem_parts (member : part ∈ parts path) : part ∈ splitText "/" path ∧ IsName part := by
  rw [parts_eq, mem_reverse] at member
  rcases mem_foldl_resolve member with none_ | ⟨piece, empty, here, back⟩
  · cases none_
  · exact ⟨piece, empty, here, back, notMem_of_mem_split (mem_splitText.1 piece)⟩

theorem foldl_resolve_names (named : ∀ name ∈ names, IsName name) (done : List String) :
    names.foldl resolve done = names.reverse ++ done := by
  induction names generalizing done with
  | nil => rfl
  | cons name names ih =>
    rw [foldl_cons, resolve_name (named name mem_cons_self), ih (forall_mem_cons.1 named).2]
    simp

theorem splitText_joinTexts (some_ : names ≠ []) (named : ∀ name ∈ names, IsName name) :
    splitText "/" (joinTexts "/" names) = names := by
  have whole : ∀ piece ∈ names.map String.toList, '/' ∉ piece := by
    intro piece member
    obtain ⟨name, held, rfl⟩ := mem_map.1 member
    exact (named name held).2.2.2
  have joined : (joinTexts "/" names).toList = join ['/'] (names.map String.toList) := String.toList_ofList
  have cut : split "/".toList (joinTexts "/" names).toList = names.map String.toList := by
    rw [joined]
    exact split_join (by simpa using some_) whole
  rw [splitText, cut, map_map]
  simp [Function.comp_def]

theorem parts_joinTexts (named : ∀ name ∈ names, IsName name) : parts (joinTexts "/" names) = names := by
  by_cases empty : names = []
  · subst empty
    rfl
  · rw [parts_eq, splitText_joinTexts empty named, foldl_resolve_names named]
    simp

theorem parts_append_name (path : String) (named : IsName name) :
    parts (path ++ "/" ++ name) = parts path ++ [name] := by
  have slash : "/".toList = ['/'] := rfl
  have text : (path ++ "/" ++ name).toList = path.toList ++ '/' :: name.toList := by simp
  have cut : splitText "/" (path ++ "/" ++ name) = splitText "/" path ++ [name] := by
    rw [splitText, splitText, slash, text, split_append, split_of_notMem named.2.2.2, map_append]
    simp
  rw [parts_eq, parts_eq, cut, foldl_append, foldl_cons, foldl_nil, resolve_name named, reverse_cons]

theorem isName_of_length (long : 2 < name.toList.length) (whole : '/' ∉ name.toList) : IsName name := by
  refine ⟨?_, ?_, ?_, whole⟩ <;> rintro rfl <;> exact absurd long (by decide)

theorem parts_plain (path : String) : parts (plain path) = parts path :=
  parts_joinTexts fun _ member => (mem_parts member).2

theorem plain_eq_iff {path other : String} : plain path = plain other ↔ parts path = parts other := by
  constructor
  · intro same
    rw [← parts_plain path, same, parts_plain]
  · intro same
    rw [plain, same]
    rfl

theorem plain_eq_empty_iff {path : String} : plain path = "" ↔ parts path = [] := by
  have root : plain "" = "" := rfl
  rw [← root, plain_eq_iff]
  rfl

/-! ### Entries -/

theorem lookup_cons (name other : String) (entry : Entry) (entries : List (String × Entry)) :
    ((name, entry) :: entries).lookup other = if other = name then some entry else entries.lookup other := by
  by_cases same : other = name
  · simp [same]
  · rw [List.lookup_cons, beq_false_of_ne same, if_neg same]

theorem lookup_put (name other : String) (entry : Entry) (entries : List (String × Entry)) :
    (put name entry entries).lookup other = if other = name then some entry else entries.lookup other := by
  unfold put
  induction entries with
  | nil => rw [Entries.put, lookup_cons]
  | cons first rest ih =>
    obtain ⟨key, old⟩ := first
    by_cases here : key = name
    · rw [Entries.put, if_pos (beq_iff_eq.2 here), lookup_cons, lookup_cons, here]
      split <;> rfl
    · rw [Entries.put, if_neg (mt beq_iff_eq.1 here), lookup_cons, lookup_cons, ih]
      by_cases same : other = key
      · have elsewhere : other ≠ name := same ▸ here
        rw [if_pos same, if_neg elsewhere, if_pos same]
      · rw [if_neg same, if_neg same]

theorem find?_congr (tree : FileTree) {other : String} (same : parts path = parts other) :
    tree.find? path = tree.find? other := by
  unfold find?
  rw [plain_eq_iff.2 same]

variable {tree : FileTree}

theorem write?_eq_some (nameable : isNameable path = true)
    (folder : tree.isDirectory (parent path) = true) (free : tree.isDirectory path = false) (text : String) :
    tree.write? path text = some ⟨put (plain path) (.file text) tree.entries⟩ := by
  simp [write?, nameable, folder, free]

/-- What is needed for a file to be written. -/
theorem of_write (writes : tree.write? path text = some written) :
    tree.isDirectory (parent path) = true ∧ tree.isDirectory path = false ∧
      written = ⟨put (plain path) (.file text) tree.entries⟩ := by
  unfold write? at writes
  split at writes
  · cases writes
    simp_all
  · cases writes

/-- After a file is written it is found under every path with its parts, and all else is as before. -/
theorem find?_write (writes : tree.write? path text = some written) (other : String) :
    written.find? other = if parts other = parts path then some (.file text) else tree.find? other := by
  obtain ⟨-, free, rfl⟩ := of_write writes
  have inside : parts path ≠ [] := by
    intro root
    simp [isDirectory, find?, plain_eq_empty_iff.2 root] at free
  by_cases same : parts other = parts path
  · have name : plain other ≠ "" := by
      rw [ne_eq, plain_eq_empty_iff, same]
      exact inside
    simp [find?, same, name, lookup_put, plain_eq_iff]
  · simp [find?, same, lookup_put, plain_eq_iff]

theorem text?_eq_some_iff : tree.text? path = some text ↔ tree.find? path = some (.file text) := by
  unfold text?
  split <;> simp_all

theorem isDirectory_iff : tree.isDirectory path = true ↔ tree.find? path = some .directory := by
  simp [isDirectory]

theorem text?_write (writes : tree.write? path text = some written) (other : String) :
    written.text? other = if parts other = parts path then some text else tree.text? other := by
  unfold text?
  rw [find?_write writes]
  by_cases same : parts other = parts path
  · simp only [if_pos same]
  · simp only [if_neg same]

/-- Writing a file makes no directory and removes none. -/
theorem isDirectory_write (writes : tree.write? path text = some written) (other : String) :
    written.isDirectory other = tree.isDirectory other := by
  unfold isDirectory
  rw [find?_write writes]
  split
  · rename_i same
    have free := (of_write writes).2.1
    rw [isDirectory, ← find?_congr tree same] at free
    rw [free]
    rfl
  · rfl

/-! ### Making directories and removing files -/

theorem mem_of_lookup (found : entries.lookup name = some entry) : (name, entry) ∈ entries := by
  obtain ⟨front, back, rfl, -⟩ := lookup_eq_some_iff.1 found
  exact mem_append_right _ mem_cons_self

theorem mem_of_find? (inside : parts path ≠ [])
    (found : tree.find? path = some entry) : (plain path, entry) ∈ tree.entries :=
  mem_of_lookup (by simpa [find?, plain_eq_empty_iff, inside] using found)

theorem lookup_filter_of_kept {other : String}
    (kept : ∀ entry, keeps (other, entry) = true) (entries : List (String × Entry)) :
    (entries.filter keeps).lookup other = entries.lookup other := by
  induction entries with
  | nil => rfl
  | cons first rest ih =>
    obtain ⟨key, held⟩ := first
    by_cases same : other = key
    · subst same
      rw [filter_cons_of_pos (kept held), lookup_cons, lookup_cons, if_pos rfl, if_pos rfl]
    · rw [lookup_cons, if_neg same, ← ih, filter_cons]
      split
      · rw [lookup_cons, if_neg same]
      · rfl

theorem lookup_filter_of_found (kept : keeps (name, entry) = true) (found : entries.lookup name = some entry) :
    (entries.filter keeps).lookup name = some entry := by
  obtain ⟨front, back, rfl, apart⟩ := lookup_eq_some_iff.1 found
  refine lookup_eq_some_iff.2 ⟨front.filter keeps, back.filter keeps, ?_, ?_⟩
  · rw [filter_append, filter_cons_of_pos kept]
  · exact fun other member => apart other (mem_of_mem_filter member)

/-- Making directories leaves every file. -/
theorem text?_makeDirectories {tree made : FileTree} (makes : tree.makeDirectories? path = some made) (other : String) :
    made.text? other = tree.text? other := by
  unfold makeDirectories? at makes
  generalize ancestry path = names at makes
  induction names generalizing tree with
  | nil =>
    cases makes
    rfl
  | cons name names ih =>
    rw [foldlM_cons] at makes
    obtain ⟨next, makes_one, makes_rest⟩ := Option.bind_eq_some_iff.1 makes
    rw [ih makes_rest]
    split at makes_one
    · cases makes_one
    · cases makes_one
      rfl
    · cases makes_one
      unfold text? find?
      dsimp only
      by_cases root : plain other = ""
      · rw [root]
        rfl
      · rw [if_neg (mt beq_iff_eq.1 root), if_neg (mt beq_iff_eq.1 root), lookup_append]
        -- where the tree had nothing there may be a directory now, which is no file either
        cases tree.entries.lookup (plain other) with
        | some entry => rfl
        | none => by_cases here : plain other = name <;> simp [here, lookup_cons]

/-- A file that is removed is gone, and all else is as before. -/
theorem text?_removeFile (tree : FileTree) (path other : String) :
    (tree.removeFile path).text? other = if parts other = parts path then none else tree.text? other := by
  unfold text? find? removeFile
  dsimp only
  by_cases root : plain other = ""
  · simp [root]
  rw [if_neg (mt beq_iff_eq.1 root), if_neg (mt beq_iff_eq.1 root)]
  by_cases same : plain other = plain path
  · rw [if_pos (plain_eq_iff.1 same), same]
    split
    · rename_i text found
      have kept := (mem_filter.1 (mem_of_lookup found)).2
      simp at kept
    · rfl
  · rw [if_neg (mt plain_eq_iff.2 same), lookup_filter_of_kept]
    intro entry
    simp [same]

/-- Removing a file removes no directory. -/
theorem isDirectory_removeFile (there : tree.isDirectory path = true) (other : String) :
    (tree.removeFile other).isDirectory path = true := by
  rw [isDirectory_iff, find?] at there ⊢
  dsimp only [removeFile] at there ⊢
  by_cases root : (plain path == "") = true
  · rw [if_pos root]
  · rw [if_neg root] at there ⊢
    exact lookup_filter_of_found (by simp) there

/-! ### The way along a path -/

variable {tree other : FileTree} {done : List String}

theorem obstacleFrom?_cons_iff {rest : List String} :
    tree.obstacleFrom? done (part :: rest) = none ↔
      part.utf8ByteSize ≤ nameLimit ∧ tree.isDirectory (joinTexts "/" (resolve done part).reverse) = true ∧
        tree.obstacleFrom? (resolve done part) rest = none := by
  rw [obstacleFrom?, isDirectory_iff]
  by_cases long : nameLimit < part.utf8ByteSize
  · simp [long, Nat.not_le.2 long]
  · rw [if_neg long]
    cases tree.find? (joinTexts "/" (resolve done part).reverse) with
    | none => simp
    | some entry => cases entry <;> simp [Nat.not_lt.1 long]

/-- Whether the way is free is decided by the directories alone. -/
theorem obstacleFrom?_congr (same : ∀ path, other.isDirectory path = tree.isDirectory path) (pieces : List String) :
    other.obstacleFrom? done pieces = none ↔ tree.obstacleFrom? done pieces = none := by
  induction pieces generalizing done with
  | nil => exact Iff.rfl
  | cons part rest ih => rw [obstacleFrom?_cons_iff, obstacleFrom?_cons_iff, same, ih]

theorem obstacle?_congr (same : ∀ path, other.isDirectory path = tree.isDirectory path) (path : String) :
    other.obstacle? path = none ↔ tree.obstacle? path = none := obstacleFrom?_congr same _

/-- A free way ends in a directory, and all above it are directories. -/
theorem isDirectory_of_passed {pieces : List String} (free : tree.obstacleFrom? done pieces = none)
    (above : ∀ front, front <+: done.reverse → tree.isDirectory (joinTexts "/" front) = true) {front : List String}
    (leads : front <+: (pieces.foldl resolve done).reverse) : tree.isDirectory (joinTexts "/" front) = true := by
  induction pieces generalizing done with
  | nil => exact above front leads
  | cons part rest ih =>
    obtain ⟨-, here, further⟩ := obstacleFrom?_cons_iff.1 free
    refine ih further (fun front leads => ?_) leads
    rcases resolve_cases done part with stays | back | ⟨down, -⟩
    · exact above front (stays ▸ leads)
    · rw [back] at leads
      exact above front (leads.trans ( reverse_prefix.2 (tail_suffix done)))
    · rw [down, reverse_cons] at leads here
      rcases prefix_concat_iff.1 leads with whole | shorter
      · exact whole ▸ here
      · exact above front shorter

/-- Names that lead from one directory down to the next are no obstacle. -/
theorem obstacleFrom?_names (named : ∀ name ∈ names, IsName name)
    (short : ∀ name ∈ names, name.utf8ByteSize ≤ nameLimit)
    (folders : ∀ front, front <+: names → tree.isDirectory (joinTexts "/" (done.reverse ++ front)) = true) :
    tree.obstacleFrom? done names = none := by
  induction names generalizing done with
  | nil => rfl
  | cons name names ih =>
    have down := resolve_name (named name mem_cons_self) done
    rw [obstacleFrom?_cons_iff, down]
    refine ⟨short name mem_cons_self, ?_, ?_⟩
    · simpa using folders [name] ⟨names, rfl⟩
    · refine ih (forall_mem_cons.1 named).2 (forall_mem_cons.1 short).2 fun front leads => ?_
      simpa using folders (name :: front) (cons_prefix_cons.2 ⟨rfl, leads⟩)

end FileTree
end Playhouse
