import Playhouse.Proofs.Json.Document
import Playhouse.Proofs.Json.Number

/-!
Reading the text of any document. A document need not come back from its file: whole numbers may be too long to be
read, it may be nested too deep, names that are no texts become texts, and the two halves of a pair of units become
one character. But reading its text ends right behind it with the document reread, or fails, and it does not fail for
a document that JSON keeps as it is and that is not nested too deep. Each form of text is one step of this, and both
forms in which documents are written to files are made of these.
-/
namespace Playhouse.Json
open Text Value List Cursor Decimal

variable {items : List Value}

/-! ### Gaps and fronts -/

/-- Blanks, and new lines in a text that is spread over lines. -/
def Gap (lined : Bool) (gap : List Char) : Prop := ∀ c ∈ gap, c = ' ' ∨ lined = true ∧ c = '\n'

variable {lined : Bool} {gap body : List Char} {c : Char}

theorem gap_nil : Gap lined [] := forall_mem_nil _

theorem gap_blank : Gap lined [' '] := fun _ member => .inl (mem_singleton.1 member)

theorem Gap.isGap (blank : Gap lined gap) : ∀ c ∈ gap, isGap c = true := by
  intro c member
  rcases blank c member with rfl | ⟨-, rfl⟩ <;> rfl

theorem skipGaps_gap (blank : Gap lined gap) (offset : Nat) (solid : isGap c = false) (rest : List Char) :
    skipGaps ⟨offset, gap ++ c :: rest⟩ = ⟨offset + gap.length, c :: rest⟩ := by
  have taken : (gap ++ c :: rest).takeWhile isGap = gap := by
    rw [takeWhile_append_of_pos blank.isGap, takeWhile_cons_of_neg (by simp [solid]), append_nil]
  unfold skipGaps
  simp only [taken, skip_append]

theorem skipGaps_solid (offset : Nat) (solid : isGap c = false) (rest : List Char) :
    skipGaps ⟨offset, c :: rest⟩ = ⟨offset, c :: rest⟩ :=
  skipGaps_gap (@gap_nil false) offset solid rest

/-- The character can begin a text: it is no gap, closes nothing and is not the mark of the byte order. -/
def Begins (c : Char) : Prop := isGap c = false ∧ c ≠ ']' ∧ c ≠ '\x7d' ∧ c ≠ '\ufeff'

instance (c : Char) : Decidable (Begins c) := inferInstanceAs (Decidable (_ ∧ _))

theorem ends_of_gap {rest : List Char} (blank : Gap lined gap) (closes : c = ',' ∨ c = ']' ∨ c = '\x7d') :
    Ends (gap ++ c :: rest) := by
  intro d member
  cases gap with
  | nil =>
    cases member
    rcases closes with rfl | rfl | rfl <;> simp
  | cons e gap =>
    cases member
    rcases blank d mem_cons_self with rfl | ⟨-, rfl⟩ <;> simp

/-! ### Characters -/

/-- The characters of the text of a document: none is a control character but the new line, where the text is spread
over lines. -/
def isInk (lined : Bool) (c : Char) : Bool := 32 ≤ c.toNat || lined && c == '\n'

theorem isInk_of_le (shown : 32 ≤ c.toNat) : isInk lined c = true := by simp [isInk, shown]

variable {text : List Char}

theorem notMem_of_ink (ink : text.all (isInk lined) = true) (other : isInk lined c = false) :
    c ∉ text := by
  intro member
  rw [all_eq_true.1 ink c member] at other
  cases other

theorem ink_numeric (number_ : NumberText text) : text.all (isInk lined) = true := by
  rw [all_eq_true]
  intro c member
  refine isInk_of_le ?_
  rcases number_.numeric c member with digit | rfl | rfl | rfl | rfl
  · simp only [Char.isDigit, Bool.and_eq_true, decide_eq_true_eq] at digit
    have low : 48 ≤ c.toNat := digit.1
    omega
  all_goals decide

theorem ink_unit (unit : Nat) : (unitEscape unit).all (isInk lined) = true := by
  have digit : ∀ n < 16, 32 ≤ (Text.hexDigit n).toNat := by decide
  have digits (width n : Nat) : (Text.hexDigits width n).all (isInk lined) = true := by
    induction width generalizing n with
    | zero => rfl
    | succ width ih => simp [Text.hexDigits, ih, isInk_of_le (digit _ (Nat.mod_lt n (by decide)))]
  simpa [unitEscape, isInk] using digits 4 unit

theorem ink_escaped {written : List Char} (escaped : Escaped c written) : written.all (isInk lined) = true := by
  cases escaped with
  | named letter escape other =>
    have shown : isInk lined letter = true := by
      unfold simpleEscape? at escape
      split at escape <;> first | rfl | cases escape
    simp [isInk_of_le, shown]
  | plain shown quote slash => simp [isInk_of_le shown]
  | unit small => exact ink_unit _
  | pair high low first second whole => simp [ink_unit]

theorem ink_text (s : List Char) : (textChars s).all (isInk lined) = true := by
  have inside : (s.flatMap escapeChar).all (isInk lined) = true := by
    simp only [all_flatMap, all_eq_true]
    exact fun c _ => all_eq_true.1 (ink_escaped (escaped_escapeChar c))
  simp [textChars, inside, isInk]

theorem Gap.ink (blank : Gap lined gap) : gap.all (isInk lined) = true := by
  rw [all_eq_true]
  intro c member
  rcases blank c member with rfl | ⟨rfl, rfl⟩ <;> rfl

/-! ### What reading gives -/

/-- What is read is what it should be and ends before the rest, or reading fails, and not if all is fine. -/
def Yields {α : Type} (fine : Prop) (found : α) (rest : List Char) (scan : Scan (α × Cursor)) : Prop :=
  (∃ next, scan = .ok (found, ⟨next, rest⟩)) ∨ (∃ problem, scan = .error problem) ∧ ¬fine

section
variable {α β : Type} {fine whole : Prop} {found : α} {made : β} {rest last : List Char} {scan : Scan (α × Cursor)}

theorem Yields.ok {next : Nat} (read : scan = .ok (found, ⟨next, rest⟩)) :
    Yields fine found rest scan := .inl ⟨next, read⟩

theorem Yields.bind {then_ : α × Cursor → Scan (β × Cursor)}
    (first : Yields fine found rest scan) (part : whole → fine)
    (others : ∀ next, Yields whole made last (then_ (found, ⟨next, rest⟩))) :
    Yields whole made last (scan >>= then_) := by
  rcases first with ⟨next, rfl⟩ | ⟨⟨problem, rfl⟩, wrong⟩
  · exact others next
  · exact .inr ⟨⟨problem, rfl⟩, fun all => wrong (part all)⟩

end

/-- What a piece of text was written from: a document, the items of a list or the fields of a record. -/
inductive Source where
  | value (v : Value)
  | items (written : List Value)
  | fields (written : Fields)

/-- With fuel for twice the text that is left, reading gives the source reread. A value is followed by what can follow
one; items and fields end with their closing mark. -/
def Source.Reads (text : List Char) : Source → Prop
  | .value v => ∀ fuel depth offset rest, Ends rest → 2 * (text ++ rest).length ≤ fuel →
      Yields (IsJson v ∧ nesting v ≤ depth) (reread v) rest (readValue fuel depth ⟨offset, text ++ rest⟩)
  | .items written => ∀ fuel depth offset rest, 2 * (text ++ rest).length + 1 ≤ fuel →
      Yields (ItemsJson written ∧ nestingItems written ≤ depth) (rereadItems written) rest
        (readItems fuel depth ⟨offset, text ++ rest⟩)
  | .fields written => ∀ fuel depth offset rest, 2 * (text ++ rest).length + 1 ≤ fuel →
      Yields (FieldsJson written ∧ nestingFields written ≤ depth) (rereadFields written) rest
        (readFields fuel depth ⟨offset, text ++ rest⟩)

/-- A text that begins as a value may, on one line or spread over lines, and is read as its source. -/
structure Spells (lined : Bool) (source : Source) (text : List Char) : Prop where
  opens : ∃ c more, text = c :: more ∧ Begins c
  ink : text.all (isInk lined) = true
  reads : source.Reads text

/-! ### Words, numbers and texts -/

section
variable {v : Value} {text more : List Char} {c : Char}

/-- A value that does not open with a mark of its own is a word or a number. -/
theorem readValue_scalar (fuel depth : Nat) {cursor : Cursor} (front : cursor.rest = c :: more) (quote : c ≠ '"')
    (brace : c ≠ '\x7b') (bracket : c ≠ '[') :
    readValue (fuel + 1) depth cursor =
      match readWord cursor with
      | some found => .ok found
      | none => readNumber cursor := by
  rw [readValue, front]
  split
  · rename_i same
    exact absurd (cons.inj same).1 quote
  · rename_i same
    exact absurd (cons.inj same).1 brace
  · rename_i same
    exact absurd (cons.inj same).1 bracket
  · rfl

/-- A word or a number is read if reading it so gives it. -/
theorem reads_scalar {c : Char} {more : List Char} (letter : c ≠ '"' ∧ c ≠ '\x7b' ∧ c ≠ '[')
    (read : ∀ offset rest, Ends rest → Yields (IsJson v) (reread v) rest
      (match readWord ⟨offset, c :: more ++ rest⟩ with
        | some found => .ok found
        | none => readNumber ⟨offset, c :: more ++ rest⟩)) : (Source.value v).Reads (c :: more) := by
  intro fuel depth offset rest ends enough
  obtain ⟨fuel, rfl⟩ : ∃ n, fuel = n + 1 := ⟨fuel - 1, by simp at enough; omega⟩
  rw [readValue_scalar fuel depth (cons_append ..) letter.1 letter.2.1 letter.2.2]
  exact (read offset rest ends).imp_right fun ⟨fails, wrong⟩ => ⟨fails, fun fine => wrong fine.1⟩

theorem letter_number (number_ : NumberText text) :
    ∃ c more, text = c :: more ∧ (c ≠ '"' ∧ c ≠ '\x7b' ∧ c ≠ '[') ∧ Begins c := by
  obtain ⟨numeric, negative, first, more, rfl, digit⟩ := number_
  have other (c : Char) (letter : c.isDigit = false) : first ≠ c := by
    rintro rfl
    rw [letter] at digit
    cases digit
  cases negative with
  | true => exact ⟨'-', first :: more, rfl, by decide, by decide⟩
  | false =>
    refine ⟨first, more, rfl, ⟨other _ rfl, other _ rfl, other _ rfl⟩, ?_, other _ rfl, other _ rfl, other _ rfl⟩
    simp [isGap, other ' ' rfl, other '\t' rfl, other '\n' rfl, other '\r' rfl]

theorem spells_number (number_ : NumberText text)
    (read : ∀ offset rest, Ends rest → Yields (IsJson v) (reread v) rest (readNumber ⟨offset, text ++ rest⟩)) :
    Spells lined (.value v) text := by
  have word := readWord_number number_
  have ink : text.all (isInk lined) = true := ink_numeric number_
  obtain ⟨c, more, rfl, letter, begins⟩ := letter_number number_
  refine ⟨⟨c, more, rfl, begins⟩, ink, reads_scalar letter fun offset rest ends => ?_⟩
  rw [word offset rest]
  exact read offset rest ends

/-- A whole number that is too long is not read at all. -/
theorem spells_int (n : Int) : Spells lined (.value (.int n)) (toString n).toList := by
  refine spells_number (numberText_toString n) fun offset rest ends => ?_
  by_cases short : (natDigits n.natAbs).length ≤ IntegerProblem.digitLimit
  · obtain ⟨next, read⟩ := readNumber_toString ends offset short
    exact .ok read
  · have parts := @readNumber_parts (decide (n < 0)) (natDigits n.natAbs) [] rest offset
      (leads_natDigits n.natAbs) (forall_mem_nil _) ends.stops fun _ => ends.pointless
    simp only [placeChars, if_true, nil_append, ends.powerless, if_pos (Nat.lt_of_not_le short)] at parts
    rw [toString_int, append_assoc, parts]
    exact .inr ⟨⟨_, rfl⟩, short⟩

theorem spells_word (letter : c ≠ '"' ∧ c ≠ '\x7b' ∧ c ≠ '[') (begins : Begins c)
    (ink : (c :: more).all (isInk lined) = true)
    (word : ∀ offset rest, readWord ⟨offset, c :: more ++ rest⟩ = some (reread v, skip ⟨offset, c :: more ++
      rest⟩ (c :: more).length)) : Spells lined (.value v) (c :: more) := by
  refine ⟨⟨c, more, rfl, begins⟩, ink, reads_scalar letter fun offset rest ends => ?_⟩
  rw [word, skip_append]
  exact .ok rfl

theorem spells_float (x : Float) : Spells lined (.value (.float x)) (number x).toList := by
  obtain ⟨text, same⟩ | ⟨text, same⟩ | ⟨text, same⟩ | ⟨text, negative, value, class_⟩ := number_cases x
  on_goal 4 =>
    rw [text]
    refine spells_number (numberText_written class_) fun offset rest ends => ?_
    obtain ⟨next, read⟩ := readNumber_written class_ ends offset
    exact .ok read
  all_goals
    rw [text, same]
    exact spells_word (by decide) (by decide) rfl fun _ _ => rfl

theorem spells_text (s : String) : Spells lined (.value (.text s)) (textChars s.toList) := by
  refine ⟨⟨_, _, rfl, by decide⟩, ink_text s.toList, ?_⟩
  intro fuel depth offset rest ends enough
  obtain ⟨fuel, rfl⟩ : ∃ n, fuel = n + 1 := ⟨fuel - 1, by simp [textChars] at enough; omega⟩
  obtain ⟨next, read⟩ := readText_textChars offset offset s.toList rest
  have step : readValue (fuel + 1) depth ⟨offset, textChars s.toList ++ rest⟩ =
      (readText offset ((textChars s.toList ++ rest).length + 1) (skip ⟨offset, textChars s.toList ++ rest⟩ 1) []).map
        fun read => (.text (String.ofList read.1), read.2) := rfl
  rw [step, read]
  exact .ok rfl

end

/-! ### Marks around items and fields -/

/-- A text that opens with the mark of a list or a record is read one level deeper. -/
theorem reads_nested {v : Value} {mark : Char} (nested : 0 < nesting v)
    (shallow : ∀ fuel offset rest, ∃ problem, readValue (fuel + 1) 0 ⟨offset, mark :: text ++ rest⟩ = .error problem)
    (deeper : ∀ fuel depth offset rest, 2 * (text ++ rest).length + 1 ≤ fuel →
      Yields (IsJson v ∧ nesting v ≤ depth + 1) (reread v) rest
        (readValue (fuel + 1) (depth + 1) ⟨offset, mark :: text ++ rest⟩)) : (Source.value v).Reads (mark :: text) := by
  intro fuel depth offset rest ends enough
  obtain ⟨fuel, rfl⟩ : ∃ n, fuel = n + 1 := ⟨fuel - 1, by simp at enough; omega⟩
  cases depth with
  | zero => exact .inr ⟨shallow fuel offset rest, fun fine => absurd fine.2 (Nat.not_le_of_lt nested)⟩
  | succ depth => exact deeper fuel depth offset rest (by simp at enough ⊢; omega)

/-- Behind its mark and a gap, what is not closed at once is read by the reader of its items or fields. -/
theorem Yields.inside {α β : Type} {fine whole : Prop} {found : α} {f : α → β} {empty : β} {mark close : Char}
    {more rest : List Char} {reader : Cursor → Scan (α × Cursor)} (blank : Gap lined gap) (solid : isGap c = false)
    (other : c ≠ close) (reads : ∀ offset, Yields fine found rest (reader ⟨offset, c :: more ++ rest⟩))
    (part : whole → fine) (offset : Nat) :
    Yields whole (f found) rest
      (let inside := (skip ⟨offset, mark :: (gap ++ c :: more) ++ rest⟩ 1).skipGaps
      if inside.rest.head? == some close then .ok (empty, inside.skip 1) else do
        let read ← reader inside
        return (f read.1, read.2)) := by
  have inside : (skip ⟨offset, mark :: (gap ++ c :: more) ++ rest⟩ 1).skipGaps =
      ⟨offset + 1 + gap.length, c :: more ++ rest⟩ := by
    rw [cons_append, skip_cons, append_assoc, cons_append, skipGaps_gap blank _ solid]
  rw [inside]
  simp only [cons_append, head?_cons, Option.some_beq_some, beq_iff_eq, if_neg other]
  exact (reads _).bind part fun _ => .ok rfl

/-! ### Lists -/

theorem spells_emptyList : Spells lined (.value (.list [])) ['[', ']'] :=
  ⟨⟨_, _, rfl, by decide⟩, rfl, reads_nested (by simp [nesting]) (fun _ _ _ => ⟨_, rfl⟩)
    fun _ _ offset _ _ => .inl ⟨offset + 1 + 0 + 1, rfl⟩⟩

theorem spells_list (blank : Gap lined gap) (within : Spells lined (.items items) body) :
    Spells lined (.value (.list items)) ('[' :: (gap ++ body)) := by
  refine ⟨⟨_, _, rfl, by decide⟩, by simp [isInk, blank.ink, within.ink],
    reads_nested (by simp [nesting]) (fun _ _ _ => ⟨_, rfl⟩) fun fuel depth offset rest enough => ?_⟩
  obtain ⟨c, more, rfl, solid, other, -⟩ := within.opens
  exact .inside blank solid other (within.reads fuel depth · rest (by simp at enough ⊢; omega))
    (fun fine => ⟨fine.1, Nat.le_of_succ_le_succ fine.2⟩) offset

theorem spells_lastItem {v : Value} (blank : Gap lined gap) (last : Spells lined (.value v) body) :
    Spells lined (.items [v]) (body ++ (gap ++ [']'])) := by
  obtain ⟨c, more, front, opens⟩ := last.opens
  refine ⟨⟨c, _, by rw [front]; rfl, opens⟩, by simp [isInk, blank.ink, last.ink], ?_⟩
  intro fuel depth offset rest enough
  obtain ⟨fuel, rfl⟩ : ∃ n, fuel = n + 1 := ⟨fuel - 1, by omega⟩
  have text : body ++ (gap ++ [']']) ++ rest = body ++ (gap ++ ']' :: rest) := by simp
  rw [text] at enough ⊢
  rw [readItems]
  refine (last.reads fuel depth offset _ (ends_of_gap blank (.inr (.inl rfl))) (by omega)).bind
    (fun fine => ⟨fine.1.1, Nat.le_trans (Nat.le_max_left _ _) fine.2⟩) fun next => ?_
  simp only [skipGaps_gap blank next (show isGap ']' = false from rfl)]
  exact .ok rfl

theorem spells_item {v : Value} {more : List Char} (blank : Gap lined gap)
    (first : Spells lined (.value v) body) (others : Spells lined (.items items) more) :
    Spells lined (.items (v :: items)) (body ++ ',' :: (gap ++ more)) := by
  obtain ⟨c, front, opened, opens⟩ := first.opens
  refine ⟨⟨c, _, by rw [opened]; rfl, opens⟩, by simp [isInk, blank.ink, first.ink, others.ink], ?_⟩
  intro fuel depth offset rest enough
  obtain ⟨fuel, rfl⟩ : ∃ n, fuel = n + 1 := ⟨fuel - 1, by omega⟩
  obtain ⟨d, tail, rfl, solid, -⟩ := others.opens
  have text : body ++ ',' :: (gap ++ d :: tail) ++ rest = body ++ ',' :: (gap ++ (d :: tail ++ rest)) := by simp
  rw [text] at enough ⊢
  rw [readItems]
  refine (first.reads fuel depth offset _ (fun e member => by cases member; exact .inl rfl) (by omega)).bind
    (fun fine => ⟨fine.1.1, Nat.le_trans (Nat.le_max_left _ _) fine.2⟩) fun next => ?_
  simp only [skipGaps_solid next (show isGap ',' = false from rfl), skip_cons, cons_append,
    skipGaps_gap blank (next + 1) solid]
  exact (others.reads fuel depth _ rest (by simp at enough ⊢; omega)).bind
    (fun fine => ⟨fine.1.2, Nat.le_trans (Nat.le_max_right _ _) fine.2⟩) fun _ => .ok rfl

/-! ### Records -/

theorem spells_emptyRecord : Spells lined (.value (.record [])) ['\x7b', '\x7d'] :=
  ⟨⟨_, _, rfl, by decide⟩, rfl, reads_nested (by simp [nesting]) (fun _ _ _ => ⟨_, rfl⟩)
    fun _ _ offset _ _ => .inl ⟨offset + 1 + 0 + 1, rfl⟩⟩

theorem spells_record {fields : Fields} (blank : Gap lined gap) (within : Spells lined (.fields fields) body) :
    Spells lined (.value (.record fields)) ('\x7b' :: (gap ++ body)) := by
  refine ⟨⟨_, _, rfl, by decide⟩, by simp [isInk, blank.ink, within.ink],
    reads_nested (by simp [nesting]) (fun _ _ _ => ⟨_, rfl⟩) fun fuel depth offset rest enough => ?_⟩
  obtain ⟨c, more, rfl, solid, -, other, -⟩ := within.opens
  exact .inside (f := fun pairs => record (Fields.ofPairs pairs)) blank solid other
    (within.reads fuel depth · rest (by simp at enough ⊢; omega))
    (fun fine => ⟨fine.1, Nat.le_of_succ_le_succ fine.2⟩) offset

/-- What is read after a field of a record: the end of the record, or a comma and the other fields. -/
def readAfterField (fuel depth : Nat) (field : String × Value) (next : Cursor) :
    Scan (List (String × Value) × Cursor) := do
  match next.rest with
  | '\x7d' :: _ => return ([field], next.skip 1)
  | ',' :: _ =>
    let (fields, last) ← readFields fuel depth (next.skip 1).skipGaps
    return (field :: fields, last)
  | _ => .error (.comma, next.offset)

section
variable {key : Key} {v : Value} {body gap colon more : List Char} {fields : Fields}

/-- The first field of a record is read, and then what is behind it. -/
theorem yields_readFields {name rest last : List Char} (blank : Gap lined colon) (value : Spells lined (.value v) body)
    (ends : Ends rest) {fuel depth : Nat}
    (enough : 2 * (textChars name ++ ':' :: (colon ++ (body ++ rest))).length ≤ fuel) {whole : Prop}
    {found : List (String × Value)} (part : whole → IsJson v ∧ nesting v ≤ depth)
    (others : ∀ next, Yields whole found last
      (readAfterField fuel depth (String.ofList (joined name), reread v) (skipGaps ⟨next, rest⟩)))
    (offset : Nat) :
    Yields whole found last
      (readFields (fuel + 1) depth ⟨offset, textChars name ++ ':' :: (colon ++ (body ++ rest))⟩) := by
  obtain ⟨after, named⟩ := readText_textChars offset offset name (':' :: (colon ++ (body ++ rest)))
  have skipped : skipGaps ⟨after + 1, colon ++ (body ++ rest)⟩ = ⟨after + 1 + colon.length, body ++ rest⟩ := by
    obtain ⟨c, front, rfl, solid, -⟩ := value.opens
    exact skipGaps_gap blank (after + 1) solid (front ++ rest)
  have quote : (textChars name ++ ':' :: (colon ++ (body ++ rest))).head? = some '"' := rfl
  have step : readFields (fuel + 1) depth ⟨offset, textChars name ++ ':' :: (colon ++ (body ++ rest))⟩ =
      readValue fuel depth ⟨after + 1 + colon.length, body ++ rest⟩ >>= fun read =>
        readAfterField fuel depth (String.ofList (joined name), read.1) read.2.skipGaps := by
    rw [readFields]
    simp only [quote, bne_self_eq_false, Bool.false_eq_true, if_false, named, bind, Except.bind,
      skipGaps_solid after (show isGap ':' = false from rfl), head?_cons, skip_cons, skipped]
    rfl
  rw [step]
  exact (value.reads fuel depth _ rest ends (by simp [textChars] at enough ⊢; omega)).bind part others

theorem spells_lastField (blank : Gap lined colon) (blank_last : Gap lined gap) (last : Spells lined (.value v) body) :
    Spells lined (.fields [(key, v)])
      (textChars (keyName key).toList ++ ':' :: (colon ++ (body ++ (gap ++ ['\x7d'])))) := by
  refine ⟨⟨_, _, rfl, by decide⟩,
    by simp [isInk, blank.ink, blank_last.ink, ink_text, last.ink], ?_⟩
  intro fuel depth offset rest enough
  obtain ⟨fuel, rfl⟩ : ∃ n, fuel = n + 1 := ⟨fuel - 1, by omega⟩
  have text : textChars (keyName key).toList ++ ':' :: (colon ++ (body ++ (gap ++ ['\x7d']))) ++ rest =
      textChars (keyName key).toList ++ ':' :: (colon ++ (body ++ (gap ++ '\x7d' :: rest))) := by simp
  rw [text] at enough ⊢
  refine yields_readFields blank last (ends_of_gap blank_last (.inr (.inr rfl))) (by omega)
    (fun fine => ⟨fine.1.2.1, Nat.le_trans (Nat.le_max_left _ _) fine.2⟩) (fun next => ?_) offset
  rw [skipGaps_gap blank_last next (show isGap '\x7d' = false from rfl)]
  exact .ok rfl

theorem spells_field (blank : Gap lined colon) (blank_between : Gap lined gap) (first : Spells lined (.value v) body)
    (others : Spells lined (.fields fields) more) :
    Spells lined (.fields ((key, v) :: fields))
      (textChars (keyName key).toList ++ ':' :: (colon ++ (body ++ ',' :: (gap ++ more)))) := by
  refine ⟨⟨_, _, rfl, by decide⟩,
    by simp [isInk, blank.ink, blank_between.ink, ink_text, first.ink, others.ink], ?_⟩
  intro fuel depth offset rest enough
  obtain ⟨fuel, rfl⟩ : ∃ n, fuel = n + 1 := ⟨fuel - 1, by omega⟩
  obtain ⟨c, front, rfl, solid, -⟩ := others.opens
  have text : textChars (keyName key).toList ++ ':' :: (colon ++ (body ++ ',' :: (gap ++ c :: front))) ++ rest =
      textChars (keyName key).toList ++ ':' :: (colon ++ (body ++ ',' :: (gap ++ (c :: front ++ rest)))) := by simp
  rw [text] at enough ⊢
  refine yields_readFields blank first (fun e member => by cases member; exact .inl rfl) (by omega)
    (fun fine => ⟨fine.1.2.1, Nat.le_trans (Nat.le_max_left _ _) fine.2⟩) (fun next => ?_) offset
  simp only [readAfterField, skipGaps_solid next (show isGap ',' = false from rfl), skip_cons, cons_append,
    skipGaps_gap blank_between (next + 1) solid]
  exact (others.reads fuel depth _ rest (by simp at enough ⊢; omega)).bind
    (fun fine => ⟨fine.1.2.2.2, Nat.le_trans (Nat.le_max_right _ _) fine.2⟩) fun _ => .ok rfl

end
end Playhouse.Json

namespace Playhouse.Json
open Value List String

/-! ### The plain form -/

theorem joinTexts_toList (between : String) (pieces : List String) :
    (joinTexts between pieces).toList = Text.join between.toList (pieces.map toList) :=
  toList_ofList

theorem text_toList (s : String) : (text s).toList = textChars s.toList := toList_ofList

/-- A document without parts has one form. -/
theorem spells_scalar {lined : Bool} {v : Value} (scalar : nesting v = 0) : Spells lined (.value v) (plain v).toList := by
  cases v with
  | null => exact spells_word (by decide) (by decide) rfl fun _ _ => rfl
  | bool b => cases b <;> exact spells_word (by decide) (by decide) rfl fun _ _ => rfl
  | int n => exact spells_int n
  | float x => exact spells_float x
  | text s =>
    rw [plain, text_toList]
    exact spells_text s
  | list items | record fields => cases scalar

mutual

theorem spells_plain : ∀ v : Value, Spells false (.value v) (plain v).toList
  | .null | .bool _ | .int _ | .float _ | .text _ => spells_scalar rfl
  | .list [] => spells_emptyList
  | .list (item :: items) => by
    have within := spells_plainItems (item :: items) (cons_ne_nil _ _)
    rw [plain]
    simpa [joinTexts_toList] using spells_list gap_nil within
  | .record [] => spells_emptyRecord
  | .record (field :: fields) => by
    have within := spells_plainFields (field :: fields) (cons_ne_nil _ _)
    rw [plain]
    simpa [joinTexts_toList] using spells_record gap_nil within

theorem spells_plainItems : ∀ items : List Value, items ≠ [] →
    Spells false (.items items) (Text.join ", ".toList ((plainItems items).map toList) ++ [']'])
  | [], some_ => absurd rfl some_
  | [item], _ => spells_lastItem gap_nil (spells_plain item)
  | item :: second :: items, _ => by
    have others := spells_plainItems (second :: items) (cons_ne_nil _ _)
    simpa [plainItems, Text.join] using spells_item gap_blank (spells_plain item) others

theorem spells_plainFields : ∀ fields : List (Key × Value), fields ≠ [] →
    Spells false (.fields fields) (Text.join ", ".toList ((plainFields fields).map toList) ++ ['\x7d'])
  | [], some_ => absurd rfl some_
  | [(key, value)], _ => by
    simpa [plainFields, Text.join, text_toList] using
      @spells_lastField _ key value _ _ _ gap_blank gap_nil (spells_plain value)
  | (key, value) :: second :: fields, _ => by
    have others := spells_plainFields (second :: fields) (cons_ne_nil _ _)
    simpa [plainFields, Text.join, text_toList] using
      @spells_field _ key value _ _ _ _ _ gap_blank gap_blank (spells_plain value) others

end

/-! ### The spread form -/

theorem gap_newline (width depth : Nat) : Gap true (newline width depth).toList := by
  intro c member
  have text : (newline width depth).toList = '\n' :: replicate (width * depth) ' ' := by simp [newline]
  rw [text] at member
  rcases mem_cons.1 member with first | blank
  · exact .inr ⟨rfl, first⟩
  · exact .inl (mem_replicate.1 blank).2

mutual

theorem spells_spreadAt (width level : Nat) : ∀ v : Value, Spells true (.value v) (spreadAt width level v).toList
  | .null | .bool true | .bool false | .int _ | .float _ | .text _ => by
    rw [spreadAt]
    exact spells_scalar rfl
  | .list [] => by
    rw [spreadAt]
    exact spells_emptyList
  | .list (item :: items) => by
    have within := spells_spreadItems width (level + 1) level (item :: items) (cons_ne_nil _ _)
    have spells := spells_list (gap_newline width (level + 1)) within
    rw [spreadAt]
    · simpa [joinTexts_toList] using spells
    · intro empty
      cases empty
  | .record [] => by
    rw [spreadAt]
    exact spells_emptyRecord
  | .record (field :: fields) => by
    have within := spells_spreadFields width (level + 1) level (field :: fields) (cons_ne_nil _ _)
    have spells := spells_record (gap_newline width (level + 1)) within
    rw [spreadAt]
    · simpa [joinTexts_toList] using spells
    · intro empty
      cases empty

theorem spells_spreadItems (width level outer : Nat) : ∀ items : List Value, items ≠ [] → Spells true (.items items)
      (Text.join ("," ++ newline width level).toList ((spreadItems width level items).map toList) ++
        ((newline width outer).toList ++ [']']))
  | [], some_ => absurd rfl some_
  | [item], _ => spells_lastItem (gap_newline width outer) (spells_spreadAt width level item)
  | item :: second :: items, _ => by
    have first := spells_spreadAt width level item
    have others := spells_spreadItems width level outer (second :: items) (cons_ne_nil _ _)
    simpa [spreadItems, Text.join] using spells_item (gap_newline width level) first others

theorem spells_spreadFields (width level outer : Nat) : ∀ fields : List (Key × Value), fields ≠ [] →
    Spells true (.fields fields)
      (Text.join ("," ++ newline width level).toList ((spreadFields width level fields).map toList) ++
        ((newline width outer).toList ++ ['\x7d']))
  | [], some_ => absurd rfl some_
  | [(key, value)], _ => by
    have last := spells_spreadAt width level value
    simpa [spreadFields, Text.join, text_toList] using
      @spells_lastField _ key value _ _ _ gap_blank (gap_newline width outer) last
  | (key, value) :: second :: fields, _ => by
    have first := spells_spreadAt width level value
    have others := spells_spreadFields width level outer (second :: fields) (cons_ne_nil _ _)
    simpa [spreadFields, Text.join, text_toList] using
      @spells_field _ key value _ _ _ _ _ gap_blank (gap_newline width level) first others

end

/-! ### Reading a file back -/

theorem unified_of_plain {text : List Char} (plain_ : '\r' ∉ text) : Text.unified text = text := by
  induction text with
  | nil => rfl
  | cons c text ih =>
    have other : c ≠ '\r' := fun same => plain_ (same ▸ mem_cons_self)
    have rest := ih fun member => plain_ (mem_cons_of_mem _ member)
    rw [Text.unified]
    · rw [rest]
    · intro more same
      cases same
      exact absurd rfl other
    · intro same
      exact other same

/-- A text that spells a document is read as the document reread, or it cannot be read. -/
theorem read_or {lined : Bool} {v : Value} {text : String} (spells : Spells lined (.value v) text.toList) :
    read text = .ok (reread v) ∨ (∃ fault, read text = .error fault) ∧ ¬(IsJson v ∧ nesting v ≤ depthLimit) := by
  obtain ⟨c, more, front, solid, -, -, mark⟩ := spells.opens
  have start : Cursor.skipGaps ⟨0, text.toList⟩ = ⟨0, text.toList⟩ := by
    rw [front]
    exact skipGaps_solid 0 solid more
  have clean : (text.toList.head? == some '\ufeff') = false := by
    rw [front]
    simpa using mark
  have none_ : Ends [] := fun c member => by cases member
  have outcome := spells.reads (2 * text.toList.length + 2) depthLimit 0 [] none_ (by simp)
  rw [append_nil] at outcome
  rw [read, readWithin, readAll]
  simp only [clean, Bool.false_eq_true, if_false, start]
  rcases outcome with ⟨next, reads⟩ | ⟨⟨problem, fails⟩, wrong⟩
  · left
    rw [reads]
    rfl
  · refine .inr ⟨?_, wrong⟩
    rw [fails]
    exact ⟨_, rfl⟩

theorem unified_spread (width : Nat) (v : Value) : unifiedLines (spread width v) = spread width v := by
  rw [unifiedLines, spread, unified_of_plain (notMem_of_ink (spells_spreadAt width 0 v).ink rfl), ofList_toList]

section
variable {lined : Bool} {width : Nat} {v found : Value} {text : String}

theorem Spells.eq_reread (spells : Spells lined (.value v) text.toList) (read_ : read text = .ok found) :
    found = reread v := by
  rcases read_or spells with reads | ⟨⟨fault, fails⟩, -⟩
  · exact Except.ok.inj (read_.symm.trans reads)
  · cases read_.symm.trans fails

theorem Spells.read_eq (spells : Spells lined (.value v) text.toList) (json : IsJson v)
    (deep : nesting v ≤ depthLimit) : read text = .ok v := by
  rcases read_or spells with reads | ⟨-, wrong⟩
  · rw [reads, reread_of_json v json]
  · exact absurd ⟨json, deep⟩ wrong

/-- A document comes back from its spread form in a file. -/
theorem read_spread (width : Nat) (json : IsJson v) (deep : nesting v ≤ depthLimit) :
    read (unifiedLines (spread width v)) = .ok v := by
  rw [unified_spread]
  exact (spells_spreadAt width 0 v).read_eq json deep

theorem eq_reread_of_read (read_ : read (unifiedLines (spread width v)) = .ok found) : found = reread v := by
  rw [unified_spread] at read_
  exact (spells_spreadAt width 0 v).eq_reread read_

/-- However deep a document is nested, its file is read as nothing else. -/
theorem eq_of_read_spread (json : IsJson v) (read_ : read (unifiedLines (spread width v)) = .ok found) : found = v := by
  rw [eq_reread_of_read read_, reread_of_json v json]

end
end Playhouse.Json
