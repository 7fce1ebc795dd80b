import Mathlib.Data.List.Chain
import Playhouse.Json.Reader
import Playhouse.Json.Writer

/-!
Texts in JSON: what is written inside the quotes is read back. Every character is read from its own
escape, except that two halves of a pair of units next to each other are read as the one character of
the pair, so a text that has them apart is not one that comes back as it was.
-/
namespace Playhouse
open List Char

namespace Text

/-- The character holds the first half of a pair of units. -/
def IsHigh (c : Char) : Prop := 0xd800 ≤ codeOf c ∧ codeOf c ≤ 0xdbff

/-- The character holds the second half of a pair of units. -/
def IsLow (c : Char) : Prop := 0xdc00 ≤ codeOf c ∧ codeOf c ≤ 0xdfff

/-- No pair of units stands in the text as its two halves. -/
def Paired (text : List Char) : Prop := text.IsChain fun c d => ¬ (IsHigh c ∧ IsLow d)

theorem isHalf_toNat (c : Char) : isHalf c.toNat = false := by
  have valid : c.toNat < 0xd800 ∨ 0xdfff < c.toNat ∧ c.toNat < 0x110000 := c.valid
  simp only [isHalf, Bool.and_eq_false_iff, decide_eq_false_iff_not]
  omega

theorem ofCode_codeOf (c : Char) : ofCode (codeOf c) = c := by
  unfold ofCode codeOf
  by_cases half : isHalf (c.toNat - halfShift) = true
  · have above : c.toNat - halfShift + halfShift = c.toNat := by
      simp only [isHalf, Bool.and_eq_true, decide_eq_true_eq] at half
      omega
    rw [if_pos half, if_pos half, above, ofNat_toNat]
  · rw [if_neg half, isHalf_toNat, if_neg Bool.false_ne_true, ofNat_toNat]

theorem codeOf_of_whole {c : Char} (whole : codeOf c < 0xd800 ∨ 0xdfff < codeOf c) : codeOf c = c.toNat := by
  unfold codeOf at whole ⊢
  split at whole
  · rename_i half
    simp only [isHalf, Bool.and_eq_true, decide_eq_true_eq] at half
    omega
  · exact if_neg ‹_›

theorem codeOf_lt (c : Char) : codeOf c < 0x110000 := by
  have valid : c.toNat < 0xd800 ∨ 0xdfff < c.toNat ∧ c.toNat < 0x110000 := c.valid
  unfold codeOf
  split <;> omega

variable {text : List Char}

theorem paired_of_ascii (ascii : ∀ c ∈ text, c.toNat < 128) : Paired text := by
  have low {c : Char} (member : c ∈ text) : ¬ IsHigh c := by
    have small := ascii c member
    unfold IsHigh codeOf
    split <;> omega
  unfold Paired
  induction text with
  | nil => exact .nil
  | cons c text ih =>
    cases text with
    | nil => exact .singleton c
    | cons d text =>
      refine .cons_cons (fun halves => low mem_cons_self halves.1) (ih ?_ ?_)
      · exact (forall_mem_cons.1 ascii).2
      · exact fun member => low (mem_cons_of_mem _ member)

theorem paired_of_all (ascii : (text.all fun c => c.toNat < 128) = true) : Paired text :=
  paired_of_ascii fun c member => of_decide_eq_true (all_eq_true.1 ascii c member)

/-! ### Joined halves -/

instance (c : Char) : Decidable (IsHigh c) := inferInstanceAs (Decidable (_ ∧ _))

instance (c : Char) : Decidable (IsLow c) := inferInstanceAs (Decidable (_ ∧ _))

instance (text : List Char) : Decidable (Paired text) := inferInstanceAs (Decidable (List.IsChain _ _))

/-- The character of a pair of units. -/
def pairOf (high low : Char) : Char :=
  ofNat (0x10000 + (codeOf high - 0xd800) * 0x400 + (codeOf low - 0xdc00))

/-- A text with the two halves of each pair joined. -/
def joined : List Char → List Char
  | high :: low :: text =>
    if IsHigh high ∧ IsLow low then pairOf high low :: joined text else high :: joined (low :: text)
  | text => text

theorem joined_of_paired (paired : Paired text) : joined text = text := by
  induction text with
  | nil => rfl
  | cons c text ih =>
    cases text with
    | nil => rfl
    | cons d text => rw [joined, if_neg (isChain_cons_cons.1 paired).1, ih paired.tail]

theorem toNat_pairOf {high low : Char} (first : IsHigh high) (second : IsLow low) :
    0x10000 ≤ (pairOf high low).toNat := by
  obtain ⟨above, below⟩ := first
  obtain ⟨above', below'⟩ := second
  have valid : (0x10000 + (codeOf high - 0xd800) * 0x400 + (codeOf low - 0xdc00)).isValidChar := by
    right
    omega
  rw [pairOf, ofNat, dif_pos valid]
  change 0x10000 ≤ 0x10000 + (codeOf high - 0xd800) * 0x400 + (codeOf low - 0xdc00)
  omega

theorem eq_of_joined_ascii {name : List Char} (ascii : ∀ c ∈ name, c.toNat < 128) (same : joined text = name) :
    text = name := by
  induction text using joined.induct generalizing name with
  | case1 high low text halves ih =>
    rw [joined, if_pos halves] at same
    have wide := toNat_pairOf halves.1 halves.2
    have small := ascii (pairOf high low) (same ▸ mem_cons_self)
    omega
  | case2 high low text apart ih =>
    rw [joined, if_neg apart] at same
    subst same
    rw [← ih (forall_mem_cons.1 ascii).2 rfl]
  | case3 text short =>
    rwa [joined] at same
    exact short

end Text

def joinedText (text : String) : String := String.ofList (Text.joined text.toList)

theorem joinedText_of_paired {text : String} (paired : Text.Paired text.toList) : joinedText text = text := by
  rw [joinedText, Text.joined_of_paired paired, String.ofList_toList]

namespace Json
open Text

/-! ### Units in hexadecimal -/

theorem hexValue?_hexDigit {n : Nat} (small : n < 16) : hexValue? (hexDigit n) = some n := by
  have all : ∀ n < 16, hexValue? (hexDigit n) = some n := by decide
  exact all n small

theorem unit?_hexDigits {unit : Nat} (small : unit < 0x10000) : unit? (hexDigits 4 unit) = some unit := by
  have digit (n : Nat) : hexValue? (hexDigit (n % 16)) = some (n % 16) := hexValue?_hexDigit (by omega)
  simp only [hexDigits, nil_append, cons_append, unit?, digit, Option.bind_eq_bind,
    Option.bind_some, Option.pure_def, Option.some.injEq]
  omega

@[simp] theorem length_hexDigits (width n : Nat) : (hexDigits width n).length = width := by
  induction width generalizing n with
  | zero => rfl
  | succ width ih => simp [hexDigits, ih]

/-! ### Moving over the text -/

@[simp] theorem skip_append (offset : Nat) (passed rest : List Char) :
    Cursor.skip ⟨offset, passed ++ rest⟩ passed.length = ⟨offset + passed.length, rest⟩ := by
  simp [Cursor.skip]

theorem skip_cons (offset : Nat) (c : Char) (rest : List Char) :
    Cursor.skip ⟨offset, c :: rest⟩ 1 = ⟨offset + 1, rest⟩ := rfl

/-! ### One character -/

/-- What a character is written as: an escape of one letter, itself, a unit or a pair of units. -/
inductive Escaped (c : Char) : List Char → Prop where
  | named (letter : Char) (escape : simpleEscape? letter = some c) (other : letter ≠ 'u') :
      Escaped c ['\\', letter]
  | plain (shown : 32 ≤ c.toNat) (quote : c ≠ '"') (slash : c ≠ '\\') : Escaped c [c]
  | unit (small : codeOf c < 0x10000) : Escaped c (unitEscape (codeOf c))
  | pair (high low : Nat) (first : 0xd800 ≤ high ∧ high ≤ 0xdbff) (second : 0xdc00 ≤ low ∧ low ≤ 0xdfff)
      (whole : 0x10000 + (high - 0xd800) * 0x400 + (low - 0xdc00) = c.toNat) :
      Escaped c (unitEscape high ++ unitEscape low)

theorem escaped_escapeChar (c : Char) : Escaped c (escapeChar c) := by
  unfold escapeChar
  simp only [beq_iff_eq]
  split
  · exact .named '"' (by subst c; rfl) (by decide)
  split
  · exact .named '\\' (by subst c; rfl) (by decide)
  split
  · exact .named 'n' (by subst c; rfl) (by decide)
  split
  · exact .named 'r' (by subst c; rfl) (by decide)
  split
  · exact .named 't' (by subst c; rfl) (by decide)
  split
  · exact .named 'b' (by subst c; rfl) (by decide)
  split
  · exact .named 'f' (by subst c; rfl) (by decide)
  rename_i quote slash _ _ _ _ _
  split
  · rename_i shown
    exact .plain (by rw [← codeOf_of_whole (.inl (by omega))]; exact shown.1) quote slash
  split
  · rename_i small
    exact .unit small
  · rename_i wide
    have same := codeOf_of_whole (c := c) (by omega)
    have below := codeOf_lt c
    exact .pair _ _ (by omega) (by omega) (by omega)

/-- No second half is written at the front of the text. -/
def NoLow (rest : List Char) : Prop :=
  rest.take 2 ≠ ['\\', 'u'] ∨
    ∃ unit tail, rest = unitEscape unit ++ tail ∧ unit < 0x10000 ∧ ¬ (0xdc00 ≤ unit ∧ unit ≤ 0xdfff)

section
variable {start fuel offset : Nat} {done rest : List Char}

theorem readText_escape {letter c : Char} (named : simpleEscape? letter = some c) (other : letter ≠ 'u') :
    readText start (fuel + 1) ⟨offset, '\\' :: letter :: rest⟩ done =
      readText start fuel ⟨offset + 2, rest⟩ (c :: done) := by
  rw [readText]
  simp only [named]
  rfl

theorem readText_plain {c : Char} (shown : 32 ≤ c.toNat) (quote : c ≠ '"') (slash : c ≠ '\\') :
    readText start (fuel + 1) ⟨offset, c :: rest⟩ done = readText start fuel ⟨offset + 1, rest⟩ (c :: done) := by
  rw [readText]
  split <;> rename_i same <;> cases same
  · exact absurd rfl quote
  · exact absurd rfl slash
  · rw [if_neg (by omega)]
    rfl

/-- A unit that does not open a pair is a character of its own. -/
theorem readText_unit {unit : Nat} (small : unit < 0x10000) (more : rest ≠ [])
    (alone : 0xd800 ≤ unit → unit ≤ 0xdbff → NoLow rest) :
    readText start (fuel + 1) ⟨offset, unitEscape unit ++ rest⟩ done =
      readText start fuel ⟨offset + 6, rest⟩ (ofCode unit :: done) := by
  have units : (hexDigits 4 unit ++ rest).take 4 = hexDigits 4 unit := by simp
  have skipped : Cursor.skip ⟨offset, unitEscape unit ++ rest⟩ 6 = ⟨offset + 6, rest⟩ :=
    skip_append offset (unitEscape unit) rest
  have long : ¬ (hexDigits 4 unit ++ rest).length ≤ 4 := by
    have := length_pos_iff.2 more
    simp
    omega
  rw [unitEscape, cons_append, cons_append] at skipped ⊢
  rw [readText]
  simp only [if_neg long, units, unit?_hexDigits small, skipped]
  split
  · rfl
  · rename_i pair
    simp only [Bool.not_eq_true', Bool.not_eq_false, Bool.and_eq_true, decide_eq_true_eq, beq_iff_eq] at pair
    obtain ⟨⟨⟨low, high⟩, -⟩, front⟩ := pair
    obtain apart | ⟨following, tail, rfl, following_small, not_low⟩ := alone low high
    · exact absurd front apart
    · have second : ((unitEscape following ++ tail).drop 2).take 4 = hexDigits 4 following := by
        simp [unitEscape]
      simp only [second, unit?_hexDigits following_small, if_neg not_low]

/-- Two units of a pair are one character. -/
theorem readText_pair {high low : Nat} (first : 0xd800 ≤ high ∧ high ≤ 0xdbff)
    (second : 0xdc00 ≤ low ∧ low ≤ 0xdfff) (more : rest ≠ []) :
    readText start (fuel + 1) ⟨offset, unitEscape high ++ unitEscape low ++ rest⟩ done =
      readText start fuel ⟨offset + 12, rest⟩ (ofNat (0x10000 + (high - 0xd800) * 0x400 + (low - 0xdc00)) :: done) := by
  have units : (hexDigits 4 high ++ (unitEscape low ++ rest)).take 4 = hexDigits 4 high := by simp
  have skipped : Cursor.skip ⟨offset, unitEscape high ++ (unitEscape low ++ rest)⟩ 6 =
      ⟨offset + 6, unitEscape low ++ rest⟩ := skip_append offset (unitEscape high) _
  have skipped_both : Cursor.skip ⟨offset + 6, unitEscape low ++ rest⟩ 6 = ⟨offset + 6 + 6, rest⟩ :=
    skip_append (offset + 6) (unitEscape low) rest
  have nonempty := length_pos_iff.2 more
  have long : ¬ (hexDigits 4 high ++ (unitEscape low ++ rest)).length ≤ 4 := by
    rw [length_append, length_append, length_hexDigits]
    omega
  have six : (unitEscape low).length = 6 := by simp [unitEscape]
  have longer : 6 < (unitEscape low ++ rest).length := by
    rw [length_append, six]
    omega
  have front : (unitEscape low ++ rest).take 2 = ['\\', 'u'] := by simp [unitEscape]
  have following : ((unitEscape low ++ rest).drop 2).take 4 = hexDigits 4 low := by simp [unitEscape]
  rw [append_assoc]
  rw [unitEscape, cons_append, cons_append] at skipped ⊢
  rw [readText]
  simp only [if_neg long, units, unit?_hexDigits (show high < 0x10000 by omega), skipped, longer, front,
    following, unit?_hexDigits (show low < 0x10000 by omega), if_pos second, skipped_both, first.1, first.2]
  rfl

end

variable {c : Char} {written : List Char}

theorem readText_escaped (start fuel offset : Nat) (done rest : List Char) (escaped : Escaped c written)
    (more : rest ≠ []) (alone : IsHigh c → NoLow rest) :
    ∃ next, readText start (fuel + 1) ⟨offset, written ++ rest⟩ done =
      readText start fuel ⟨next, rest⟩ (c :: done) := by
  cases escaped with
  | named letter escape other => exact ⟨_, readText_escape escape other⟩
  | plain shown quote slash => exact ⟨_, readText_plain shown quote slash⟩
  | unit small =>
    refine ⟨offset + 6, ?_⟩
    rw [readText_unit small more (fun low high => alone ⟨low, high⟩), ofCode_codeOf]
  | pair high low first second whole =>
    refine ⟨offset + 12, ?_⟩
    rw [readText_pair first second more, whole, ofNat_toNat]

theorem noLow_escaped {d : Char} (escaped : Escaped d written) (other : ¬ IsLow d) (rest : List Char) :
    NoLow (written ++ rest) := by
  cases escaped with
  | named letter escape not_unit =>
    left
    intro same
    simp only [cons_append, nil_append, take_succ_cons, take_zero, cons.injEq, and_true, true_and] at same
    exact not_unit same
  | plain shown quote slash =>
    left
    intro same
    simp only [cons_append, nil_append, take_succ_cons, cons.injEq] at same
    exact slash same.1
  | unit small => exact .inr ⟨codeOf d, rest, rfl, small, other⟩
  | pair high low first second whole =>
    exact .inr ⟨high, unitEscape low ++ rest, append_assoc .., by omega, by omega⟩

/-! ### A whole text -/

theorem escapeChar_half (half : 0xd800 ≤ codeOf c ∧ codeOf c ≤ 0xdfff) : escapeChar c = unitEscape (codeOf c) := by
  have other {d : Char} (small : codeOf d < 0xd800) : ¬ (c == d) = true := by
    rw [beq_iff_eq]
    rintro rfl
    omega
  unfold escapeChar
  iterate 7 rw [if_neg (other (by decide))]
  simp only
  rw [if_neg (by omega), if_pos (by omega)]

/-- Whatever a text holds, it is read with its halves joined. -/
theorem readText_joined (start : Nat) (text rest : List Char) : ∀ fuel offset done, text.length < fuel →
      ∃ next, readText start fuel ⟨offset, text.flatMap escapeChar ++ '"' :: rest⟩ done =
        .ok (done.reverse ++ joined text, ⟨next, rest⟩) := by
  induction text using joined.induct with
  | case1 high low text halves ih =>
    intro fuel offset done enough
    obtain ⟨fuel, rfl⟩ : ∃ n, fuel = n + 1 := ⟨fuel - 1, by simp at enough; omega⟩
    obtain ⟨⟨above, below⟩, above', below'⟩ := halves
    obtain ⟨next, read⟩ := ih fuel (offset + 12) (pairOf high low :: done) (by simp at enough; omega)
    refine ⟨next, ?_⟩
    rw [flatMap_cons, flatMap_cons, escapeChar_half ⟨above, by omega⟩, escapeChar_half ⟨by omega, below'⟩,
      ← append_assoc, append_assoc, readText_pair ⟨above, below⟩ ⟨above', below'⟩ (by simp)]
    rw [joined, if_pos ⟨⟨above, below⟩, above', below'⟩, ← pairOf, read]
    simp
  | case2 high low text apart ih =>
    intro fuel offset done enough
    obtain ⟨fuel, rfl⟩ : ∃ n, fuel = n + 1 := ⟨fuel - 1, by simp at enough; omega⟩
    have alone : IsHigh high → NoLow ((low :: text).flatMap escapeChar ++ '"' :: rest) := by
      intro first
      rw [flatMap_cons, append_assoc]
      exact noLow_escaped (escaped_escapeChar low) (fun second => apart ⟨first, second⟩) _
    obtain ⟨next, step⟩ := readText_escaped start fuel offset done _ (escaped_escapeChar high) (by simp) alone
    obtain ⟨last, read⟩ := ih fuel next (high :: done) (by simpa using enough)
    refine ⟨last, ?_⟩
    rw [flatMap_cons, append_assoc, step, read, joined, if_neg apart]
    simp
  | case3 text short =>
    intro fuel offset done enough
    match text, short with
    | [], _ =>
      obtain ⟨fuel, rfl⟩ := Nat.exists_eq_add_of_lt enough
      exact ⟨offset + 1, by simp [readText, skip_cons, joined]⟩
    | [c], _ =>
      obtain ⟨fuel, rfl⟩ : ∃ n, fuel = n + 1 + 1 := ⟨fuel - 2, by simp at enough; omega⟩
      obtain ⟨next, step⟩ := readText_escaped start (fuel + 1) offset done _ (escaped_escapeChar c)
        (cons_ne_nil '"' rest) fun _ => .inl (by simp)
      refine ⟨next + 1, ?_⟩
      rw [flatMap_singleton, step]
      simp [readText, skip_cons, joined]
    | c :: d :: more, short => exact absurd rfl (short c d more)

theorem Escaped.length_pos (escaped : Escaped c written) : 0 < written.length := by
  cases escaped <;> simp [unitEscape]

theorem length_le_escaped (text : List Char) : text.length ≤ (text.flatMap escapeChar).length := by
  induction text with
  | nil => exact Nat.le_refl _
  | cons c text ih =>
    have some_ := (escaped_escapeChar c).length_pos
    rw [flatMap_cons, length_append, length_cons]
    omega

/-- A text is read from its quotes with its halves joined. -/
theorem readText_textChars (start offset : Nat) (text rest : List Char) :
    ∃ next, readText start ((textChars text ++ rest).length + 1) (Cursor.skip ⟨offset, textChars text ++ rest⟩ 1) [] =
      .ok (joined text, ⟨next, rest⟩) := by
  have enough : text.length < (textChars text ++ rest).length + 1 := by
    have := length_le_escaped text
    simp only [textChars, cons_append, length_cons, length_append]
    omega
  obtain ⟨next, read⟩ := readText_joined start text rest _ (offset + 1) [] enough
  have skipped : Cursor.skip ⟨offset, textChars text ++ rest⟩ 1 =
      ⟨offset + 1, text.flatMap escapeChar ++ '"' :: rest⟩ := by
    simp [textChars, Cursor.skip]
  rw [skipped]
  exact ⟨next, read⟩

end Json
end Playhouse
