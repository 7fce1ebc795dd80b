import Playhouse.Character.Narrative
import Playhouse.Proofs.Text.Split

/-!
How far one pass of tidying brings a text to a normal form. The ends are bare and the line breaks are gone, but pairs of
blanks are joined only once: of a run of blanks and line breaks about half is left. So a tidied text still has two blanks
in a row, and changes when it is tidied again, exactly if three blanks or line breaks stood in a row before.
-/
namespace Playhouse
open List

namespace Text

/-! ### Line breaks -/

/-- A line break as a blank. -/
def unbroken (c : Char) : Char := if c = '\n' then ' ' else c

theorem isBlank_unbroken (c : Char) : isBlank (unbroken c) = isBlank c := by
  by_cases same : c = '\n'
  · rw [same]
    decide
  · rw [unbroken, if_neg same]

theorem unbroken_ne (c : Char) : unbroken c ≠ '\n' := by
  by_cases same : c = '\n'
  · rw [same]
    decide
  · rwa [unbroken, if_neg same]

theorem unbroken_eq_blank_iff (c : Char) : unbroken c = ' ' ↔ c = ' ' ∨ c = '\n' := by
  by_cases same : c = '\n' <;> simp [unbroken, same]

theorem replace_newline (text : List Char) : replace ['\n'] [' '] text = text.map unbroken := by
  induction text with
  | nil => rfl
  | cons c text ih =>
    rw [map_cons, ← ih]
    by_cases same : c = '\n'
    · rw [same]
      exact replace_separator (cons_ne_nil _ _) [' '] text
    · rw [replace_cons (by simp [Ne.symm same]), unbroken, if_neg same]

/-! ### Pairs of blanks -/

/-- Pairs of blanks joined from the left. -/
def paired : List Char → List Char
  | ' ' :: ' ' :: rest => ' ' :: paired rest
  | c :: rest => c :: paired rest
  | [] => []

theorem no_pair_front {c : Char} {rest : List Char} (alone : ∀ behind, c = ' ' → rest = ' ' :: behind → False) :
    ¬ [' ', ' '] <+: c :: rest := by
  rintro ⟨behind, same⟩
  cases same
  exact alone behind rfl rfl

theorem replace_pair (text : List Char) : replace [' ', ' '] [' '] text = paired text := by
  fun_induction paired text with
  | case1 rest ih =>
    rw [← ih]
    exact replace_separator (cons_ne_nil _ _) [' '] rest
  | case2 c rest alone ih => rw [replace_cons (no_pair_front alone), ih]
  | case3 => rfl

theorem paired_sublist (text : List Char) : paired text <+ text := by
  fun_induction paired text with
  | case1 rest ih => exact (ih.cons_cons ' ').cons ' '
  | case2 c rest _ ih => exact ih.cons_cons c
  | case3 => exact .slnil

theorem head?_paired (text : List Char) : (paired text).head? = text.head? := by
  fun_cases paired text <;> rfl

theorem getLast?_paired (text : List Char) : (paired text).getLast? = text.getLast? := by
  fun_induction paired text with
  | case1 rest ih => simp [getLast?_cons, ih]
  | case2 c rest _ ih => simp [getLast?_cons, ih]
  | case3 => rfl

/-- A pair is left where three blanks were. -/
theorem pair_infix_paired_iff (text : List Char) : [' ', ' '] <:+: paired text ↔ [' ', ' ', ' '] <:+: text := by
  have starts (rest : List Char) : [' '] <+: paired rest ↔ [' '] <+: rest := by
    fun_cases paired rest <;> simp
  have shorter {rest : List Char} : [' ', ' '] <+: rest → [' '] <+: rest := (prefix_append [' '] [' ']).trans
  fun_induction paired text with
  | case1 rest ih =>
    -- three blanks that start at the second of the pair also start at the first
    simp only [infix_cons_iff, cons_prefix_cons, true_and, ih, starts]
    tauto
  | case2 c rest alone ih =>
    have apart := no_pair_front alone
    simp only [infix_cons_iff, cons_prefix_cons, ih, starts] at apart ⊢
    tauto
  | case3 => simp

theorem paired_eq_self_iff (text : List Char) : paired text = text ↔ ¬ [' ', ' '] <:+: text := by
  fun_induction paired text with
  | case1 rest ih =>
    refine iff_of_false (fun same => ?_) (not_not.2 (prefix_append [' ', ' '] rest).isInfix)
    have shorter := (paired_sublist rest).length_le
    have as_long := congrArg length same
    simp only [length_cons] at as_long
    omega
  | case2 c rest alone ih => rw [cons_inj_right, ih, infix_cons_iff, or_iff_right (no_pair_front alone)]
  | case3 => simp

/-! ### Tidied texts -/

/-- Three blanks or line breaks stand in a row. -/
def HasGap (text : List Char) : Prop := ∃ gap, gap <:+: text ∧ gap.length = 3 ∧ ∀ c ∈ gap, c = ' ' ∨ c = '\n'

theorem hasGap_iff (text : List Char) : HasGap text ↔ [' ', ' ', ' '] <:+: text.map unbroken := by
  have three (gap : List Char) : [' ', ' ', ' '] = gap.map unbroken ↔
      gap.length = 3 ∧ ∀ c ∈ gap, c = ' ' ∨ c = '\n' := by
    have blanks : [' ', ' ', ' '] = replicate 3 ' ' := rfl
    rw [eq_comm, blanks, eq_replicate_iff, length_map, forall_mem_map]
    simp only [unbroken_eq_blank_iff]
  simp only [HasGap, infix_map_iff, three]

variable (text : List Char)

theorem tidy_eq : tidy text = paired ((trim text).map unbroken) := by
  rw [tidy, replace_newline, replace_pair]

theorem isBare_tidy : IsBare (tidy text) := by
  have ends := isBare_trim text
  rw [IsBare, tidy_eq, head?_paired, getLast?_paired, head?_map, getLast?_map]
  simpa [isBlank_unbroken, IsBare] using ends

theorem newline_notMem_tidy : '\n' ∉ tidy text := by
  intro member
  rw [tidy_eq] at member
  obtain ⟨c, -, same⟩ := mem_map.1 ((paired_sublist _).subset member)
  exact unbroken_ne c same

theorem pair_infix_tidy_iff : [' ', ' '] <:+: tidy text ↔ HasGap (trim text) := by
  rw [tidy_eq, pair_infix_paired_iff, hasGap_iff]

/-- A second pass has only pairs of blanks left to join. -/
theorem tidy_tidy : tidy (tidy text) = paired (tidy text) := by
  have line : (tidy text).map unbroken = tidy text := by
    refine (map_congr_left fun c member => if_neg ?_).trans (map_id' _)
    rintro rfl
    exact newline_notMem_tidy text member
  rw [tidy_eq (tidy text), trim_of_isBare (isBare_tidy text), line]

end Text

open Text

/-- A tidied text has no blank at its ends and no line break. It has no two blanks in a row, and stays as it is when it
is tidied again, exactly if no three blanks or line breaks stand in a row between the ends of the text. -/
theorem tidied_normal_iff_no_gap (text : String) :
    IsBare (tidied text).toList ∧ '\n' ∉ (tidied text).toList ∧
      (¬ [' ', ' '] <:+: (tidied text).toList ↔ ¬ HasGap (trimmed text).toList) ∧
      (tidied (tidied text) = tidied text ↔ ¬ HasGap (trimmed text).toList) := by
  have single := not_congr (pair_infix_tidy_iff text.toList)
  have again : tidied (tidied text) = tidied text ↔ ¬ HasGap (trim text.toList) := by
    rw [tidied, tidied, String.ofList_inj, String.toList_ofList, tidy_tidy, paired_eq_self_iff, single]
  rw [trimmed, tidied, String.toList_ofList, String.toList_ofList]
  exact ⟨isBare_tidy _, newline_notMem_tidy _, single, again⟩

/-- Three blanks are left as two. -/
theorem three_blanks_left_as_two : tidied "a   b" = "a  b" ∧ tidied (tidied "a   b") ≠ tidied "a   b" :=
  ⟨by decide, fun same => (tidied_normal_iff_no_gap "a   b").2.2.2.1 same
    ⟨List.replicate 3 ' ', ⟨['a'], ['b'], by decide⟩, rfl, fun _ member => .inl (List.eq_of_mem_replicate member)⟩⟩

end Playhouse
