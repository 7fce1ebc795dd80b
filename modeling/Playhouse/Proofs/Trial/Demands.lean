import Mathlib.Data.List.TakeWhile
import Playhouse.Trial.Demand

/-!
Demanded features. A case is meant to be held up by the first of its requirements that is violated: that of its form
of output, then the lines of its features file, of which one after an exclamation mark names a feature that must not
be there. The check stops at every line with an exclamation mark, and reads no file where the output has a requirement:
the theorem says where it finds what is meant all the same.
-/
namespace Playhouse.Trial
open List Option

/-- A line that names a feature which must not be there. -/
def isInverted (line : String) : Bool := startsWith "!" line

/-- Whether a line of a features file holds for the features that are available. -/
def isMet (available : List String) (line : String) : Bool :=
  if isInverted line then !available.contains (String.ofList (line.toList.drop 1)) else available.contains line

/-- Whether a line stands for a requirement, and that is violated. -/
def isViolated (available : List String) (line : String) : Bool := line != "" && !isMet available line

/-- The lines of a features file, if there is one. -/
def featureLines (file : Option String) : List String := linesOf (unifiedLines (file.getD ""))

/-- The first violated requirement of a case as it is meant. -/
def violated? (available : List String) (needed file : Option String) : Option String :=
  (needed.filter (!available.contains ·)).or ((featureLines file).find? (isViolated available))

/-- Two searches, of which the first stops wherever the second does, agree exactly if the first does not stop sooner. -/
theorem find?_eq_find?_iff {α : Type} {p q : α → Bool} (weaker : ∀ a, q a = true → p a = true) (entries : List α) :
    entries.find? p = entries.find? q ↔ ∀ a ∈ entries.takeWhile (!q ·), p a = false := by
  induction entries with
  | nil => simp
  | cons first rest ih =>
    cases finds : q first with
    | true => simp [finds, weaker first finds]
    | false =>
      rw [find?_cons, find?_cons, finds, takeWhile_cons_of_pos (by simp [finds]), forall_mem_cons]
      cases stops : p first with
      | false => simpa using ih
      | true =>
        refine iff_of_false (fun same => ?_) (by simp)
        simp [find?_some same.symm] at finds

/-- The two marks come to this: an inverted line always stands in the way. -/
theorem standsInWay_eq (available : List String) (line : String) :
    standsInWay available line = (startsWith "!" line || !available.contains line) := by
  cases inverted : startsWith "!" line <;> simp [standsInWay, inverted]

/-- A line stops the check if it is inverted or violated. -/
theorem stops_eq (available : List String) (line : String) :
    (line != "" && (startsWith "!" line || !available.contains line)) =
      (isInverted line || isViolated available line) := by
  by_cases empty : line = ""
  · subst empty
    rfl
  · cases inverted : startsWith "!" line <;> simp [isInverted, isViolated, isMet, inverted, empty]

/-- What holds a case up is the first requirement that it violates exactly if, where a file is read, no inverted line
comes before the first that is violated, and otherwise, where the output's requirement is met, no line of the file is
violated. (A requirement of the output that is itself inverted counts as violated.) -/
theorem unmetFeature?_eq_violated?_iff (available : List String) (needed file : Option String)
    (named : needed ≠ some "") :
    unmetFeature? available (featureDemands needed file) = violated? available needed file ↔
      (needed = none → ∀ line ∈ (featureLines file).takeWhile (!isViolated available ·), isInverted line = false) ∧
      ∀ feature ∈ needed, available.contains feature = true →
        (featureLines file).find? (isViolated available) = if isInverted feature then some feature else none := by
  cases needed with
  | none =>
    have weaker (line : String) (held : isViolated available line = true) :
        (isInverted line || isViolated available line) = true := by simp [held]
    have lines_eq : featureDemands none file = featureLines file := rfl
    simp only [unmetFeature?, standsInWay_eq, stops_eq, lines_eq, violated?, filter_none, none_or,
      find?_eq_find?_iff weaker, not_mem_none, false_implies, implies_true, and_true, true_implies]
    refine forall₂_congr fun line member => ?_
    have met : isViolated available line = false := by simpa using mem_takeWhile_imp member
    rw [met, Bool.or_false]
  | some feature =>
    have some_ : feature ≠ "" := fun same => named (same ▸ rfl)
    simp only [unmetFeature?, standsInWay_eq, featureDemands, violated?, find?_cons, find?_nil, bne_iff_ne.2 some_,
      Bool.true_and, filter_some, reduceCtorEq, false_implies, true_and, mem_some_iff, forall_eq']
    cases found : available.contains feature with
    | false => simp
    | true => cases inverted : startsWith "!" feature <;> simp [isInverted, inverted, eq_comm]

/-- A line that asks for a feature not to be there holds a case up where it is not there. -/
theorem absent_feature_holds_up :
    unmetFeature? ["json"] (featureDemands none (some "!xml")) = some "!xml" ∧
      violated? ["json"] none (some "!xml") = none ∧ unmetFeature? ["json"] (featureDemands none (some "!xml")) ≠
        violated? ["json"] none (some "!xml") := by
  refine ⟨by decide +kernel, by decide +kernel, fun same => ?_⟩
  have upright := ((unmetFeature?_eq_violated?_iff ["json"] none (some "!xml") nofun).1 same).1 rfl
  exact absurd (upright "!xml" (by decide +kernel)) (by decide +kernel)

end Playhouse.Trial
