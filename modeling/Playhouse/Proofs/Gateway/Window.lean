import Playhouse.Gateway.Basic
import Playhouse.Proofs.Act
import Playhouse.Proofs.Data.Measure

/-!
The window of a rate limit by exact times. On a clock whose readings floats hold, a request of less than a
minute ago is counted: its age is small beside the readings, so no rounding can make it a minute.
-/
namespace Playhouse
open Decimal Float Number

namespace Number

/-- The exact value of a number; zero for one that is not finite. -/
def toRat : Number → ℚ
  | int n => n
  | float x => (valueOf? x).getD 0

/-- A float holds the number as it is. -/
def IsExact (x : Number) : Prop := valueOf? x.toFloat = some x.toRat

section
variable {x : Float} {a : ℚ}

theorem compareWith?_of_lt {n : Int} (holds : valueOf? x = some a) (below : a < n) : compareWith? n x = some .gt := by
  rw [compareWith?_eq holds, compare_gt_iff_gt.2 below]

theorem isInf_ofModel (u : Model.UnpackedFloat) : (ofModel (Model.pack u)).isInf = (Model.pack u).unpack.isInf := rfl

theorem isInf_eq_false (holds : valueOf? x = some a) : x.isInf = false := by
  unfold valueOf? at holds
  split at holds
  · rename_i negative value class_
    rcases classify_finite class_ with ⟨-, rfl⟩ | ⟨canonical, rfl⟩
    · rw [isInf_ofModel, unpack_zero]
      rfl
    · rw [isInf_ofModel, unpack_pack canonical]
      rfl
  · cases holds

end

theorem IsExact.toFloat? {x : Number} (exact_ : x.IsExact) : x.toFloat? = some x.toFloat := by
  cases x with
  | int n =>
    rw [Number.toFloat?, if_neg]
    · rfl
    · rw [Bool.not_eq_true]
      exact isInf_eq_false exact_
  | float x => rfl

end Number

namespace Gateway
open Number

/-- Whether a time still counts. -/
def counts (now time : Number) : Bool := (now.sub? time).any (·.less windowLength)

section
variable {now time : Number} {times : List Number}

section
variable (exact_now : now.IsExact)
include exact_now

theorem less_of_near (exact_time : time.IsExact) (far : 32 ≤ time.toRat)
    (past : time.toRat ≤ now.toRat) (near : now.toRat - time.toRat < 60) :
    (float (now.toFloat - time.toFloat)).less windowLength = true := by
  have age := valueOf?_sub exact_now exact_time far past (by linarith)
  have order : compareWith? 60 (now.toFloat - time.toFloat) = some .gt := compareWith?_of_lt age (by exact_mod_cast near)
  simp [less, windowLength, order]

/-- Two readings have a distance, which is below a minute if it is so exactly. -/
theorem exists_age (exact_time : time.IsExact) :
    ∃ age, now.sub? time = some age ∧
      (32 ≤ time.toRat → time.toRat ≤ now.toRat → now.toRat - time.toRat < 60 → age.less windowLength = true) := by
  cases now with
  | int m =>
    cases time with
    | int n =>
      refine ⟨.int (m - n), rfl, fun _ _ near => ?_⟩
      have below : (m : ℚ) - n < 60 := near
      norm_cast at below
      simpa [less, windowLength] using below
    | float y =>
      refine ⟨.float ((Number.int m).toFloat - (Number.float y).toFloat), ?_, less_of_near exact_now exact_time⟩
      simp [sub?, exact_now.toFloat?, exact_time.toFloat?]
  | float x =>
    refine ⟨.float ((Number.float x).toFloat - time.toFloat), ?_, less_of_near exact_now exact_time⟩
    simp [sub?, exact_now.toFloat?, exact_time.toFloat?]

theorem inWindow_eq (exact_times : ∀ time ∈ times, time.IsExact) :
    inWindow now times = .ok (times.filter (counts now)) := by
  refine filterM_eq_filter fun time member => ?_
  obtain ⟨age, distance, -⟩ := exists_age exact_now (exact_times time member)
  simp [counts, distance]

theorem counts_of_near (exact_time : time.IsExact) (far : 32 ≤ time.toRat)
    (past : time.toRat ≤ now.toRat) (near : now.toRat - 60 < time.toRat) : counts now time = true := by
  obtain ⟨age, distance, below⟩ := exists_age exact_now exact_time
  simpa [counts, distance] using below far past (by linarith)

end

theorem admits_iff (n : Int) : admits (.int n) times = .ok true ↔ (times.length : Int) < n := by
  simp [admits, Value.less, Value.less?, Value.number?, less]

end

end Gateway
end Playhouse
