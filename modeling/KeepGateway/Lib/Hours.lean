import Mathlib.Algebra.GroupWithZero.Nat
import Mathlib.Data.Int.Basic

/-!
# Hours

Points in time as microseconds, the hours in which they are, and the buckets of a day.
-/

namespace KeepGateway
namespace Hours

/-- The microseconds of an hour. -/
def hour : Int := 3600000000

/-- `time.replace(minute=0, second=0, microsecond=0)` -/
def truncate (time : Int) : Int := time / hour * hour

/-- `time.hour` -/
def ofDay (time : Int) : Nat := (time / hour % 24).toNat

theorem hour_pos : 0 < hour := by decide

theorem hour_ne_zero : hour ≠ 0 := Int.ne_of_gt hour_pos

theorem lt_truncate_add (time : Int) : time < truncate time + hour := by
  have hlt := Int.lt_ediv_add_one_mul_self time hour_pos
  rw [Int.add_mul, Int.one_mul] at hlt
  exact hlt

/-- A time on the hour, by the number of its hour. -/
theorem exists_of_emod_eq_zero {time : Int} (h : time % hour = 0) :
    exists number : Int, time = number * hour := by
  rcases Int.dvd_of_emod_eq_zero h with ⟨number, hnumber⟩
  exact ⟨number, hnumber.trans (Int.mul_comm hour number)⟩

theorem ofDay_mul (number : Int) : ofDay (number * hour) = (number % 24).toNat := by
  unfold ofDay
  rw [Int.mul_ediv_cancel _ hour_ne_zero]

/-!
## Buckets
-/

structure HourNumber where
  hour : Nat
  number : Nat
  deriving DecidableEq, Repr

/-- Buckets for 24 hours, by their labels and numbers. -/
def buckets (label number : Nat -> Nat) : List HourNumber :=
  (List.range 24).map fun i => ⟨label i, number i⟩

theorem buckets_congr {label number other : Nat -> Nat}
    (h : forall i, i < 24 -> number i = other i) : buckets label number = buckets label other := by
  apply List.map_congr_left
  intro i hi
  rw [h i (List.mem_range.mp hi)]

theorem modify_buckets (label number f : Nat -> Nat) (index : Nat) :
    (buckets label number).modify index
        (fun bucket => { bucket with number := f bucket.number }) =
      buckets label fun i => if index = i then f (number i) else number i := by
  unfold buckets
  apply List.ext_getElem
  · rw [List.length_modify, List.length_map, List.length_map]
  · intro i hi hi'
    rw [List.getElem_modify, List.getElem_map, List.getElem_map, List.getElem_range]
    rcases Classical.em (index = i) with heq | hne
    · rw [if_pos heq]
      exact congrArg (HourNumber.mk (label i)) (if_pos heq).symm
    · rw [if_neg hne]
      exact congrArg (HourNumber.mk (label i)) (if_neg hne).symm

theorem sum_buckets (label number : Nat -> Nat) :
    ((buckets label number).map HourNumber.number).sum = ((List.range 24).map number).sum := by
  unfold buckets
  rw [List.map_map]
  rfl

theorem getD_buckets (label number : Nat -> Nat) (i : Nat) :
    ((buckets label number).map HourNumber.number).getD i 0 = if i < 24 then number i else 0 := by
  unfold buckets
  rw [List.map_map, List.getD_eq_getElem?_getD, List.getElem?_map]
  rcases Classical.em (i < 24) with hlt | hge
  · rw [List.getElem?_range hlt, if_pos hlt]
    rfl
  · rw [List.getElem?_eq_none (by rw [List.length_range]; exact Nat.le_of_not_lt hge), if_neg hge]
    rfl

end Hours
end KeepGateway
