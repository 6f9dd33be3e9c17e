import KeepGateway.Lib.Dict

/-!
# Gauges

The series of a gauge, each of which keeps its last value until it is set again, and refreshes
that set the series of a freshly computed dictionary.
-/

namespace KeepGateway
namespace Gauges

variable {κ : Type}

/-- The value of each series that has ever been set. -/
abbrev Gauge (κ : Type) := κ -> Option Nat

/-- What a gauge should show: the counts, and zero where a series has no count. -/
def Shows [DecidableEq κ] (counts : List (κ × Nat)) (gauge : Gauge κ) : Prop :=
  (forall key shown, gauge key = some shown -> shown = (counts.lookup key).getD 0) ∧
    forall key count, counts.lookup key = some count -> gauge key = some count

/-- Every series that shows more than zero is one of these. -/
def Covers (seen : List κ) (gauge : Gauge κ) : Prop :=
  forall key shown, gauge key = some shown -> shown ≠ 0 -> key ∈ seen

variable [DecidableEq κ]

/-- `labels(...).set(...)` -/
def Gauge.set (gauge : Gauge κ) (key : κ) (count : Nat) : Gauge κ :=
  fun k => if k = key then some count else gauge k

def Gauge.setAll (gauge : Gauge κ) (counts : List (κ × Nat)) : Gauge κ :=
  counts.foldl (fun gauge entry => gauge.set entry.1 entry.2) gauge

def Gauge.reset (gauge : Gauge κ) (keys : List κ) : Gauge κ :=
  keys.foldl (fun gauge key => gauge.set key 0) gauge

/-- The series that an earlier refresh has set and this one does not. -/
def gone (seen : List κ) (counts : List (κ × Nat)) : List κ :=
  seen.filter fun key => key ∉ counts.map Prod.fst

theorem lookup_isSome_iff {counts : List (κ × Nat)} {key : κ} :
    (counts.lookup key).isSome = true <-> key ∈ counts.map Prod.fst := by
  rw [Option.isSome_iff_ne_none, Ne, List.lookup_eq_none_iff]
  constructor
  · intro h
    by_contra hnot
    apply h
    intro entry hentry
    exact bne_iff_ne.mpr fun heq => hnot (List.mem_map.mpr ⟨entry, hentry, heq.symm⟩)
  · intro h hnone
    rcases List.mem_map.mp h with ⟨entry, hentry, heq⟩
    exact bne_iff_ne.mp (hnone entry hentry) heq.symm

theorem setAll_apply {counts : List (κ × Nat)} (hcounts : Dict.Distinct counts) (gauge : Gauge κ)
    (key : κ) : gauge.setAll counts key = (counts.lookup key).or (gauge key) := by
  induction counts generalizing gauge with
  | nil => rfl
  | cons entry counts ih =>
      rcases List.nodup_cons.mp hcounts with ⟨hfresh, hrest⟩
      show (gauge.set entry.1 entry.2).setAll counts key = _
      rw [ih hrest, Dict.lookup_cons_eq]
      unfold Gauge.set
      split
      case isTrue heq =>
        have hnone : counts.lookup key = none := by
          by_contra hsome
          rw [heq] at hsome
          exact hfresh (lookup_isSome_iff.mp (Option.isSome_iff_ne_none.mpr hsome))
        rw [if_pos heq.symm, hnone]
        rfl
      case isFalse hne => rw [if_neg (Ne.symm hne)]

/-- A series that has been set has been set now or before. -/
theorem setAll_cases {counts : List (κ × Nat)} (hcounts : Dict.Distinct counts)
    {gauge : Gauge κ} {key : κ} {shown : Nat} (h : gauge.setAll counts key = some shown) :
    key ∈ counts.map Prod.fst ∨ gauge key = some shown := by
  rw [setAll_apply hcounts] at h
  cases hlookup : counts.lookup key with
  | some count => exact Or.inl (lookup_isSome_iff.mp (Option.isSome_of_eq_some hlookup))
  | none =>
      rw [hlookup] at h
      exact Or.inr h

theorem reset_apply (gauge : Gauge κ) (keys : List κ) (key : κ) :
    gauge.reset keys key = if key ∈ keys then some 0 else gauge key := by
  induction keys generalizing gauge with
  | nil => rfl
  | cons first keys ih =>
      show (gauge.set first 0).reset keys key = _
      rw [ih]
      unfold Gauge.set
      rcases Classical.em (key ∈ keys) with hmem | hnot
      · rw [if_pos hmem, if_pos (List.mem_cons_of_mem first hmem)]
      · rw [if_neg hnot]
        exact if_congr (by rw [List.mem_cons, or_iff_left hnot]) rfl rfl

/-- Setting what is computed is enough exactly if no other series shows a count. -/
theorem shows_setAll_iff {counts : List (κ × Nat)} (hcounts : Dict.Distinct counts)
    (gauge : Gauge κ) :
    Shows counts (gauge.setAll counts) <-> Covers (counts.map Prod.fst) gauge := by
  constructor
  · intro h key shown hshown hpositive
    by_contra hnot
    have hnone : counts.lookup key = none := by
      rw [← Option.not_isSome_iff_eq_none, lookup_isSome_iff]
      exact hnot
    refine hpositive ((h.1 key shown ?_).trans ?_)
    · rw [setAll_apply hcounts, hnone]
      exact hshown
    · rw [hnone]
      rfl
  · intro h
    constructor
    · intro key shown hshown
      rw [setAll_apply hcounts] at hshown
      cases hlookup : counts.lookup key with
      | some count =>
          rw [hlookup] at hshown
          exact (Option.some.inj hshown).symm
      | none =>
          rw [hlookup] at hshown
          by_contra hpositive
          have hmem := lookup_isSome_iff.mpr (h key shown hshown hpositive)
          rw [hlookup] at hmem
          cases hmem
    · intro key count hlookup
      rw [setAll_apply hcounts, hlookup]
      rfl

theorem covers_setAll {counts : List (κ × Nat)} (hcounts : Dict.Distinct counts)
    {gauge : Gauge κ} (h : Covers (counts.map Prod.fst) gauge) :
    Covers (counts.map Prod.fst) (gauge.setAll counts) := by
  intro key shown hshown hpositive
  rcases setAll_cases hcounts hshown with hnow | hbefore
  · exact hnow
  · exact h key shown hbefore hpositive

/-- After the reset of those that are gone, only the series of this refresh may show a count. -/
theorem covers_reset {seen : List κ} {gauge : Gauge κ} (h : Covers seen gauge)
    (counts : List (κ × Nat)) :
    Covers (counts.map Prod.fst) (gauge.reset (gone seen counts)) := by
  intro key shown hshown hpositive
  rw [reset_apply] at hshown
  split at hshown
  · exact absurd (Option.some.inj hshown).symm hpositive
  case isFalse hkept =>
    by_contra hnot
    refine hkept (List.mem_filter.mpr ⟨h key shown hshown hpositive, ?_⟩)
    exact decide_eq_true hnot

end Gauges
end KeepGateway
