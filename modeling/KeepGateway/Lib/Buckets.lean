import KeepGateway.Lib.Dict
import Mathlib.Data.List.Induction
import Mathlib.Data.List.Pairwise
import Mathlib.Data.List.Perm.Basic

/-!
# Buckets

The items of a list, filed under their keys in a dictionary of lists.
-/

namespace KeepGateway
namespace Buckets

variable {α κ : Type} [DecidableEq κ]

/-- The items of a key, in order. -/
def under (key : α -> κ) (k : κ) (items : List α) : List α :=
  items.filter fun item => key item = k

/-- `d.setdefault(key(item), []).append(item)` -/
def add (key : α -> κ) (d : List (κ × List α)) (item : α) : List (κ × List α) :=
  Dict.set (key item) ((d.lookup (key item)).getD [] ++ [item]) d

def fileAll (key : α -> κ) (items : List α) : List (κ × List α) := items.foldl (add key) []

/-- A bucket, where there is anything in it. -/
def filled : List α -> Option (List α)
  | [] => none
  | item :: rest => some (item :: rest)

variable {key : α -> κ}

omit [DecidableEq κ] in
theorem filled_getD (items : List α) : (filled items).getD [] = items := by
  cases items with
  | nil => rfl
  | cons item rest => rfl

omit [DecidableEq κ] in
theorem filled_append (items : List α) (item : α) :
    filled (items ++ [item]) = some (items ++ [item]) := by
  cases items with
  | nil => rfl
  | cons first rest => rfl

theorem mem_under {k : κ} {items : List α} {item : α} :
    item ∈ under key k items <-> item ∈ items ∧ key item = k := by
  unfold under
  rw [List.mem_filter, decide_eq_true_eq]

theorem under_eq_nil {k : κ} {items : List α} :
    under key k items = [] <-> forall item, item ∈ items -> key item ≠ k := by
  unfold under
  rw [List.filter_eq_nil_iff]
  simp only [decide_eq_true_eq, ne_eq]

theorem under_append (k : κ) (items : List α) (item : α) :
    under key k (items ++ [item]) = under key k items ++ if key item = k then [item] else [] := by
  unfold under
  rw [List.filter_append, List.filter_singleton]
  congr 1
  rcases Classical.em (key item = k) with hk | hk
  · rw [if_pos hk, decide_eq_true hk, cond_true]
  · rw [if_neg hk, decide_eq_false hk, cond_false]

variable (key) in
theorem lookup_fileAll (items : List α) (k : κ) :
    (fileAll key items).lookup k = filled (under key k items) := by
  induction items using List.reverseRecOn with
  | nil => rfl
  | append_singleton rest item ih =>
      have hstep : fileAll key (rest ++ [item]) = add key (fileAll key rest) item := by
        unfold fileAll
        rw [List.foldl_append]
        rfl
      rw [hstep, under_append]
      unfold add
      rcases Classical.em (key item = k) with hk | hk
      · rw [if_pos hk, filled_append, hk, Dict.lookup_set_self, ih, filled_getD]
      · rw [if_neg hk, List.append_nil, Dict.lookup_set_ne hk, ih]

/-- The buckets of distinct keys together hold the items of those keys, each one once. -/
theorem perm_flatMap_under {keys : List κ} (hkeys : keys.Nodup) (items : List α) :
    (keys.flatMap fun k => under key k items).Perm
      (items.filter fun item => key item ∈ keys) := by
  induction keys with
  | nil =>
      rw [List.flatMap_nil, List.filter_eq_nil_iff.mpr fun item _ => by simp]
  | cons k rest ih =>
      rcases List.nodup_cons.mp hkeys with ⟨hfresh, hrest⟩
      have hsplit := List.filter_append_perm (fun item => decide (key item = k))
        (items.filter fun item => decide (key item ∈ k :: rest))
      rw [List.filter_filter, List.filter_filter] at hsplit
      have hfirst : items.filter (fun item => decide (key item = k) &&
          decide (key item ∈ k :: rest)) = under key k items := by
        apply List.filter_congr
        intro item _
        rcases Classical.em (key item = k) with hk | hk
        · simp [hk]
        · simp [hk]
      have hothers : items.filter (fun item => (!decide (key item = k)) &&
          decide (key item ∈ k :: rest)) = items.filter fun item => decide (key item ∈ rest) := by
        apply List.filter_congr
        intro item _
        rcases Classical.em (key item = k) with hk | hk
        · simp [hk, hfresh]
        · simp [hk]
      rw [hfirst, hothers] at hsplit
      rw [List.flatMap_cons]
      exact ((ih hrest).append_left _).trans hsplit

omit [DecidableEq κ] in
/-- Where nothing occurs twice in some buckets together, no two of them have an item in common. -/
theorem eq_of_nodup_flatMap {keys : List κ} {bucket : κ -> List α}
    (h : (keys.flatMap bucket).Nodup) {k k' : κ} (hk : k ∈ keys) (hk' : k' ∈ keys) {item : α}
    (hitem : item ∈ bucket k) (hitem' : item ∈ bucket k') : k = k' := by
  by_contra hne
  have hsymm : Std.Symm (Function.onFun List.Disjoint bucket) :=
    ⟨fun _ _ hdisjoint _ hright hleft => hdisjoint hleft hright⟩
  exact (List.nodup_flatMap.mp h).2.forall hk hk' hne hitem hitem'

end Buckets
end KeepGateway
