import KeepGateway.Lib.Dict
import Mathlib.Data.List.Induction

/-!
# The latest item of each key

A list of keyed items, read as a dictionary that is filled in order: a later item replaces
an earlier one of the same key.
-/

namespace KeepGateway
namespace Latest

variable {α κ : Type} [DecidableEq κ]

/-- `{key(item): item for item in items}` -/
def index (key : α -> κ) (items : List α) : List (κ × α) :=
  items.foldl (fun d item => Dict.set (key item) item d) []

/-- The items that no later item replaces. -/
def latest (key : α -> κ) : List α -> List α
  | [] => []
  | item :: rest =>
      if key item ∈ rest.map key then latest key rest else item :: latest key rest

/-- The items that a later item of the same key replaces. -/
def shadowed (key : α -> κ) : List α -> List α
  | [] => []
  | item :: rest =>
      if key item ∈ rest.map key then item :: shadowed key rest else shadowed key rest

variable {key : α -> κ}

variable (key) in
theorem perm_latest_shadowed (items : List α) :
    items.Perm (latest key items ++ shadowed key items) := by
  induction items with
  | nil => exact List.Perm.refl _
  | cons item rest ih =>
      unfold latest shadowed
      split
      · exact (List.Perm.cons item ih).trans List.perm_middle.symm
      · exact List.Perm.cons item ih

theorem latest_sublist (items : List α) : (latest key items).Sublist items := by
  induction items with
  | nil => exact List.Sublist.refl _
  | cons item rest ih =>
      unfold latest
      split
      · exact ih.cons item
      · exact ih.cons_cons item

theorem mem_keys_latest {items : List α} {k : κ} :
    k ∈ (latest key items).map key <-> k ∈ items.map key := by
  induction items with
  | nil => exact Iff.rfl
  | cons item rest ih =>
      unfold latest
      split
      · rename_i hmem
        rw [ih, List.map_cons, List.mem_cons]
        constructor
        · exact .inr
        · rintro (heq | hrest)
          · rw [heq]
            exact hmem
          · exact hrest
      · rw [List.map_cons, List.map_cons, List.mem_cons, List.mem_cons, ih]

theorem nodup_keys_latest (items : List α) : ((latest key items).map key).Nodup := by
  induction items with
  | nil => exact List.nodup_nil
  | cons item rest ih =>
      unfold latest
      split
      · exact ih
      · rename_i hmem
        rw [List.map_cons, List.nodup_cons]
        exact ⟨fun h => hmem (mem_keys_latest.mp h), ih⟩

theorem latest_eq_self {items : List α} (h : (items.map key).Nodup) :
    latest key items = items := by
  induction items with
  | nil => rfl
  | cons item rest ih =>
      rcases List.nodup_cons.mp h with ⟨hfresh, hrest⟩
      unfold latest
      rw [if_neg hfresh, ih hrest]

theorem shadowed_eq_nil {items : List α} (h : (items.map key).Nodup) :
    shadowed key items = [] := by
  induction items with
  | nil => rfl
  | cons item rest ih =>
      rcases List.nodup_cons.mp h with ⟨hfresh, hrest⟩
      unfold shadowed
      rw [if_neg hfresh, ih hrest]

/-- Items of other keys do not matter. -/
theorem latest_filter {p : α -> Bool} {items : List α}
    (h : forall a b, a ∈ items -> b ∈ items -> key a = key b -> p a = p b) :
    latest key (items.filter p) = (latest key items).filter p := by
  induction items with
  | nil => rfl
  | cons item rest ih =>
      have hrest := ih fun a b ha hb =>
        h a b (List.mem_cons_of_mem _ ha) (List.mem_cons_of_mem _ hb)
      have hkey : p item = true ->
          (key item ∈ (rest.filter p).map key <-> key item ∈ rest.map key) := by
        intro hp
        constructor
        · exact fun hmem => (List.filter_sublist.map key).subset hmem
        · intro hmem
          rcases List.mem_map.mp hmem with ⟨other, hother, heq⟩
          refine List.mem_map.mpr ⟨other, List.mem_filter.mpr ⟨hother, ?_⟩, heq⟩
          rw [h other item (List.mem_cons_of_mem _ hother) List.mem_cons_self heq, hp]
      cases hp : p item with
      | true =>
          rw [List.filter_cons_of_pos hp]
          unfold latest
          rw [if_congr (hkey hp) rfl rfl]
          split
          · exact hrest
          · rw [List.filter_cons_of_pos hp, hrest]
      | false =>
          rw [List.filter_cons_of_neg (by simp [hp])]
          conv_rhs => unfold latest
          split
          · exact hrest
          · rw [List.filter_cons_of_neg (by simp [hp]), hrest]

theorem latest_map {β : Type} {key' : β -> κ} {f : α -> β} {items : List α}
    (h : forall item, item ∈ items -> key' (f item) = key item) :
    latest key' (items.map f) = (latest key items).map f := by
  induction items with
  | nil => rfl
  | cons item rest ih =>
      have hrest := ih fun a ha => h a (List.mem_cons_of_mem _ ha)
      have hkeys : (rest.map f).map key' = rest.map key := by
        rw [List.map_map]
        exact List.map_congr_left fun a ha => h a (List.mem_cons_of_mem _ ha)
      rw [List.map_cons]
      unfold latest
      rw [hkeys, h item List.mem_cons_self]
      split
      · exact hrest
      · rw [List.map_cons, hrest]

theorem mem_latest_append {first second : List α} {item : α}
    (h : item ∈ latest key (first ++ second)) : item ∈ latest key first ∨ item ∈ second := by
  induction first with
  | nil => exact .inr ((latest_sublist second).subset h)
  | cons a rest ih =>
      rw [List.cons_append] at h
      unfold latest at h ⊢
      rcases Classical.em (key a ∈ (rest ++ second).map key) with hmem | hmem
      · rw [if_pos hmem] at h
        rcases ih h with hrest | hsecond
        · split
          · exact .inl hrest
          · exact .inl (List.mem_cons_of_mem _ hrest)
        · exact .inr hsecond
      · rw [if_neg hmem] at h
        have hnot : ¬ key a ∈ rest.map key := by
          intro hrest
          rw [List.map_append] at hmem
          exact hmem (List.mem_append_left _ hrest)
        rw [if_neg hnot]
        rcases List.mem_cons.mp h with heq | h
        · exact .inl (List.mem_cons.mpr (.inl heq))
        · exact (ih h).imp (List.mem_cons_of_mem _) fun hsecond => hsecond

/-!
## The dictionary
-/

theorem index_append (items : List α) (item : α) :
    index key (items ++ [item]) = Dict.set (key item) item (index key items) := by
  rw [index, List.foldl_append]
  rfl

theorem distinct_index (items : List α) : Dict.Distinct (index key items) := by
  induction items using List.reverseRecOn with
  | nil => exact Dict.distinct_nil
  | append_singleton rest item ih =>
      rw [index_append]
      exact ih.set _ _

theorem latest_append (items : List α) (item : α) :
    latest key (items ++ [item]) =
      (latest key items).filter (fun a => key a ≠ key item) ++ [item] := by
  induction items with
  | nil => simp [latest]
  | cons a rest ih =>
      rw [List.cons_append]
      unfold latest
      rcases Classical.em (key a ∈ rest.map key) with hmem | hmem
      · rw [if_pos hmem, if_pos (by simp [List.mem_map.mp hmem]), ih]
      · rcases Classical.em (key a = key item) with heq | heq
        · rw [if_neg hmem, if_pos (by simp [heq]), ih, List.filter_cons_of_neg (by simp [heq])]
        · have hnot : ¬ key a ∈ (rest ++ [item]).map key := by
            rw [List.map_append, List.mem_append]
            rintro (h | h)
            · exact hmem h
            · exact heq (List.mem_singleton.mp h)
          rw [if_neg hmem, if_neg hnot, ih, List.filter_cons_of_pos (by simp [heq])]
          rfl

/-- The dictionary holds the latest item of each key. -/
theorem lookup_index {items : List α} {k : κ} {item : α} :
    (index key items).lookup k = some item <-> item ∈ latest key items ∧ key item = k := by
  induction items using List.reverseRecOn generalizing item with
  | nil => simp [index, latest]
  | append_singleton rest last ih =>
      rw [index_append, latest_append]
      rcases Classical.em (key last = k) with hk | hk
      · rw [← hk, Dict.lookup_set_self]
        constructor
        · intro h
          cases h
          exact ⟨by simp, rfl⟩
        · rintro ⟨hmem, hkey⟩
          rcases List.mem_append.mp hmem with hmem | hmem
          · exact absurd hkey (of_decide_eq_true (List.mem_filter.mp hmem).2)
          · rw [List.mem_singleton.mp hmem]
      · rw [Dict.lookup_set_ne hk, ih]
        constructor
        · rintro ⟨hmem, hkey⟩
          refine ⟨List.mem_append_left _ (List.mem_filter.mpr ⟨hmem, ?_⟩), hkey⟩
          rw [hkey]
          exact decide_eq_true (Ne.symm hk)
        · rintro ⟨hmem, hkey⟩
          rcases List.mem_append.mp hmem with hmem | hmem
          · exact ⟨(List.mem_filter.mp hmem).1, hkey⟩
          · rw [List.mem_singleton.mp hmem] at hkey
            exact absurd hkey hk

theorem index_eq_nil {items : List α} (h : index key items = []) : items = [] := by
  cases items using List.reverseRecOn with
  | nil => rfl
  | append_singleton rest item =>
      have hlookup : (index key (rest ++ [item])).lookup (key item) = some item := by
        rw [index_append, Dict.lookup_set_self]
      rw [h] at hlookup
      cases hlookup

variable (key) in
/-- The values of the dictionary, in some order. -/
theorem perm_index (items : List α) :
    ((index key items).map Prod.snd).Perm (latest key items) := by
  have hkeys : forall e, e ∈ index key items -> key e.2 = e.1 := by
    intro e he
    have hlookup := (distinct_index items).lookup.mpr (show (e.1, e.2) ∈ index key items from he)
    exact (lookup_index.mp hlookup).2
  have hnodup : ((index key items).map Prod.snd).Nodup := by
    apply List.Nodup.of_map key
    rw [List.map_map]
    have hfst : (index key items).map (key ∘ Prod.snd) = (index key items).map Prod.fst :=
      List.map_congr_left hkeys
    rw [hfst]
    exact distinct_index items
  rw [List.perm_ext_iff_of_nodup hnodup (nodup_keys_latest items).of_map]
  intro item
  rw [List.mem_map]
  constructor
  · rintro ⟨e, he, rfl⟩
    have hlookup := (distinct_index items).lookup.mpr (show (e.1, e.2) ∈ index key items from he)
    exact (lookup_index.mp hlookup).1
  · intro hmem
    exact ⟨(key item, item), (distinct_index items).lookup.mp (lookup_index.mpr ⟨hmem, rfl⟩), rfl⟩

end Latest
end KeepGateway
