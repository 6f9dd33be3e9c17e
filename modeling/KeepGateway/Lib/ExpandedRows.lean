import KeepGateway.Lib.DistinctRows

/-!
# Expanded rows

Rows that joins make of items, several for each.  Where the rows of an item all pass a filter
or all fail it, and agree in the key, the items that are left do not depend on how many rows
each of them has.
-/

namespace KeepGateway
namespace Rows

variable {α β ι κ : Type}

/-!
## Joins, row by row
-/

theorem leftJoin_flatMap (on : α -> β -> Bool) (left : List α) (right : List β) :
    leftJoin on left right = left.flatMap fun a => leftJoin on [a] right := by
  refine List.flatMap_congr fun a _ => ?_
  unfold leftJoin
  rw [List.flatMap_singleton]

theorem leftJoin_of_filter {on : α -> β -> Bool} {a : α} {right matched : List β}
    (h : right.filter (on a) = matched) (hne : matched ≠ []) :
    leftJoin on [a] right = matched.map fun b => (a, some b) := by
  unfold leftJoin
  rw [List.flatMap_singleton, h]
  cases matched with
  | nil => exact absurd rfl hne
  | cons _ _ => rfl

theorem leftJoin_of_filter_nil {on : α -> β -> Bool} {a : α} {right : List β}
    (h : right.filter (on a) = []) : leftJoin on [a] right = [(a, none)] := by
  unfold leftJoin
  rw [List.flatMap_singleton, h]

theorem leftJoin_singleton_ne_nil (on : α -> β -> Bool) (a : α) (right : List β) :
    leftJoin on [a] right ≠ [] := by
  unfold leftJoin
  rw [List.flatMap_singleton]
  split
  · exact List.cons_ne_nil _ _
  · rename_i matched hmatched
    exact fun hnil => hmatched (List.map_eq_nil_iff.mp hnil)

theorem leftJoin_of_filter_toList {on : α -> β -> Bool} {a : α} {right : List β} {b : Option β}
    (h : right.filter (on a) = b.toList) : leftJoin on [a] right = [(a, b)] := by
  cases b with
  | none => exact leftJoin_of_filter_nil h
  | some b => exact leftJoin_of_filter h (List.cons_ne_nil b [])

/-- Rows that are joined once stay as many. -/
theorem leftJoin_eq_map {on : α -> β -> Bool} {left : List α} {right : List β}
    {f : α -> Option β} (h : forall a, a ∈ left -> right.filter (on a) = (f a).toList) :
    leftJoin on left right = left.map fun a => (a, f a) := by
  rw [leftJoin_flatMap, List.flatMap_congr fun a ha => leftJoin_of_filter_toList (h a ha)]
  exact List.flatMap_pure_eq_map _ _

theorem join_eq_map {on : α -> β -> Bool} {left : List α} {right : List β} {f : α -> β}
    (h : forall a, a ∈ left -> right.filter (on a) = [f a]) :
    join on left right = left.map fun a => (a, f a) := by
  unfold join
  rw [List.flatMap_congr fun a ha => congrArg _ (h a ha)]
  exact List.flatMap_pure_eq_map _ _

/-- Items that are joined at most once keep their keys apart. -/
theorem nodup_map_join {on : α -> β -> Bool} {left : List α} {right : List β} {key : α -> κ}
    (hleft : (left.map key).Nodup)
    (hright : forall a, a ∈ left -> (right.filter (on a)).length ≤ 1) :
    ((join on left right).map fun row => key row.1).Nodup := by
  induction left with
  | nil => exact List.nodup_nil
  | cons a rest ih =>
      rcases List.nodup_cons.mp hleft with ⟨hnew, hrest⟩
      have hjoin : join on (a :: rest) right =
          (right.filter (on a)).map (fun b => (a, b)) ++ join on rest right := rfl
      rw [hjoin, List.map_append, List.map_map]
      refine List.nodup_append.mpr ⟨?_, ih hrest fun b hb => hright b (List.mem_cons_of_mem a hb), ?_⟩
      · have honce := hright a List.mem_cons_self
        cases hfilter : right.filter (on a) with
        | nil => exact List.nodup_nil
        | cons b others =>
            rw [hfilter] at honce
            have hothers : others = [] := List.length_eq_zero_iff.mp (by
              rw [List.length_cons] at honce
              omega)
            rw [hothers]
            exact List.nodup_singleton _
      · intro x hx y hy heq
        rcases List.mem_map.mp hx with ⟨b, _, hxa⟩
        rcases List.mem_map.mp hy with ⟨row, hrow, hyrow⟩
        apply hnew
        have hkey : key row.1 = key a := by
          rw [hyrow, ← heq, ← hxa]
          rfl
        rw [← hkey]
        exact List.mem_map_of_mem (mem_join hrow).1

theorem leftJoin_ne_nil {left : List α} (on : α -> β -> Bool) (right : List β)
    (h : left ≠ []) : leftJoin on left right ≠ [] := by
  rcases List.exists_mem_of_ne_nil left h with ⟨a, ha⟩
  rw [leftJoin_flatMap]
  intro hnil
  exact leftJoin_singleton_ne_nil on a right (List.flatMap_eq_nil_iff.mp hnil a ha)

theorem leftJoin_flatMap_left {γ : Type} (on : α -> β -> Bool) (left : List γ) (f : γ -> List α)
    (right : List β) :
    leftJoin on (left.flatMap f) right = left.flatMap fun c => leftJoin on (f c) right := by
  unfold leftJoin
  rw [List.flatMap_assoc]

theorem filter_join (on : α -> β -> Bool) (q : α -> Bool) (left : List α) (right : List β) :
    (join on left right).filter (fun row => q row.1) = join on (left.filter q) right := by
  unfold join
  induction left with
  | nil => rfl
  | cons a rest ih =>
      rw [List.flatMap_cons, List.filter_append, ih]
      have hpairs : forall row, row ∈ (right.filter (on a)).map (fun b => (a, b)) ->
          q row.1 = q a := by
        intro row hrow
        rcases List.mem_map.mp hrow with ⟨b, -, heq⟩
        rw [← heq]
      cases hq : q a with
      | true =>
          rw [List.filter_cons_of_pos hq, List.flatMap_cons,
            List.filter_eq_self.mpr fun row hrow => (hpairs row hrow).trans hq]
      | false =>
          have hne : ¬ q a = true := fun h => Bool.false_ne_true (hq.symm.trans h)
          rw [List.filter_cons_of_neg hne, List.filter_eq_nil_iff.mpr fun row hrow hp =>
            hne ((hpairs row hrow).symm.trans hp), List.nil_append]

/-- Only the rows a join can match matter. -/
theorem join_filter_right {on : α -> β -> Bool} {q : β -> Bool} {left : List α} {right : List β}
    (h : forall a, a ∈ left -> forall b, on a b = true -> q b = true) :
    join on left (right.filter q) = join on left right := by
  refine List.flatMap_congr fun a ha => ?_
  rw [List.filter_filter]
  congr 1
  refine List.filter_congr fun b _ => ?_
  cases hon : on a b with
  | false => rfl
  | true => rw [h a ha b hon]; rfl

/-- A filter that only looks at the item a row comes from. -/
theorem filter_flatMap_of {expand : ι -> List α} {p : α -> Bool} {q : ι -> Bool} {items : List ι}
    (h : forall i, i ∈ items -> forall row, row ∈ expand i -> p row = q i) :
    (items.flatMap expand).filter p = (items.filter q).flatMap expand := by
  induction items with
  | nil => rfl
  | cons i rest ih =>
      have hrest := ih fun j hj => h j (List.mem_cons_of_mem i hj)
      rw [List.flatMap_cons, List.filter_append, hrest]
      have hhead := h i List.mem_cons_self
      cases hq : q i with
      | true =>
          rw [List.filter_cons_of_pos hq, List.flatMap_cons,
            List.filter_eq_self.mpr fun row hrow => (hhead row hrow).trans hq]
      | false =>
          have hnone : (expand i).filter p = [] := by
            refine List.filter_eq_nil_iff.mpr fun row hrow hp => ?_
            rw [hhead row hrow, hq] at hp
            cases hp
          rw [List.filter_cons_of_neg (by rw [hq]; exact Bool.false_ne_true), hnone,
            List.nil_append]

/-!
## Keys of items
-/

variable [DecidableEq κ]

/-- Rows of one key in front leave no other row of that key. -/
theorem filter_distinctOn_append {key : α -> κ} {k : κ} {first rest : List α}
    (h : forall row, row ∈ first -> key row = k) :
    (distinctOn key (first ++ rest)).filter (fun row => key row != k) =
      (distinctOn key rest).filter fun row => key row != k := by
  induction first with
  | nil => rfl
  | cons row first ih =>
      have hrow := h row List.mem_cons_self
      have hfirst := ih fun other hother => h other (List.mem_cons_of_mem row hother)
      rw [List.cons_append, distinctOn, hrow,
        List.filter_cons_of_neg (by rw [hrow, bne_self_eq_false]; exact Bool.false_ne_true),
        List.filter_filter]
      simp only [Bool.and_self]
      exact hfirst

variable {item : α -> ι} {expand : ι -> List α} {items : List ι} {key : α -> κ} {g : ι -> κ}

/-- Each item has rows, and they are its own. -/
structure Expands (item : α -> ι) (expand : ι -> List α) (items : List ι) : Prop where
  ne_nil : forall i, i ∈ items -> expand i ≠ []
  item_eq : forall i, i ∈ items -> forall row, row ∈ expand i -> item row = i

theorem Expands.sublist {some_items : List ι} (h : Expands item expand items)
    (hsub : some_items.Sublist items) : Expands item expand some_items where
  ne_nil := fun i hi => h.ne_nil i (hsub.subset hi)
  item_eq := fun i hi => h.item_eq i (hsub.subset hi)

/-- One item is left for each key, however many rows the items have. -/
theorem Expands.map_distinctOn (h : Expands item expand items)
    (hkey : forall i, i ∈ items -> forall row, row ∈ expand i -> key row = g i) :
    (distinctOn key (items.flatMap expand)).map item = distinctOn g items := by
  induction items with
  | nil => rfl
  | cons i rest ih =>
      have hrest := ih (h.sublist (List.sublist_cons_self i rest))
        fun j hj => hkey j (List.mem_cons_of_mem i hj)
      rw [List.flatMap_cons]
      cases hrows : expand i with
      | nil => exact absurd hrows (h.ne_nil i List.mem_cons_self)
      | cons row others =>
          have hmem : forall other, other ∈ row :: others -> other ∈ expand i := by
            rw [hrows]
            exact fun _ hother => hother
          have hown := hkey i List.mem_cons_self
          have hrow := hown row (hmem row List.mem_cons_self)
          rw [List.cons_append, distinctOn, distinctOn, List.map_cons,
            h.item_eq i List.mem_cons_self row (hmem row List.mem_cons_self), hrow,
            filter_distinctOn_append fun other hother =>
              hown other (hmem other (List.mem_cons_of_mem row hother))]
          congr 1
          rw [← hrest, List.filter_map]
          congr 1
          refine List.filter_congr fun other hother => ?_
          have hthere := (distinctOn_sublist key (rest.flatMap expand)).subset hother
          rcases List.mem_flatMap.mp hthere with ⟨j, hj, hother'⟩
          rw [Function.comp_apply, h.item_eq j (List.mem_cons_of_mem i hj) other hother',
            hkey j (List.mem_cons_of_mem i hj) other hother']

theorem kept_singleton (key : Option (α -> κ)) (row : α) : kept key [row] = [row] := by
  cases key <;> rfl

theorem length_kept_filter_singleton (key : Option (α -> κ)) (p : α -> Bool) (a : α) :
    (kept key ([a].filter p)).length = (p a).toNat := by
  rw [List.filter_singleton]
  cases p a with
  | true => rw [cond_true, kept_singleton]; rfl
  | false => cases key <;> rfl

theorem eq_of_length_kept_filter {key : Option (α -> κ)} {p : α -> Bool} {a b : α}
    (h : (kept key ([a].filter p)).length = (kept key ([b].filter p)).length) : p a = p b := by
  rw [length_kept_filter_singleton, length_kept_filter_singleton] at h
  revert h
  cases p a <;> cases p b <;> intro h <;> first | rfl | cases h

/-- Two rows that leave one agree in the key. -/
theorem key_eq_of_length_distinctOn {key : α -> κ} {a b : α}
    (h : (distinctOn key [a, b]).length = 1) : key a = key b := by
  rcases Classical.em (key a = key b) with heq | hne
  · exact heq
  · have hapart : [a, b].Pairwise fun a b => key a ≠ key b :=
      List.pairwise_pair.mpr hne
    rw [← (length_eq_distinctOn_iff key [a, b]).mpr hapart] at h
    cases h

end Rows
end KeepGateway
