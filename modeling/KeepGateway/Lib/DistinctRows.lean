import Mathlib.Data.Finset.Card
import Mathlib.Data.Finset.Image
import Mathlib.Data.List.Dedup

/-!
# Joined and distinct rows

The joins of a query over lists of rows, and the rows that are left where only one is kept
for each key.  Two keys leave equally many rows exactly where they tell the same rows apart.
-/

namespace KeepGateway
namespace Rows

variable {α β κ l : Type}

/-!
## Joins
-/

def join (on : α -> β -> Bool) (left : List α) (right : List β) : List (α × β) :=
  left.flatMap fun a => (right.filter (on a)).map fun b => (a, b)

/-- A row without a match is kept once. -/
def leftJoin (on : α -> β -> Bool) (left : List α) (right : List β) : List (α × Option β) :=
  left.flatMap fun a =>
    match right.filter (on a) with
    | [] => [(a, none)]
    | matched => matched.map fun b => (a, some b)

theorem mem_join {on : α -> β -> Bool} {left : List α} {right : List β} {row : α × β}
    (h : row ∈ join on left right) : row.1 ∈ left ∧ row.2 ∈ right ∧ on row.1 row.2 = true := by
  rcases List.mem_flatMap.mp h with ⟨a, ha, hrow⟩
  rcases List.mem_map.mp hrow with ⟨b, hb, heq⟩
  rcases List.mem_filter.mp hb with ⟨hb, hon⟩
  cases heq
  exact ⟨ha, hb, hon⟩

theorem join_mem {on : α -> β -> Bool} {left : List α} {right : List β} {row : α × β}
    (hleft : row.1 ∈ left) (hright : row.2 ∈ right) (hon : on row.1 row.2 = true) :
    row ∈ join on left right :=
  List.mem_flatMap.mpr ⟨row.1, hleft,
    List.mem_map.mpr ⟨row.2, List.mem_filter.mpr ⟨hright, hon⟩, rfl⟩⟩

theorem mem_leftJoin {on : α -> β -> Bool} {left : List α} {right : List β}
    {row : α × Option β} (h : row ∈ leftJoin on left right) :
    row.1 ∈ left ∧ (forall b, row.2 = some b -> b ∈ right ∧ on row.1 b = true) ∧
      (row.2 = none -> forall b, b ∈ right -> on row.1 b = false) := by
  rcases List.mem_flatMap.mp h with ⟨a, ha, hrow⟩
  split at hrow
  · rename_i hnone
    cases List.mem_singleton.mp hrow
    refine ⟨ha, fun b hb => (by cases hb), fun _ b hb => ?_⟩
    cases hon : on a b with
    | false => rfl
    | true =>
        have hmatched : b ∈ right.filter (on a) := List.mem_filter.mpr ⟨hb, hon⟩
        rw [hnone] at hmatched
        cases hmatched
  · rcases List.mem_map.mp hrow with ⟨b, hb, heq⟩
    cases heq
    refine ⟨ha, fun other hother => ?_, fun hnone => (by cases hnone)⟩
    cases hother
    exact List.mem_filter.mp hb

/-!
## Distinct rows
-/

variable [DecidableEq κ] [DecidableEq l]

/-- The first row of each key. -/
def distinctOn (key : α -> κ) : List α -> List α
  | [] => []
  | row :: rest => row :: (distinctOn key rest).filter fun other => key other != key row

theorem mem_keys_distinctOn (key : α -> κ) (rows : List α) (k : κ) :
    k ∈ (distinctOn key rows).map key <-> k ∈ rows.map key := by
  induction rows with
  | nil => rfl
  | cons row rest ih =>
      simp only [distinctOn, List.map_cons, List.mem_cons]
      constructor
      · rintro (heq | hmem)
        · exact .inl heq
        · rcases List.mem_map.mp hmem with ⟨other, hother, hk⟩
          exact .inr (ih.mp (List.mem_map.mpr ⟨other, (List.mem_filter.mp hother).1, hk⟩))
      · rintro (heq | hmem)
        · exact .inl heq
        · rcases Classical.em (k = key row) with heq | hne
          · exact .inl heq
          · rcases List.mem_map.mp (ih.mpr hmem) with ⟨other, hother, hk⟩
            refine .inr (List.mem_map.mpr ⟨other, List.mem_filter.mpr ⟨hother, ?_⟩, hk⟩)
            rw [hk]
            exact bne_iff_ne.mpr hne

theorem distinctOn_sublist (key : α -> κ) (rows : List α) :
    (distinctOn key rows).Sublist rows := by
  induction rows with
  | nil => exact List.Sublist.refl _
  | cons row rest ih =>
      rw [distinctOn]
      exact (List.filter_sublist.trans ih).cons_cons row

theorem nodup_keys_distinctOn (key : α -> κ) (rows : List α) :
    ((distinctOn key rows).map key).Nodup := by
  induction rows with
  | nil => exact List.nodup_nil
  | cons row rest ih =>
      simp only [distinctOn, List.map_cons]
      refine List.nodup_cons.mpr ⟨?_, ?_⟩
      · intro hmem
        rcases List.mem_map.mp hmem with ⟨other, hother, hk⟩
        exact bne_iff_ne.mp (List.mem_filter.mp hother).2 hk
      · exact ih.sublist ((List.filter_sublist).map key)

/-- As many rows are left as there are keys. -/
theorem length_distinctOn (key : α -> κ) (rows : List α) :
    (distinctOn key rows).length = (rows.map key).toFinset.card := by
  have hkeys : (rows.map key).toFinset = ((distinctOn key rows).map key).toFinset := by
    ext k
    rw [List.mem_toFinset, List.mem_toFinset, mem_keys_distinctOn]
  rw [hkeys, List.toFinset_card_of_nodup (nodup_keys_distinctOn key rows), List.length_map]

/-- No row is left out where all keys are different. -/
theorem length_eq_distinctOn_iff (key : α -> κ) (rows : List α) :
    rows.length = (distinctOn key rows).length <-> rows.Pairwise fun a b => key a ≠ key b := by
  rw [length_distinctOn, ← List.pairwise_map, ← List.length_map (f := key)]
  constructor
  · intro h
    rw [List.card_toFinset] at h
    exact List.dedup_eq_self.mp ((List.dedup_sublist _).eq_of_length h.symm)
  · intro h
    exact (List.toFinset_card_of_nodup h).symm

/-- A finer key leaves more rows, unless the coarser one tells the same rows apart. -/
theorem length_distinctOn_coarse_iff {fine : α -> κ} {coarse : α -> l} {rows : List α}
    (hfine : forall a, a ∈ rows -> forall b, b ∈ rows -> fine a = fine b ->
      coarse a = coarse b) :
    (distinctOn coarse rows).length = (distinctOn fine rows).length <->
      forall a, a ∈ rows -> forall b, b ∈ rows -> coarse a = coarse b -> fine a = fine b := by
  have hkeys : forall {μ : Type} [DecidableEq μ] (pick : κ × l -> μ),
      (rows.map fun a => pick (fine a, coarse a)).toFinset =
        (rows.map fun a => (fine a, coarse a)).toFinset.image pick := by
    intro μ _ pick
    ext k
    simp only [List.mem_toFinset, Finset.mem_image, List.mem_map, exists_exists_and_eq_and]
  have hmem : forall {pair : κ × l},
      pair ∈ ((rows.map fun a => (fine a, coarse a)).toFinset : Set (κ × l)) ->
        exists a, a ∈ rows ∧ pair = (fine a, coarse a) := by
    intro pair hpair
    rcases List.mem_map.mp (List.mem_toFinset.mp hpair) with ⟨a, ha, heq⟩
    exact ⟨a, ha, heq.symm⟩
  have hfst : Set.InjOn Prod.fst
      ((rows.map fun a => (fine a, coarse a)).toFinset : Set (κ × l)) := by
    intro x hx y hy hxy
    rcases hmem hx with ⟨a, ha, hxa⟩
    rcases hmem hy with ⟨b, hb, hyb⟩
    subst hxa hyb
    exact Prod.ext hxy (hfine a ha b hb hxy)
  rw [length_distinctOn, length_distinctOn, hkeys Prod.snd, hkeys Prod.fst,
    Finset.card_image_iff.mpr hfst, Finset.card_image_iff]
  constructor
  · intro hinj a ha b hb hab
    have hpair : forall c, c ∈ rows ->
        (fine c, coarse c) ∈ ((rows.map fun a => (fine a, coarse a)).toFinset : Set (κ × l)) :=
      fun c hc => List.mem_toFinset.mpr (List.mem_map.mpr ⟨c, hc, rfl⟩)
    exact congrArg Prod.fst (hinj (hpair a ha) (hpair b hb) hab)
  · intro hcoarse x hx y hy hxy
    rcases hmem hx with ⟨a, ha, hxa⟩
    rcases hmem hy with ⟨b, hb, hyb⟩
    subst hxa hyb
    exact Prod.ext (hcoarse a ha b hb hxy) hxy

/-!
## Counts
-/

/-- The rows that are counted: all of them, or one for each key. -/
def kept (key : Option (α -> κ)) (rows : List α) : List α :=
  match key with
  | none => rows
  | some key => distinctOn key rows

/-- What tells no more apart than the key does is the same for the kept rows. -/
theorem mem_map_kept {μ : Type} {f : α -> μ} {key : Option (α -> κ)} {rows : List α}
    (h : forall k, key = some k -> forall a, a ∈ rows -> forall b, b ∈ rows -> k a = k b ->
      f a = f b) {x : μ} : x ∈ (kept key rows).map f <-> x ∈ rows.map f := by
  cases key with
  | none => exact Iff.rfl
  | some k =>
      constructor
      · intro hx
        exact ((distinctOn_sublist k rows).map f).subset hx
      · intro hx
        rcases List.mem_map.mp hx with ⟨a, ha, hfa⟩
        rcases List.mem_map.mp ((mem_keys_distinctOn k rows (k a)).mpr (List.mem_map_of_mem ha)) with
          ⟨b, hb, hkey⟩
        have heq := h k rfl b ((distinctOn_sublist k rows).subset hb) a ha hkey
        rw [← hfa, ← heq]
        exact List.mem_map_of_mem hb

/-- What tells apart all that the key does occurs once in the kept rows. -/
theorem nodup_map_kept {μ : Type} {f : α -> μ} {key : Option (α -> κ)} {rows : List α}
    (hsome : forall k, key = some k -> forall a, a ∈ rows -> forall b, b ∈ rows -> f a = f b ->
      k a = k b) (hnone : key = none -> (rows.map f).Nodup) : ((kept key rows).map f).Nodup := by
  cases key with
  | none => exact hnone rfl
  | some k =>
      have hkeys := nodup_keys_distinctOn k rows
      refine List.Nodup.map_on ?_ hkeys.of_map
      intro a ha b hb hf
      have hkey := hsome k rfl a ((distinctOn_sublist k rows).subset ha) b
        ((distinctOn_sublist k rows).subset hb) hf
      exact List.inj_on_of_nodup_map hkeys ha hb hkey

/-- The beginning of a list has each of some targets once, and nothing else, exactly where the list
has them all and no more of them than are taken. -/
theorem count_take_iff [DecidableEq α] {rows targets : List α} (hnodup : rows.Nodup)
    (hrows : forall a, a ∈ rows -> a ∈ targets) {n : Nat} :
    (forall a, (rows.take n).count a = if a ∈ targets then 1 else 0) <->
      targets.dedup.length ≤ n ∧ forall a, a ∈ targets -> a ∈ rows := by
  constructor
  · intro h
    have htaken : forall a, a ∈ targets -> a ∈ rows.take n := by
      intro a ha
      have hcount := h a
      rw [if_pos ha] at hcount
      exact List.count_pos_iff.mp (by rw [hcount]; exact Nat.one_pos)
    have hsubset : targets.dedup ⊆ rows.take n := fun a ha => htaken a (List.mem_dedup.mp ha)
    exact ⟨Nat.le_trans ((List.nodup_dedup _).subperm hsubset).length_le (List.length_take_le n rows),
      fun a ha => List.mem_of_mem_take (htaken a ha)⟩
  · rintro ⟨hfew, hall⟩ a
    have hsubset : rows ⊆ targets.dedup := fun b hb => List.mem_dedup.mpr (hrows b hb)
    rw [List.take_of_length_le (Nat.le_trans (hnodup.subperm hsubset).length_le hfew)]
    split
    · rename_i ha
      exact List.count_eq_one_of_mem hnodup (hall a ha)
    · rename_i ha
      exact List.count_eq_zero_of_not_mem fun hmem => ha (hrows a hmem)

/-- Two ways of counting tell the same rows apart. -/
def ToldApartAlike (coarse : Option (α -> κ)) (fine : Option (α -> l)) (rows : List α) : Prop :=
  match coarse, fine with
  | none, none => True
  | some coarse, none => rows.Pairwise fun a b => coarse a ≠ coarse b
  | none, some fine => rows.Pairwise fun a b => fine a ≠ fine b
  | some coarse, some fine =>
      forall a, a ∈ rows -> forall b, b ∈ rows -> coarse a = coarse b -> fine a = fine b

theorem length_kept_eq_iff {coarse : Option (α -> κ)} {fine : Option (α -> l)} {rows : List α}
    (hfine : forall c, coarse = some c -> forall f, fine = some f ->
      forall a, a ∈ rows -> forall b, b ∈ rows -> f a = f b -> c a = c b) :
    (kept coarse rows).length = (kept fine rows).length <->
      ToldApartAlike coarse fine rows := by
  cases coarse with
  | none =>
      cases fine with
      | none => exact iff_of_true rfl trivial
      | some f => exact length_eq_distinctOn_iff f rows
  | some c =>
      cases fine with
      | none => exact eq_comm.trans (length_eq_distinctOn_iff c rows)
      | some f => exact length_distinctOn_coarse_iff (hfine c rfl f rfl)

/-- A total and a list over the same rows, which may fail to be built, agree where they tell
the rows apart alike. -/
theorem total_eq_length_iff {ε β : Type} {built : Except ε (List α × β)}
    {coarse : Option (α -> κ)} {fine : β -> Option (α -> l)}
    (hfine : forall rows b, built = .ok (rows, b) ->
      forall c, coarse = some c -> forall f, fine b = some f ->
        forall x, x ∈ rows -> forall y, y ∈ rows -> f x = f y -> c x = c y) :
    (built >>= fun r => .ok (kept coarse r.1).length) =
        (built >>= fun r => .ok (kept (fine r.2) r.1)).map List.length <->
      forall rows b, built = .ok (rows, b) -> ToldApartAlike coarse (fine b) rows := by
  cases built with
  | error e =>
      refine iff_of_true rfl ?_
      intro rows b h
      cases h
  | ok result =>
      rcases result with ⟨rows, b⟩
      have hcount := length_kept_eq_iff (hfine rows b rfl)
      constructor
      · intro htotal rows' b' h
        cases h
        exact hcount.mp (Except.ok.inj htotal)
      · intro halike
        exact congrArg Except.ok (hcount.mpr (halike rows b rfl))

end Rows
end KeepGateway
