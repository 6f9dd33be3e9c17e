import Mathlib.Algebra.BigOperators.Group.List.Lemmas
import Mathlib.Algebra.GroupWithZero.Nat
import Mathlib.Data.List.Dedup
import Mathlib.Data.List.MinMax

/-!
# Grouped rows

The groups of a query over a list of rows, the first of them in an order, and their counts.
-/

namespace KeepGateway
namespace Rows

variable {α β κ : Type}

/-- The rows of each key, for each key that a row has. -/
def groupBy [DecidableEq κ] (key : α -> κ) (rows : List α) : List (List α) :=
  (rows.map key).dedup.map fun k => rows.filter fun row => key row = k

theorem argmin_map (f : β -> Nat) (g : α -> β) (items : List α) :
    (items.map g).argmin f = (items.argmin (f ∘ g)).map g := by
  induction items using List.reverseRecOn with
  | nil => rfl
  | append_singleton items a ih =>
      rw [List.map_append, List.map_singleton, List.argmin_concat, List.argmin_concat, ih]
      cases items.argmin (f ∘ g) with
      | none => rfl
      | some c =>
          show (if f (g a) < f (g c) then some (g a) else some (g c)) =
            (if f (g a) < f (g c) then some a else some c).map g
          split
          · rfl
          · rfl

theorem argmin_congr {f g : α -> Nat} {items : List α} (h : forall a, a ∈ items -> f a = g a) :
    items.argmin f = items.argmin g := by
  induction items using List.reverseRecOn with
  | nil => rfl
  | append_singleton items a ih =>
      have hitems := ih fun b hb => h b (List.mem_append_left _ hb)
      rw [List.argmin_concat, List.argmin_concat, hitems]
      cases hfirst : items.argmin g with
      | none => rfl
      | some c =>
          have hc := List.argmin_mem (Option.mem_def.mpr hfirst)
          show (if f a < f c then some a else some c) = if g a < g c then some a else some c
          rw [h a List.mem_concat_self, h c (List.mem_append_left _ hc)]

/-- Of items that are repeated once for each match, those are distinct that have a match. -/
theorem dedup_flatMap_const [DecidableEq κ] (key : α -> κ) (matched : α -> List β)
    (items : List α) :
    (items.flatMap fun a => (matched a).map fun _ => key a).dedup =
      ((items.filter fun a => !(matched a).isEmpty).map key).dedup := by
  induction items with
  | nil => rfl
  | cons a items ih =>
      have hrest : forall k, k ∈ (items.flatMap fun a => (matched a).map fun _ => key a) <->
          k ∈ (items.filter fun a => !(matched a).isEmpty).map key := by
        intro k
        rw [← List.mem_dedup, ih, List.mem_dedup]
      rw [List.flatMap_cons, List.filter_cons]
      induction matched a with
      | nil => exact ih
      | cons b rest ihMatched =>
          cases rest with
          | nil =>
              show (key a :: _).dedup = (key a :: _).dedup
              rw [List.dedup_cons, List.dedup_cons]
              exact if_congr (hrest _) ih (congrArg (key a :: ·) ih)
          | cons c rest =>
              have hmem : key a ∈ (c :: rest).map (fun _ => key a) ++
                  items.flatMap fun a => (matched a).map fun _ => key a := List.mem_cons_self
              rw [List.map_cons, List.cons_append, List.dedup_cons_of_mem hmem]
              exact ihMatched

/-!
## Counts
-/

/-- Each key with the number of its rows. -/
def countBy [DecidableEq κ] (key : α -> κ) (rows : List α) : List (κ × Nat) :=
  (rows.map key).dedup.map fun k => (k, rows.countP fun row => key row = k)

/-- The number of the last group that is meant, where each one is written over the one before. -/
def lastCount (p : κ -> Bool) (groups : List (κ × Nat)) (start : Nat) : Nat :=
  groups.foldl (fun number group => if p group.1 then group.2 else number) start

theorem mem_countBy [DecidableEq κ] {key : α -> κ} {rows : List α} {group : κ × Nat} :
    group ∈ countBy key rows <->
      (exists row, row ∈ rows ∧ key row = group.1) ∧
        group.2 = rows.countP fun row => key row = group.1 := by
  unfold countBy
  rw [List.mem_map]
  constructor
  · intro h
    rcases h with ⟨k, hk, heq⟩
    rw [← heq]
    exact ⟨List.mem_map.mp (List.mem_dedup.mp hk), rfl⟩
  · intro h
    rcases h with ⟨hrow, hcount⟩
    exact ⟨group.1, List.mem_dedup.mpr (List.mem_map.mpr hrow), Prod.ext rfl hcount.symm⟩

/-- The number is the start as long as no group is meant, then that of one of those. -/
theorem lastCount_spec (p : κ -> Bool) (groups : List (κ × Nat)) (start : Nat) :
    ((forall group, group ∈ groups -> p group.1 = false) ∧ lastCount p groups start = start) ∨
      exists group, group ∈ groups ∧ p group.1 = true ∧ lastCount p groups start = group.2 := by
  induction groups generalizing start with
  | nil => exact Or.inl ⟨fun _ h => absurd h List.not_mem_nil, rfl⟩
  | cons group groups ih =>
      have hstep : lastCount p (group :: groups) start =
          lastCount p groups (if p group.1 then group.2 else start) := rfl
      rw [hstep]
      rcases ih (if p group.1 then group.2 else start) with ⟨hnone, hsame⟩ | ⟨later, hmem, hp, heq⟩
      · cases hp : p group.1 with
        | true =>
            rw [hp] at hsame
            exact Or.inr ⟨group, List.mem_cons_self, hp, hsame⟩
        | false =>
            rw [hp] at hsame
            left
            constructor
            · intro other hother
              rcases List.mem_cons.mp hother with heq | hmem
              · rw [heq]
                exact hp
              · exact hnone other hmem
            · exact hsame
      · exact Or.inr ⟨later, List.mem_cons_of_mem group hmem, hp, heq⟩

/-- Of two conditions of which one is stronger, both count the same exactly if no item separates
them. -/
theorem countP_eq_iff {p q : α -> Bool} {items : List α}
    (h : forall a, a ∈ items -> p a = true -> q a = true) :
    items.countP p = items.countP q <-> forall a, a ∈ items -> q a = true -> p a = true := by
  induction items with
  | nil => exact ⟨fun _ _ ha => absurd ha List.not_mem_nil, fun _ => rfl⟩
  | cons a items ih =>
      have hrest : forall b, b ∈ items -> p b = true -> q b = true :=
        fun b hb => h b (List.mem_cons_of_mem a hb)
      have hle : items.countP p ≤ items.countP q := List.countP_mono_left hrest
      rw [List.countP_cons, List.countP_cons, List.forall_mem_cons, ← ih hrest]
      cases hp : p a with
      | true =>
          rw [h a List.mem_cons_self hp]
          constructor
          · intro heq
            exact ⟨fun _ => rfl, Nat.add_right_cancel heq⟩
          · intro heq
            rw [heq.2]
      | false =>
          cases hq : q a with
          | true =>
              constructor
              · intro heq
                exact absurd heq (Nat.ne_of_lt (Nat.lt_succ_of_le hle))
              · intro heq
                exact absurd (heq.1 rfl) Bool.false_ne_true
          | false =>
              constructor
              · intro heq
                exact ⟨fun hfalse => absurd hfalse Bool.false_ne_true, heq⟩
              · intro heq
                exact heq.2

/-- Writing over the numbers of the groups never counts too much, and all rows that are meant
exactly if they are in one group. -/
theorem lastCount_countBy [DecidableEq κ] {key : α -> κ} {rows : List α}
    {groups : List (κ × Nat)} (hgroups : groups.Perm (countBy key rows)) (p : κ -> Bool) :
    lastCount p groups 0 ≤ rows.countP (p ∘ key) ∧
      (lastCount p groups 0 = rows.countP (p ∘ key) <->
        forall a b, a ∈ rows -> b ∈ rows -> p (key a) = true -> p (key b) = true ->
          key a = key b) := by
  rcases lastCount_spec p groups 0 with ⟨hnone, heq⟩ | ⟨group, hmem, hp, heq⟩
  · have habsent : forall a, a ∈ rows -> p (key a) = false := by
      intro a ha
      have hmem : (key a, rows.countP fun row => key row = key a) ∈ countBy key rows :=
        mem_countBy.mpr ⟨⟨a, ha, rfl⟩, rfl⟩
      exact hnone _ (hgroups.mem_iff.mpr hmem)
    have hzero : rows.countP (p ∘ key) = 0 := by
      rw [List.countP_eq_zero]
      intro a ha
      exact Bool.eq_false_iff.mp (habsent a ha)
    rw [heq, hzero]
    refine ⟨Nat.le_refl 0, fun _ a b ha _ hpa => ?_, fun _ => rfl⟩
    rw [habsent a ha] at hpa
    cases hpa
  · rcases mem_countBy.mp (hgroups.mem_iff.mp hmem) with ⟨⟨c, hc, hkey⟩, hcount⟩
    have hmeant : forall a, decide (key a = group.1) = true -> (p ∘ key) a = true := by
      intro a ha
      show p (key a) = true
      rw [of_decide_eq_true ha]
      exact hp
    rw [heq, hcount, countP_eq_iff fun a _ => hmeant a]
    refine ⟨List.countP_mono_left fun a _ => hmeant a, ?_, ?_⟩
    · intro h a b ha hb hpa hpb
      rw [of_decide_eq_true (h a ha hpa), of_decide_eq_true (h b hb hpb)]
    · intro h a ha hpa
      have hpc : p (key c) = true := by
        rw [hkey]
        exact hp
      rw [h a c ha hc hpa hpc, hkey]
      exact decide_eq_true rfl

/-- The counts of the groups that are meant are together that of their rows. -/
theorem sum_countBy [DecidableEq κ] (key : α -> κ) (rows : List α) (p : κ -> Bool) :
    ((countBy key rows).map fun group => if p group.1 then group.2 else 0).sum =
      rows.countP (p ∘ key) := by
  have hcount : forall k, rows.countP (fun row => key row = k) = (rows.map key).count k := by
    intro k
    rw [List.count_eq_countP, List.countP_map]
    rfl
  have hzero : forall keys : List κ, (keys.map fun _ => (0 : Nat)).sum = 0 := by
    intro keys
    rw [List.map_const', List.sum_replicate, nsmul_zero]
  unfold countBy
  rw [List.map_map, ← List.countP_map, ← List.sum_map_count_dedup_filter_eq_countP]
  show ((rows.map key).dedup.map fun k =>
    if p k = true then rows.countP (fun row => key row = k) else 0).sum = _
  rw [List.sum_map_ite, hzero, Nat.add_zero]
  congr 1
  have hfilter : (rows.map key).dedup.filter (fun k => decide (p k = true)) =
      (rows.map key).dedup.filter p := List.filter_congr fun k _ => Bool.decide_eq_true
  rw [hfilter]
  exact List.map_congr_left fun k _ => hcount k

/-- Counts under distinct keys are together that of the items that have one of the keys. -/
theorem sum_counts [DecidableEq κ] {key : α -> κ} {items : List α} {counts : List (κ × Nat)}
    (hdistinct : (counts.map Prod.fst).Nodup)
    (hcounts : forall entry, entry ∈ counts -> entry.2 = items.countP fun a => key a = entry.1) :
    (counts.map Prod.snd).sum = items.countP fun a => key a ∈ counts.map Prod.fst := by
  induction counts with
  | nil => exact (List.countP_eq_zero.mpr fun _ _ h => nomatch of_decide_eq_true h).symm
  | cons entry counts ih =>
      rcases List.nodup_cons.mp hdistinct with ⟨hnew, hrest⟩
      rcases List.forall_mem_cons.mp hcounts with ⟨hentry, hcounts⟩
      rw [List.map_cons, List.sum_cons, ih hrest hcounts, hentry,
        List.countP_eq_countP_filter_add items (fun a => key a ∈ (entry :: counts).map Prod.fst)
          fun a => decide (key a = entry.1), List.countP_filter, List.countP_filter]
      congr 1
      · apply List.countP_congr
        intro a _
        rw [Bool.and_eq_true_iff, decide_eq_true_iff, decide_eq_true_iff]
        refine (and_iff_right_of_imp fun heq => ?_).symm
        rw [heq]
        exact List.mem_cons_self
      · apply List.countP_congr
        intro a _
        rw [Bool.and_eq_true_iff, Bool.not_eq_true', decide_eq_true_iff, decide_eq_true_iff,
          decide_eq_false_iff_not, List.map_cons, List.mem_cons]
        constructor
        · intro hmem
          exact ⟨Or.inr hmem, fun heq => hnew (heq ▸ hmem)⟩
        · rintro ⟨hmem, hne⟩
          exact hmem.resolve_left hne

/-- The items of each index below a bound are together those with an index below it. -/
theorem sum_countP_index (p : α -> Bool) (index : α -> Nat) (items : List α) (n : Nat) :
    ((List.range n).map fun i => items.countP fun a => p a && index a == i).sum =
      items.countP fun a => p a && decide (index a < n) := by
  induction n with
  | zero =>
      symm
      rw [List.range_zero, List.map_nil, List.sum_nil, List.countP_eq_zero]
      intro a _ h
      exact Nat.not_lt_zero _ (of_decide_eq_true (Bool.and_eq_true_iff.mp h).2)
  | succ n ih =>
      rw [List.range_succ, List.map_append, List.sum_append, ih, List.map_singleton,
        List.sum_singleton, List.countP_eq_countP_filter_add items
          (fun a => p a && decide (index a < n + 1)) fun a => decide (index a < n),
        List.countP_filter, List.countP_filter]
      congr 1
      · apply List.countP_congr
        intro a _
        simp only [Bool.and_eq_true, decide_eq_true_eq]
        rw [and_assoc]
        exact and_congr_right fun _ => by omega
      · apply List.countP_congr
        intro a _
        simp only [Bool.and_eq_true, Bool.not_eq_true', decide_eq_true_eq,
          decide_eq_false_iff_not, beq_iff_eq]
        rw [and_assoc]
        exact and_congr_right fun _ => by omega

end Rows
end KeepGateway
