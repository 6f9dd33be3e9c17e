import Mathlib.Data.Fintype.Card
import Mathlib.Data.List.Basic
import Mathlib.Data.Set.Finite.Basic
import Mathlib.Logic.Relation

/-!
# Trails of links

Each item has at most one link to another.  A trail follows the links to an item that has none;
among finitely many linked items every item has one unless some item leads back to itself.
-/

namespace KeepGateway
namespace Trails

variable {α : Type} (next : α -> Option α)

def Link (a b : α) : Prop := next a = some b

/-- No item comes back to itself. -/
def Acyclic : Prop := forall a, ¬ Relation.TransGen (Link next) a a

/-- The items from one on, up to the one that has no link. -/
inductive Trail : α -> List α -> α -> Prop where
  | last {a : α} : next a = none -> Trail a [a] a
  | link {a b z : α} {items : List α} :
      next a = some b -> Trail b items z -> Trail a (a :: items) z

variable {next}

theorem Trail.unique {a z z' : α} {items items' : List α} (h : Trail next a items z)
    (h' : Trail next a items' z') : items = items' ∧ z = z' := by
  induction h generalizing items' z' with
  | last hnone =>
      cases h' with
      | last _ => exact ⟨rfl, rfl⟩
      | link hsome _ =>
          rw [hnone] at hsome
          cases hsome
  | link hsome _ ih =>
      cases h' with
      | last hnone =>
          rw [hnone] at hsome
          cases hsome
      | link hsome' hrest =>
          cases hsome.symm.trans hsome'
          rcases ih hrest with ⟨rfl, rfl⟩
          exact ⟨rfl, rfl⟩

theorem Trail.next_last {a z : α} {items : List α} (h : Trail next a items z) : next z = none := by
  induction h with
  | last hnone => exact hnone
  | link _ _ ih => exact ih

theorem Trail.first_mem {a z : α} {items : List α} (h : Trail next a items z) : a ∈ items := by
  cases h with
  | last _ => exact List.mem_cons_self
  | link _ _ => exact List.mem_cons_self

theorem Trail.last_mem {a z : α} {items : List α} (h : Trail next a items z) : z ∈ items := by
  induction h with
  | last _ => exact List.mem_cons_self
  | link _ _ ih => exact List.mem_cons_of_mem _ ih

/-- From every item of a trail on the links end where the trail does. -/
theorem Trail.of_mem {a b z : α} {items : List α} (h : Trail next a items z) (hb : b ∈ items) :
    exists rest, Trail next b rest z := by
  induction h with
  | last hnone =>
      rw [List.mem_singleton.mp hb]
      exact ⟨_, .last hnone⟩
  | link hsome hrest ih =>
      rcases List.mem_cons.mp hb with heq | hb
      · rw [heq]
        exact ⟨_, .link hsome hrest⟩
      · exact ih hb

/-- Every item before the last has a link. -/
theorem Trail.eq_or_linked {a z : α} {items : List α} (h : Trail next a items z) :
    a = z ∨ exists b rest, next a = some b ∧ Trail next b rest z := by
  cases h with
  | last _ => exact Or.inl rfl
  | link hsome hrest => exact Or.inr ⟨_, _, hsome, hrest⟩

theorem Trail.shorter {a b z : α} {items : List α} (h : Trail next a items z)
    (hlinks : Relation.TransGen (Link next) a b) :
    exists rest, Trail next b rest z ∧ rest.length < items.length := by
  induction hlinks using Relation.TransGen.head_induction_on generalizing items with
  | single hlink =>
      cases h with
      | last hnone => cases hnone.symm.trans hlink
      | link hsome hrest =>
          cases hsome.symm.trans hlink
          exact ⟨_, hrest, Nat.lt_succ_self _⟩
  | head hlink _ ih =>
      cases h with
      | last hnone => cases hnone.symm.trans hlink
      | link hsome hrest =>
          cases hsome.symm.trans hlink
          rcases ih hrest with ⟨rest, htrail, hlength⟩
          exact ⟨rest, htrail, Nat.lt_succ_of_lt hlength⟩

theorem not_trail_of_cycle {a z : α} {items : List α}
    (hcycle : Relation.TransGen (Link next) a a) : ¬ Trail next a items z := by
  intro h
  rcases h.shorter hcycle with ⟨rest, hrest, hlength⟩
  rw [(h.unique hrest).1] at hlength
  exact Nat.lt_irrefl _ hlength

/-- Links among finitely many items end. -/
theorem exists_trail {linked : Set α} (hfinite : linked.Finite)
    (hlinked : forall a b, next a = some b -> a ∈ linked) (hacyclic : Acyclic next) (a : α) :
    exists items z, Trail next a items z := by
  have : Finite linked := hfinite
  let later : linked -> linked -> Prop := fun x y => Relation.TransGen (Link next) y.1 x.1
  have : IsTrans linked later := ⟨fun _ _ _ hxy hyz => hyz.trans hxy⟩
  have : Std.Irrefl later := ⟨fun x => hacyclic x.1⟩
  have hends : forall x : linked, exists items z, Trail next x.1 items z := by
    intro x
    induction x using (Finite.wellFounded_of_trans_of_irrefl later).induction with
    | h x ih =>
        cases hnext : next x.1 with
        | none => exact ⟨_, _, .last hnext⟩
        | some b =>
            cases hb : next b with
            | none => exact ⟨_, _, .link hnext (.last hb)⟩
            | some c =>
                rcases ih ⟨b, hlinked b c hb⟩ (.single hnext) with ⟨items, z, htrail⟩
                exact ⟨_, z, .link hnext htrail⟩
  cases hnext : next a with
  | none => exact ⟨_, _, .last hnext⟩
  | some b => exact hends ⟨a, hlinked a b hnext⟩

end Trails
end KeepGateway
