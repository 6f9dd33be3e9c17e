import Mathlib.Algebra.GroupWithZero.Nat
import Mathlib.Algebra.Order.BigOperators.Group.List
import Mathlib.Algebra.Order.Group.Nat
import Mathlib.Data.List.Basic
import Mathlib.Data.List.Count

/-!
# Interleaved lists

Lists in which pieces that begin and end with a marked element alternate with elements that are
not marked.  The numbers of marks tell where the pieces end.
-/

namespace KeepGateway
namespace Interleaved

variable {α : Type} {p : α -> Bool}

/-- No element is marked. -/
def Unmarked (p : α -> Bool) (l : List α) : Prop := forall a, a ∈ l -> p a = false

theorem unmarked_nil : Unmarked p [] := by
  intro a h
  exact absurd h List.not_mem_nil

theorem unmarked_append {l m : List α} :
    Unmarked p (l ++ m) <-> Unmarked p l ∧ Unmarked p m := by
  constructor
  · intro h
    exact ⟨fun a ha => h a (List.mem_append_left m ha),
      fun a ha => h a (List.mem_append_right l ha)⟩
  · intro h a ha
    rcases List.mem_append.mp ha with hl | hm
    · exact h.1 a hl
    · exact h.2 a hm

theorem unmarked_cons {a : α} {l : List α} :
    Unmarked p (a :: l) <-> p a = false ∧ Unmarked p l := by
  constructor
  · intro h
    exact ⟨h a List.mem_cons_self, fun b hb => h b (List.mem_cons_of_mem a hb)⟩
  · intro h b hb
    rcases List.mem_cons.mp hb with heq | hmem
    · rw [heq]
      exact h.1
    · exact h.2 b hmem

theorem countP_unmarked {l : List α} (h : Unmarked p l) : l.countP p = 0 := by
  rw [List.countP_eq_zero]
  intro a ha
  rw [h a ha]
  exact Bool.false_ne_true

/-- The first mark of a list is at one place. -/
theorem split_first {l m x y : List α} {a b : α} (hl : Unmarked p l) (hm : Unmarked p m)
    (ha : p a = true) (hb : p b = true) (h : l ++ a :: x = m ++ b :: y) :
    l = m ∧ a = b ∧ x = y := by
  induction l generalizing m with
  | nil =>
      cases m with
      | nil => exact ⟨rfl, List.cons.inj h⟩
      | cons c m =>
          have hc := (unmarked_cons.mp hm).1
          rw [← (List.cons.inj h).1, ha] at hc
          cases hc
  | cons c l ih =>
      cases m with
      | nil =>
          have hc := (unmarked_cons.mp hl).1
          rw [(List.cons.inj h).1, hb] at hc
          cases hc
      | cons d m =>
          rcases List.cons.inj h with ⟨hhead, htail⟩
          rcases ih (unmarked_cons.mp hl).2 (unmarked_cons.mp hm).2 htail with ⟨heq, hrest⟩
          exact ⟨by rw [hhead, heq], hrest⟩

/-- A list is not marked, or has a first mark. -/
theorem unmarked_or_split (p : α -> Bool) (l : List α) :
    Unmarked p l ∨ exists m a rest, l = m ++ a :: rest ∧ Unmarked p m ∧ p a = true := by
  induction l with
  | nil => exact Or.inl unmarked_nil
  | cons c l ih =>
      rcases Bool.eq_false_or_eq_true (p c) with hc | hc
      · exact Or.inr ⟨[], c, l, rfl, unmarked_nil, hc⟩
      · rcases ih with hnone | ⟨m, a, rest, heq, hm, ha⟩
        · exact Or.inl (unmarked_cons.mpr ⟨hc, hnone⟩)
        · exact Or.inr ⟨c :: m, a, rest, by rw [heq, List.cons_append],
            unmarked_cons.mpr ⟨hc, hm⟩, ha⟩

/-- The list begins and ends with a mark. -/
structure Marked (p : α -> Bool) (l : List α) : Prop where
  head : exists a rest, l = a :: rest ∧ p a = true
  last : exists front a, l = front ++ [a] ∧ p a = true

/-- Of two marked beginnings of a list, the one with as many marks is the other. -/
theorem marked_prefix_unique {l m x y : List α} (hl : Marked p l) (hm : Marked p m)
    (hcount : l.countP p = m.countP p) (h : l ++ x = m ++ y) : l = m := by
  have hlonger : forall {l m x y : List α}, Marked p m -> l.countP p = m.countP p ->
      l ++ x = m ++ y -> l.length ≤ m.length -> l = m := by
    intro l m x y hm hcount h hlength
    rcases List.prefix_of_prefix_length_le ⟨x, h⟩ (List.prefix_append m y) hlength with ⟨z, hz⟩
    rcases List.eq_nil_or_concat z with hnil | ⟨z', a, hconcat⟩
    · rw [← hz, hnil, List.append_nil]
    · rcases hm.last with ⟨front, b, hfront, hb⟩
      have hab : a = b := by
        have hlast := congrArg List.getLast? (hz.trans hfront)
        rw [hconcat, List.concat_eq_append, ← List.append_assoc, List.getLast?_concat,
          List.getLast?_concat, Option.some.injEq] at hlast
        exact hlast
      rw [← hz, hconcat, List.concat_eq_append, List.countP_append, List.countP_append,
        List.countP_singleton, hab, if_pos hb] at hcount
      omega
  rcases Nat.le_total l.length m.length with hle | hle
  · exact hlonger hm hcount h hle
  · exact (hlonger hl hcount.symm h.symm hle).symm

/-- The pieces occur in the list one after another, with nothing marked outside of them. -/
def Interleaves (p : α -> Bool) : List α -> List (List α) -> Prop
  | l, [] => Unmarked p l
  | l, piece :: pieces => exists code rest, l = code ++ (piece ++ rest) ∧ Unmarked p code ∧
      Interleaves p rest pieces

theorem countP_interleaves {l : List α} {pieces : List (List α)} (h : Interleaves p l pieces) :
    l.countP p = (pieces.map (List.countP p)).sum := by
  induction pieces generalizing l with
  | nil => exact countP_unmarked h
  | cons piece pieces ih =>
      rcases h with ⟨code, rest, heq, hcode, hrest⟩
      rw [heq, List.countP_append, List.countP_append, countP_unmarked hcode, ih hrest,
        List.map_cons, List.sum_cons, Nat.zero_add]

/-- With as many marks in each piece, the pieces of a list are the same. -/
theorem interleaves_unique {β : Type} {f g : β -> List α} {l : List α} {items : List β}
    (hmarked : forall b, b ∈ items -> Marked p (f b) ∧ Marked p (g b))
    (hcount : forall b, b ∈ items -> (f b).countP p = (g b).countP p)
    (hf : Interleaves p l (items.map f)) (hg : Interleaves p l (items.map g)) :
    forall b, b ∈ items -> f b = g b := by
  induction items generalizing l with
  | nil =>
      intro b hb
      exact absurd hb List.not_mem_nil
  | cons item items ih =>
      rcases hf with ⟨code, rest, heq, hcode, hrest⟩
      rcases hg with ⟨code', rest', heq', hcode', hrest'⟩
      rcases hmarked item List.mem_cons_self with ⟨hfirst, hsecond⟩
      rcases hfirst.head with ⟨a, more, ha, hpa⟩
      rcases hsecond.head with ⟨b, more', hb, hpb⟩
      rw [heq, ha, hb, List.cons_append, List.cons_append] at heq'
      rcases split_first hcode hcode' hpa hpb heq' with ⟨_, hab, hmore⟩
      have hpieces : f item ++ rest = g item ++ rest' := by
        rw [ha, hb, List.cons_append, List.cons_append, hab, hmore]
      have hsame := marked_prefix_unique hfirst hsecond (hcount item List.mem_cons_self) hpieces
      rw [hsame] at hpieces
      rw [← List.append_cancel_left hpieces] at hrest'
      intro other hother
      rcases List.mem_cons.mp hother with hhead | htail
      · rw [hhead]
        exact hsame
      · exact ih (fun b hb => hmarked b (List.mem_cons_of_mem item hb))
          (fun b hb => hcount b (List.mem_cons_of_mem item hb)) hrest hrest' other htail

/-- Terms that are not larger one by one, with the same sum, are the same. -/
theorem eq_of_sum_eq {β : Type} {f g : β -> Nat} {items : List β}
    (hle : forall b, b ∈ items -> f b ≤ g b) (hsum : (items.map f).sum = (items.map g).sum) :
    forall b, b ∈ items -> f b = g b := by
  induction items with
  | nil =>
      intro b hb
      exact absurd hb List.not_mem_nil
  | cons item items ih =>
      have hrest : forall b, b ∈ items -> f b ≤ g b :=
        fun b hb => hle b (List.mem_cons_of_mem item hb)
      have hfirst := hle item List.mem_cons_self
      have hsums : (items.map f).sum ≤ (items.map g).sum := List.sum_le_sum hrest
      rw [List.map_cons, List.map_cons, List.sum_cons, List.sum_cons] at hsum
      intro b hb
      rcases List.mem_cons.mp hb with heq | hmem
      · rw [heq]
        omega
      · exact ih hrest (by omega) b hmem

end Interleaved
end KeepGateway
