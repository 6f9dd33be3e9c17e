import Mathlib.Data.List.Nodup

/-!
# First matches

The first entry of a list that satisfies a predicate decides; a default decides when none
does.
-/

namespace KeepGateway
namespace FirstMatch

variable {α β : Type}

/-- The first element of the list that satisfies `p`. -/
def FirstOf (p : α -> Prop) (l : List α) (a : α) : Prop :=
  exists before after, l = before ++ a :: after ∧ p a ∧ forall b, b ∈ before -> ¬ p b

theorem FirstOf.mem {p : α -> Prop} {l : List α} {a : α} (h : FirstOf p l a) : a ∈ l := by
  rcases h with ⟨before, after, rfl, _, _⟩
  exact List.mem_append_right before List.mem_cons_self

theorem FirstOf.holds {p : α -> Prop} {l : List α} {a : α} (h : FirstOf p l a) : p a := by
  rcases h with ⟨_, _, _, hp, _⟩
  exact hp

/-- With distinct keys, the first match of a key is the only one. -/
theorem find?_key {κ : Type} [BEq κ] [LawfulBEq κ] {key : α -> κ} {l : List α}
    (hkeys : (l.map key).Nodup) {k : κ} {a : α} :
    (l.find? fun b => key b == k) = some a <-> a ∈ l ∧ key a = k := by
  constructor
  · intro h
    have hkey := List.find?_some h
    exact ⟨List.mem_of_find?_eq_some h, beq_iff_eq.mp hkey⟩
  · intro h
    cases hfound : l.find? fun b => key b == k with
    | none => exact absurd (beq_iff_eq.mpr h.2) (List.find?_eq_none.mp hfound a h.1)
    | some b =>
        have hkey := List.find?_some hfound
        have heq := (beq_iff_eq.mp hkey).trans h.2.symm
        rw [List.inj_on_of_nodup_map hkeys (List.mem_of_find?_eq_some hfound) h.1 heq]

/-- Where what matches is of one key, no more than the first match does. -/
theorem filter_of_key {κ : Type} {key : α -> κ} {l : List α} (hkeys : (l.map key).Nodup)
    {p : α -> Bool} {k : κ} (hp : forall a, a ∈ l -> p a = true -> key a = k) :
    l.filter p = (l.find? p).toList := by
  induction l with
  | nil => rfl
  | cons a rest ih =>
      rcases List.nodup_cons.mp hkeys with ⟨hnew, hrest⟩
      have ih := ih hrest fun b hb => hp b (List.mem_cons_of_mem a hb)
      cases ha : p a with
      | true =>
          have hothers : rest.filter p = [] := by
            refine List.filter_eq_nil_iff.mpr fun b hb hmatch => hnew ?_
            rw [hp a List.mem_cons_self ha, ← hp b (List.mem_cons_of_mem a hb) hmatch]
            exact List.mem_map_of_mem hb
          rw [List.filter_cons_of_pos ha, List.find?_cons_of_pos ha, hothers]
          rfl
      | false =>
          have hne : ¬ p a = true := fun h => Bool.false_ne_true (ha.symm.trans h)
          rw [List.filter_cons_of_neg hne, List.find?_cons_of_neg hne, ih]

theorem find?_eq_some_iff {p : α -> Bool} {l : List α} {a : α} :
    l.find? p = some a <-> FirstOf (fun b => p b = true) l a := by
  rw [List.find?_eq_some_iff_append]
  constructor
  · rintro ⟨hp, before, after, hl, hbefore⟩
    refine ⟨before, after, hl, hp, ?_⟩
    intro b hb hpb
    have hnot := hbefore b hb
    rw [hpb] at hnot
    cases hnot
  · rintro ⟨before, after, hl, hp, hbefore⟩
    refine ⟨hp, before, after, hl, ?_⟩
    intro b hb
    rw [eq_false_of_ne_true (hbefore b hb)]
    rfl

theorem FirstOf.unique {p : α -> Prop} {l : List α} {a b : α} (ha : FirstOf p l a)
    (hb : FirstOf p l b) : a = b := by
  induction l with
  | nil => cases ha.mem
  | cons first rest ih =>
      have hhead : forall {c : α}, FirstOf p (first :: rest) c ->
          c = first ∨ ¬ p first ∧ FirstOf p rest c := by
        rintro c ⟨before, after, hl, hc, hbefore⟩
        cases before with
        | nil => exact .inl (List.cons.inj hl).1.symm
        | cons skipped before =>
            rcases List.cons.inj hl with ⟨rfl, hrest⟩
            rcases List.forall_mem_cons.mp hbefore with ⟨hskipped, hothers⟩
            exact .inr ⟨hskipped, before, after, hrest, hc, hothers⟩
      rcases hhead ha with rfl | ⟨hnot, harest⟩
      · rcases hhead hb with rfl | ⟨hnot, _⟩
        · rfl
        · exact absurd ha.holds hnot
      · rcases hhead hb with rfl | ⟨_, hbrest⟩
        · exact absurd hb.holds hnot
        · exact ih harest hbrest

/-- The value of the first entry that satisfies `p`, else the default. -/
def firstOr (p : α -> Bool) (l : List (α × β)) (default : Option β) : Option β :=
  ((l.find? fun entry => p entry.1).map Prod.snd).or default

/-- Two first matches give the same value, for entries whose values differ. -/
structure Agree (p q : α -> Prop) (l : List (α × β)) (default : Option β) : Prop where
  matched : forall a b, FirstOf (fun entry => p entry.1) l (a, b) ->
    FirstOf (fun entry => q entry.1) l (a, b) ∨
      (forall entry, entry ∈ l -> ¬ q entry.1) ∧ default = some b
  unmatched : (forall entry, entry ∈ l -> ¬ p entry.1) ->
    forall a b, FirstOf (fun entry => q entry.1) l (a, b) -> default = some b

theorem eq_of_values {l : List (α × β)} (hnodup : (l.map Prod.snd).Nodup) {a a' : α} {b : β}
    (h : (a, b) ∈ l) (h' : (a', b) ∈ l) : a = a' :=
  congrArg Prod.fst (List.inj_on_of_nodup_map hnodup h h' rfl)

theorem firstOr_eq_iff {p q : α -> Bool} {l : List (α × β)}
    (hnodup : (l.map Prod.snd).Nodup) (default : Option β) :
    firstOr p l default = firstOr q l default <->
      Agree (fun a => p a = true) (fun a => q a = true) l default := by
  have hnone : forall {r : α -> Bool}, (l.find? fun entry => r entry.1) = none <->
      forall entry, entry ∈ l -> ¬ r entry.1 = true := List.find?_eq_none
  have hfirst : forall {r : α -> Bool} {e : α × β}, (l.find? fun entry => r entry.1) = some e ->
      FirstOf (fun entry => r entry.1 = true) l e := fun h => find?_eq_some_iff.mp h
  unfold firstOr
  constructor
  · intro heq
    refine ⟨?_, ?_⟩
    · intro a b ha
      rw [find?_eq_some_iff.mpr ha] at heq
      cases hq : l.find? fun entry => q entry.1 with
      | some e =>
          rw [hq] at heq
          rcases e with ⟨a', b'⟩
          have hb : b = b' := Option.some.inj heq
          have hq' := hfirst hq
          rw [← hb] at hq'
          have haa : a = a' := eq_of_values hnodup ha.mem hq'.mem
          rw [haa]
          exact .inl hq'
      | none =>
          rw [hq] at heq
          exact .inr ⟨hnone.mp hq, heq.symm⟩
    · intro hp a b hb
      rw [hnone.mpr hp, find?_eq_some_iff.mpr hb] at heq
      exact heq
  · intro h
    cases hp : l.find? fun entry => p entry.1 with
    | some e =>
        rcases h.matched e.1 e.2 (hfirst hp) with hq | ⟨hq, hdefault⟩
        · rw [find?_eq_some_iff.mpr hq]
        · rw [hnone.mpr hq, hdefault]
          rfl
    | none =>
        cases hq : l.find? fun entry => q entry.1 with
        | some e =>
            rw [h.unmatched (hnone.mp hp) e.1 e.2 (hfirst hq)]
            rfl
        | none => rfl

end FirstMatch
end KeepGateway
