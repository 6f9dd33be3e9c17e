import Mathlib.Data.List.Basic
import Mathlib.Data.List.Forall2

/-!
# Successful runs of fallible programs

Taking a successful run of a sequence apart into the runs of its steps.
-/

namespace KeepGateway

variable {ε α β : Type}

theorem bind_eq_ok {x : Except ε α} {f : α -> Except ε β} {b : β} :
    x >>= f = .ok b <-> exists a, x = .ok a ∧ f a = .ok b := by
  cases x with
  | error e =>
      constructor
      · intro h
        cases h
      · rintro ⟨a, h, _⟩
        cases h
  | ok a =>
      constructor
      · intro h
        exact ⟨a, rfl, h⟩
      · rintro ⟨a', ha, h⟩
        cases ha
        exact h

theorem map_eq_ok {x : Except ε α} {f : α -> β} {b : β} :
    x.map f = .ok b <-> exists a, x = .ok a ∧ f a = b := by
  cases x <;> simp [Except.map]

theorem toOption_eq_some {x : Except ε α} {a : α} : x.toOption = some a <-> x = .ok a := by
  cases x <;> simp [Except.toOption]

/-- A run over a list succeeds where each item does. -/
theorem mapM_isOk {f : α -> Except ε β} {l : List α} :
    (exists r, l.mapM f = .ok r) <-> forall a, a ∈ l -> exists b, f a = .ok b := by
  induction l with
  | nil => exact ⟨fun _ _ h => absurd h List.not_mem_nil, fun _ => ⟨[], rfl⟩⟩
  | cons a rest ih =>
      rw [List.mapM_cons]
      constructor
      · intro h
        rcases h with ⟨r, hr⟩
        rcases bind_eq_ok.mp hr with ⟨b, hb, hr⟩
        rcases bind_eq_ok.mp hr with ⟨bs, hbs, -⟩
        intro x hx
        rcases List.mem_cons.mp hx with hhead | hrest
        · exact ⟨b, hhead ▸ hb⟩
        · exact ih.mp ⟨bs, hbs⟩ x hrest
      · intro h
        rcases h a List.mem_cons_self with ⟨b, hb⟩
        rcases ih.mpr fun x hx => h x (List.mem_cons_of_mem a hx) with ⟨bs, hbs⟩
        exact ⟨b :: bs, bind_eq_ok.mpr ⟨b, hb, bind_eq_ok.mpr ⟨bs, hbs, rfl⟩⟩⟩

/-- A fold whose steps succeed whatever was done before succeeds where each item does. -/
theorem foldlM_isOk {f : β -> α -> Except ε β} {p : α -> Prop}
    (h : forall b a, (exists b', f b a = .ok b') <-> p a) {l : List α} {b : β} :
    (exists r, l.foldlM f b = .ok r) <-> forall a, a ∈ l -> p a := by
  induction l generalizing b with
  | nil => exact ⟨fun _ _ hmem => absurd hmem List.not_mem_nil, fun _ => ⟨b, rfl⟩⟩
  | cons a rest ih =>
      rw [List.foldlM_cons, List.forall_mem_cons]
      constructor
      · rintro ⟨r, hr⟩
        rcases bind_eq_ok.mp hr with ⟨b', hb', hr⟩
        exact ⟨(h b a).mp ⟨b', hb'⟩, ih.mp ⟨r, hr⟩⟩
      · rintro ⟨hp, hrest⟩
        rcases (h b a).mpr hp with ⟨b', hb'⟩
        rcases (ih (b := b')).mpr hrest with ⟨r, hr⟩
        exact ⟨r, bind_eq_ok.mpr ⟨b', hb', hr⟩⟩

/-- The results are those of the items, in order. -/
theorem mapM_eq_ok {f : α -> Except ε β} {l : List α} {r : List β} :
    l.mapM f = .ok r <-> List.Forall₂ (fun a b => f a = .ok b) l r := by
  induction l generalizing r with
  | nil =>
      rw [List.forall₂_nil_left_iff]
      exact ⟨fun h => (Except.ok.inj h).symm, fun h => congrArg Except.ok h.symm⟩
  | cons a rest ih =>
      rw [List.mapM_cons, bind_eq_ok, List.forall₂_cons_left_iff]
      constructor
      · rintro ⟨b, hb, h⟩
        rcases bind_eq_ok.mp h with ⟨bs, hbs, h⟩
        exact ⟨b, bs, hb, ih.mp hbs, (Except.ok.inj h).symm⟩
      · rintro ⟨b, bs, hb, hbs, hr⟩
        exact ⟨b, hb, bind_eq_ok.mpr ⟨bs, ih.mpr hbs, congrArg Except.ok hr.symm⟩⟩

/-- Where a step only may fail, the results are those of the steps. -/
theorem mapM_eq_ok_map {f : α -> Except ε β} {p : α -> Prop} {g : α -> β}
    (h : forall a b, f a = .ok b <-> p a ∧ b = g a) {l : List α} {r : List β} :
    l.mapM f = .ok r <-> (forall a, a ∈ l -> p a) ∧ r = l.map g := by
  rw [mapM_eq_ok]
  induction l generalizing r with
  | nil =>
      rw [List.forall₂_nil_left_iff]
      exact ⟨fun hr => ⟨fun _ ha => absurd ha List.not_mem_nil, hr⟩, fun hr => hr.2⟩
  | cons a rest ih =>
      rw [List.forall₂_cons_left_iff, List.forall_mem_cons, List.map_cons]
      constructor
      · rintro ⟨b, bs, hb, hbs, hr⟩
        rcases (h a b).mp hb with ⟨ha, heq⟩
        rcases ih.mp hbs with ⟨hrest, hmap⟩
        exact ⟨⟨ha, hrest⟩, by rw [hr, heq, hmap]⟩
      · rintro ⟨⟨ha, hrest⟩, hr⟩
        exact ⟨g a, rest.map g, (h a (g a)).mpr ⟨ha, rfl⟩, ih.mpr ⟨hrest, rfl⟩, hr⟩

/-- The result at a place is that of the item at the place. -/
theorem mapM_getElem? {f : α -> Except ε β} {l : List α} {r : List β} (h : l.mapM f = .ok r)
    {i : Nat} {a : α} (ha : l[i]? = some a) : exists b, r[i]? = some b ∧ f a = .ok b := by
  induction l generalizing i r with
  | nil => cases ha
  | cons first rest ih =>
      rw [List.mapM_cons] at h
      rcases bind_eq_ok.mp h with ⟨b, hb, h⟩
      rcases bind_eq_ok.mp h with ⟨bs, hbs, h⟩
      cases h
      cases i with
      | zero =>
          rw [List.getElem?_cons_zero, Option.some.injEq] at ha
          rw [← ha]
          exact ⟨b, rfl, hb⟩
      | succ i => exact ih hbs ha

theorem mem_of_mapM {f : α -> Except ε β} {l : List α} {r : List β} (h : l.mapM f = .ok r)
    {a : α} (ha : a ∈ l) : exists b, f a = .ok b ∧ b ∈ r := by
  rcases List.getElem?_of_mem ha with ⟨i, hi⟩
  rcases mapM_getElem? h hi with ⟨b, hb, hf⟩
  exact ⟨b, hf, List.mem_of_getElem? hb⟩

/-- There are no more results of a kind than items that lead to one. -/
theorem countP_mapM_le {f : α -> Except ε β} {p : β -> Bool} {q : α -> Bool}
    (hpq : forall a b, f a = .ok b -> p b = true -> q a = true) {l : List α} {r : List β}
    (h : l.mapM f = .ok r) : r.countP p ≤ l.countP q := by
  induction l generalizing r with
  | nil =>
      cases h
      exact Nat.le_refl 0
  | cons a rest ih =>
      rw [List.mapM_cons] at h
      rcases bind_eq_ok.mp h with ⟨b, hb, h⟩
      rcases bind_eq_ok.mp h with ⟨bs, hbs, h⟩
      cases h
      rw [List.countP_cons, List.countP_cons]
      apply Nat.add_le_add (ih hbs)
      cases hp : p b with
      | true =>
          exact Nat.le_of_eq (by rw [hpq a b hb hp])
      | false => exact Nat.zero_le _

/-- A search that raises nowhere and finds nothing, or something with the property. -/
theorem findM?_passes {f : α -> Except ε Bool} {p : α -> Prop} {l : List α} :
    (exists found, l.findM? f = .ok found ∧ forall a, found = some a -> p a) <->
      forall before a after, l = before ++ a :: after ->
        (forall b, b ∈ before -> f b = .ok false) -> f a = .ok false ∨ f a = .ok true ∧ p a := by
  induction l with
  | nil =>
      constructor
      · intro _ before a after h
        exact absurd h.symm (List.append_ne_nil_of_right_ne_nil before (List.cons_ne_nil a after))
      · intro _
        refine ⟨none, rfl, ?_⟩
        intro a h
        cases h
  | cons first rest ih =>
      cases hfirst : f first with
      | error e =>
          constructor
          · rintro ⟨found, hfound, _⟩
            rw [List.findM?, hfirst] at hfound
            cases hfound
          · intro h
            rcases h [] first rest rfl (fun b hb => absurd hb List.not_mem_nil) with h | ⟨h, _⟩
            · rw [hfirst] at h
              cases h
            · rw [hfirst] at h
              cases h
      | ok matched =>
          cases matched with
          | true =>
              constructor
              · rintro ⟨found, hfound, hp⟩ before a after heq hbefore
                rw [List.findM?, hfirst] at hfound
                cases hfound
                cases before with
                | nil =>
                    cases heq
                    exact Or.inr ⟨hfirst, hp _ rfl⟩
                | cons b before =>
                    cases heq
                    have hb := hbefore first List.mem_cons_self
                    rw [hfirst] at hb
                    cases hb
              · intro h
                refine ⟨some first, by rw [List.findM?, hfirst]; rfl, ?_⟩
                intro a ha
                cases ha
                rcases h [] first rest rfl (fun b hb => absurd hb List.not_mem_nil) with h | ⟨_, h⟩
                · rw [hfirst] at h
                  cases h
                · exact h
          | false =>
              have hrest : (first :: rest).findM? f = rest.findM? f := by
                rw [List.findM?, hfirst]
                rfl
              rw [hrest, ih]
              constructor
              · intro h before a after heq hbefore
                cases before with
                | nil =>
                    cases heq
                    exact Or.inl hfirst
                | cons b before =>
                    cases heq
                    exact h before a after rfl fun c hc => hbefore c (List.mem_cons_of_mem first hc)
              · intro h before a after heq hbefore
                refine h (first :: before) a after (by rw [heq]; rfl) ?_
                intro b hb
                rcases List.mem_cons.mp hb with hb | hb
                · rw [hb]
                  exact hfirst
                · exact hbefore b hb

/-!
## Faults

How a fallible program ends, as far as a handler can tell: it succeeds, fails with an
exception that the handler takes, or fails with one that escapes it.
-/

inductive Fault where
  | handled
  | escapes
  deriving DecidableEq, Repr

namespace Fault

variable {ε α β : Type} {handles : ε -> Bool}

/-- The fault that ends a program, under a handler of some exceptions. -/
def of (handles : ε -> Bool) : Except ε α -> Option Fault
  | .ok _ => none
  | .error e => some (if handles e then handled else escapes)

theorem of_eq_none {x : Except ε α} (h : of handles x = none) : exists a, x = .ok a := by
  cases x with
  | ok a => exact ⟨a, rfl⟩
  | error e => cases h

/-- The first fault of a sequence ends it. -/
theorem of_bind {x : Except ε α} {f : α -> Except ε β} {later : Option Fault}
    (h : forall a, x = .ok a -> of handles (f a) = later) :
    of handles (x >>= f) = (of handles x).or later := by
  cases x with
  | ok a => exact h a rfl
  | error e => rfl

/-- What cannot fail does not change the fault before it. -/
theorem of_bind_ok {x : Except ε α} {f : α -> β} :
    of handles (x >>= fun a => .ok (f a)) = of handles x := by
  cases x <;> rfl

/-- A run over a list that can fail nowhere. -/
theorem of_foldlM {x : β} {items : List α} {f : β -> α -> Except ε β}
    (h : forall b item, item ∈ items -> of handles (f b item) = none) :
    of handles (items.foldlM f x) = none := by
  induction items generalizing x with
  | nil => rfl
  | cons item rest ih =>
      rw [List.foldlM_cons]
      rcases of_eq_none (h x item List.mem_cons_self) with ⟨b, hb⟩
      rw [hb]
      exact ih fun b item hitem => h b item (List.mem_cons_of_mem _ hitem)

end Fault

end KeepGateway
