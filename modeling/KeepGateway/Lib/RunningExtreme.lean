import Mathlib.Data.List.Induction
import Mathlib.Order.Lattice

/-!
# Running extremes with an unset value

The least item of a list by one pass over it, where one value of the keys stands for a running
item that was not set yet and gives way to every item.
-/

namespace KeepGateway
namespace RunningExtreme

variable {α κ : Type} [LinearOrder κ] (key : α -> κ) (unset : κ)

def step (running : Option α) (item : α) : Option α :=
  match running with
  | none => some item
  | some best => if key best = unset ∨ key item < key best then some item else some best

def least (items : List α) : Option α := items.foldl (step key unset) none

/-- An item of the list that none is below. -/
def Least (items : List α) (item : α) : Prop :=
  item ∈ items ∧ forall other, other ∈ items -> key item ≤ key other

/-- The last item is taken, or the running one is set and not above it. -/
theorem least_concat (items : List α) (item : α) :
    (least key unset (items ++ [item]) = some item ∧
        forall best, least key unset items = some best ->
          key best = unset ∨ key item < key best) ∨
      exists best, least key unset (items ++ [item]) = some best ∧
        least key unset items = some best ∧ key best ≠ unset ∧ key best ≤ key item := by
  have hstep : least key unset (items ++ [item]) =
      step key unset (least key unset items) item := by
    unfold least
    rw [List.foldl_append]
    rfl
  rw [hstep]
  cases least key unset items with
  | none =>
      refine Or.inl ⟨rfl, ?_⟩
      intro best h
      cases h
  | some running =>
      rcases Classical.em (key running = unset ∨ key item < key running) with h | h
      · refine Or.inl ⟨if_pos h, ?_⟩
        intro best hbest
        cases hbest
        exact h
      · rcases not_or.mp h with ⟨hset, hle⟩
        exact Or.inr ⟨running, if_neg h, rfl, hset, not_lt.mp hle⟩

variable {key unset}

theorem least_mem {items : List α} {best : α} (h : least key unset items = some best) :
    best ∈ items := by
  induction items using List.reverseRecOn with
  | nil => cases h
  | append_singleton items item ih =>
      rcases least_concat key unset items item with
        ⟨htaken, _⟩ | ⟨running, hkept, hrunning, _⟩
      · rw [htaken] at h
        cases h
        exact List.mem_concat_self
      · rw [hkept] at h
        cases h
        exact List.mem_append_left _ (ih hrunning)

variable (key unset) in
theorem exists_least {items : List α} (h : items ≠ []) :
    exists best, least key unset items = some best := by
  cases items using List.reverseRecOn with
  | nil => exact absurd rfl h
  | append_singleton items item =>
      rcases least_concat key unset items item with
        ⟨htaken, _⟩ | ⟨running, hkept, _⟩
      · exact ⟨item, htaken⟩
      · exact ⟨running, hkept⟩

theorem Least.concat_self {items : List α} {item : α}
    (h : forall other, other ∈ items -> key item ≤ key other) : Least key (items ++ [item]) item := by
  refine ⟨List.mem_concat_self, ?_⟩
  intro other hother
  rcases List.mem_append.mp hother with hother | hother
  · exact h other hother
  · rw [List.mem_singleton.mp hother]

theorem Least.concat {items : List α} {best item : α} (h : Least key items best)
    (hle : key best ≤ key item) : Least key (items ++ [item]) best := by
  refine ⟨List.mem_append_left _ h.1, ?_⟩
  intro other hother
  rcases List.mem_append.mp hother with hother | hother
  · exact h.2 other hother
  · rw [List.mem_singleton.mp hother]
    exact hle

/-- Below the unset value nothing is forgotten. -/
theorem least_of_below {items : List α} {low : α} (hlow : low ∈ items) (hbelow : key low < unset)
    {best : α} (h : least key unset items = some best) : Least key items best := by
  induction items using List.reverseRecOn generalizing low best with
  | nil => cases hlow
  | append_singleton items item ih =>
      rcases Classical.em (exists low, low ∈ items ∧ key low < unset) with ⟨low, hlow, hbelow⟩ | hnone
      · rcases least_concat key unset items item with
          ⟨htaken, hover⟩ | ⟨running, hkept, hrunning, _, hle⟩
        · rw [htaken] at h
          cases h
          rcases exists_least key unset (List.ne_nil_of_mem hlow) with
            ⟨running, hrunning⟩
          have hleast := ih hlow hbelow hrunning
          have hset : key running ≠ unset := ne_of_lt (lt_of_le_of_lt (hleast.2 low hlow) hbelow)
          have hlt : key item < key running := (hover running hrunning).resolve_left hset
          exact Least.concat_self fun other hother => le_trans (le_of_lt hlt) (hleast.2 other hother)
        · rw [hkept] at h
          cases h
          exact (ih hlow hbelow hrunning).concat hle
      · have habove : forall other, other ∈ items -> unset ≤ key other :=
          fun other hother => not_lt.mp fun hlt => hnone ⟨other, hother, hlt⟩
        have hitem : key item < unset := by
          rcases List.mem_append.mp hlow with hlow | hlow
          · exact absurd ⟨low, hlow, hbelow⟩ hnone
          · rw [← List.mem_singleton.mp hlow]
            exact hbelow
        rcases least_concat key unset items item with
          ⟨htaken, _⟩ | ⟨running, _, hrunning, _, hle⟩
        · rw [htaken] at h
          cases h
          exact Least.concat_self fun other hother =>
            le_trans (le_of_lt hitem) (habove other hother)
        · exact absurd (lt_of_le_of_lt hle hitem) (not_lt.mpr (habove running (least_mem hrunning)))

/-- Where no key is the unset value the pass is the usual one. -/
theorem least_of_set {items : List α} (hset : forall item, item ∈ items -> key item ≠ unset)
    {best : α} (h : least key unset items = some best) : Least key items best := by
  induction items using List.reverseRecOn generalizing best with
  | nil => cases h
  | append_singleton items item ih =>
      have hitems : forall other, other ∈ items -> key other ≠ unset :=
        fun other hother => hset other (List.mem_append_left _ hother)
      rcases least_concat key unset items item with
        ⟨htaken, hover⟩ | ⟨running, hkept, hrunning, _, hle⟩
      · rw [htaken] at h
        cases h
        cases hleast : least key unset items with
        | none =>
            apply Least.concat_self
            intro other hother
            rcases exists_least key unset (List.ne_nil_of_mem hother) with
              ⟨running, hrunning⟩
            rw [hleast] at hrunning
            cases hrunning
        | some running =>
            have hrunning := ih hitems hleast
            have hlt := (hover running hleast).resolve_left (hitems running hrunning.1)
            exact Least.concat_self fun other hother =>
              le_trans (le_of_lt hlt) (hrunning.2 other hother)
      · rw [hkept] at h
        cases h
        exact (ih hitems hrunning).concat hle

/-- An item with the unset value at the end is taken where nothing is below it. -/
theorem least_of_last {items : List α} {last : α} (hlast : key last = unset)
    (habove : forall item, item ∈ items -> unset ≤ key item) {best : α}
    (h : least key unset (items ++ [last]) = some best) : Least key (items ++ [last]) best := by
  have hle : forall other, other ∈ items -> key last ≤ key other :=
    fun other hother => hlast ▸ habove other hother
  rcases least_concat key unset items last with
    ⟨htaken, _⟩ | ⟨running, hkept, hrunning, _, hrunningLe⟩
  · rw [htaken] at h
    cases h
    exact Least.concat_self hle
  · rw [hkept] at h
    cases h
    refine ⟨List.mem_append_left _ (least_mem hrunning), ?_⟩
    intro other hother
    rcases List.mem_append.mp hother with hother | hother
    · exact le_trans hrunningLe (hle other hother)
    · rw [List.mem_singleton.mp hother]
      exact hrunningLe

/-- The running item is not unset after an item that is not. -/
theorem key_least_ne {items : List α} {last best : α} (hlast : key last ≠ unset)
    (h : least key unset (items ++ [last]) = some best) : key best ≠ unset := by
  rcases least_concat key unset items last with
    ⟨htaken, _⟩ | ⟨running, hkept, _, hset, _⟩
  · rw [htaken] at h
    cases h
    exact hlast
  · rw [hkept] at h
    cases h
    exact hset

/-- The pass finds the least item unless it forgets one that has the unset value. -/
theorem least_iff {items : List α} {best : α} (h : least key unset items = some best) :
    Least key items best <->
      (exists item, item ∈ items ∧ key item < unset) ∨
        (forall item, item ∈ items -> key item ≠ unset) ∨
        exists last, items.getLast? = some last ∧ key last = unset := by
  constructor
  · intro hleast
    by_contra hnot
    rcases not_or.mp hnot with ⟨hbelow, hnot⟩
    rcases not_or.mp hnot with ⟨hset, hlast⟩
    have habove : unset ≤ key best := not_lt.mp fun hlt => hbelow ⟨best, hleast.1, hlt⟩
    have hmem : exists zero, zero ∈ items ∧ key zero = unset := by
      by_contra hnone
      exact hset fun item hitem heq => hnone ⟨item, hitem, heq⟩
    rcases hmem with ⟨zero, hzero, hunset⟩
    cases items using List.reverseRecOn with
    | nil => cases hzero
    | append_singleton items last =>
        have hlastSet : key last ≠ unset := fun heq => hlast ⟨last, List.getLast?_concat, heq⟩
        exact key_least_ne hlastSet h (le_antisymm (hunset ▸ hleast.2 zero hzero) habove)
  · rintro (⟨low, hlow, hbelow⟩ | hset | ⟨last, hlast, hunset⟩)
    · exact least_of_below hlow hbelow h
    · exact least_of_set hset h
    · rcases Classical.em (exists item, item ∈ items ∧ key item < unset) with ⟨low, hlow, hbelow⟩ | hnone
      · exact least_of_below hlow hbelow h
      · rcases List.getLast?_eq_some_iff.mp hlast with ⟨front, rfl⟩
        apply least_of_last hunset _ h
        intro item hitem
        exact not_lt.mp fun hlt => hnone ⟨item, List.mem_append_left _ hitem, hlt⟩

end RunningExtreme
end KeepGateway
