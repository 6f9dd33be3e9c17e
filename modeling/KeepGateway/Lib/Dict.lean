import Mathlib.Data.List.Nodup

/-!
# Dictionaries

Association lists in insertion order.  Setting a key that is present keeps its
place, as in a Python dictionary.
-/

namespace KeepGateway
namespace Dict

variable {κ β : Type}

/-- No key occurs twice. -/
def Distinct (d : List (κ × β)) : Prop := (d.map Prod.fst).Nodup

theorem distinct_nil : Distinct ([] : List (κ × β)) := List.nodup_nil

variable [DecidableEq κ]

def set (key : κ) (value : β) : List (κ × β) -> List (κ × β)
  | [] => [(key, value)]
  | (k, v) :: rest => if k = key then (k, value) :: rest else (k, v) :: set key value rest

def erase (key : κ) (d : List (κ × β)) : List (κ × β) := d.filter fun e => e.1 ≠ key

/-- `d.setdefault(key, value)` -/
def setDefault (key : κ) (value : β) (d : List (κ × β)) : List (κ × β) :=
  match d.lookup key with
  | some _ => d
  | none => set key value d

/-- `{**d, **e}` -/
def update (d e : List (κ × β)) : List (κ × β) :=
  e.foldl (fun d entry => set entry.1 entry.2 d) d

theorem lookup_cons_eq (k key : κ) (v : β) (d : List (κ × β)) :
    ((k, v) :: d).lookup key = if k = key then some v else d.lookup key := by
  rw [List.lookup_cons]
  by_cases h : k = key
  · simp [h]
  · have hne : (key == k) = false := by simpa using fun e : key = k => h e.symm
    simp [h, hne]

theorem lookup_set (key k : κ) (value : β) (d : List (κ × β)) :
    (set key value d).lookup k = if key = k then some value else d.lookup k := by
  induction d with
  | nil => rw [set, lookup_cons_eq]
  | cons e rest ih =>
      rcases e with ⟨k', v'⟩
      by_cases hk : k' = key
      · subst hk
        simp only [set, if_true]
        rw [lookup_cons_eq, lookup_cons_eq]
        by_cases hk : k' = k <;> simp [hk]
      · simp only [set, hk, if_false]
        rw [lookup_cons_eq, lookup_cons_eq, ih]
        by_cases hkk : k' = k
        · subst hkk
          simp [Ne.symm hk]
        · simp [hkk]

theorem lookup_set_self (key : κ) (value : β) (d : List (κ × β)) :
    (set key value d).lookup key = some value := by
  rw [lookup_set, if_pos rfl]

theorem lookup_set_ne {key k : κ} (h : key ≠ k) (value : β) (d : List (κ × β)) :
    (set key value d).lookup k = d.lookup k := by
  rw [lookup_set, if_neg h]

/-- `d.get(key, default)` -/
def getD (d : List (κ × β)) (key : κ) (default : β) : β := (d.lookup key).getD default

theorem getD_set (key k : κ) (value default : β) (d : List (κ × β)) :
    getD (set key value d) k default = if key = k then value else getD d k default := by
  unfold getD
  rw [lookup_set]
  split
  · rfl
  · rfl

theorem set_set_self (key : κ) (v w : β) (d : List (κ × β)) :
    set key v (set key w d) = set key v d := by
  induction d with
  | nil => simp [set]
  | cons e rest ih =>
      by_cases hk : e.1 = key
      · simp [set, hk]
      · simp [set, hk, ih]

/-- A key that is present keeps its place, whatever else is set before it. -/
theorem set_comm_of_mem {key k : κ} (hne : key ≠ k) {d : List (κ × β)}
    (hmem : key ∈ d.map Prod.fst) (v w : β) :
    set key v (set k w d) = set k w (set key v d) := by
  induction d with
  | nil => exact absurd hmem List.not_mem_nil
  | cons e rest ih =>
      rcases List.mem_cons.mp hmem with heq | hrest
      · simp [set, ← heq, hne]
      · by_cases hk : e.1 = key
        · simp [set, hk, hne]
        · by_cases hk' : e.1 = k
          · simp [set, hk', Ne.symm hne]
          · simp [set, hk, hk', ih hrest]

theorem mem_keys_set (key k : κ) (value : β) (d : List (κ × β)) :
    k ∈ (set key value d).map Prod.fst <-> k = key ∨ k ∈ d.map Prod.fst := by
  induction d with
  | nil => simp [set]
  | cons e rest ih =>
      by_cases hk : e.1 = key
      · simp only [set, hk, if_true, List.map_cons, List.mem_cons]
        tauto
      · simp only [set, hk, if_false, List.map_cons, List.mem_cons, ih]
        tauto

theorem Distinct.set {d : List (κ × β)} (hd : Distinct d) (key : κ) (value : β) :
    Distinct (Dict.set key value d) := by
  induction d with
  | nil => simp [Dict.set, Distinct]
  | cons e rest ih =>
      rcases List.nodup_cons.mp hd with ⟨he, hrest⟩
      by_cases hk : e.1 = key
      · simp only [Dict.set, hk, if_true]
        rw [hk] at he
        exact List.nodup_cons.mpr ⟨he, hrest⟩
      · simp only [Dict.set, hk, if_false]
        apply List.nodup_cons.mpr
        constructor
        · intro hmem
          rcases (mem_keys_set key e.1 value rest).mp hmem with h | h
          · exact hk h
          · exact he h
        · exact ih hrest

theorem Distinct.erase {d : List (κ × β)} (hd : Distinct d) (key : κ) :
    Distinct (Dict.erase key d) :=
  hd.sublist (List.filter_sublist.map Prod.fst)

theorem Distinct.lookup {d : List (κ × β)} (hd : Distinct d) {key : κ} {value : β} :
    d.lookup key = some value <-> (key, value) ∈ d := by
  induction d with
  | nil => simp
  | cons e rest ih =>
      rcases e with ⟨k, v⟩
      rcases List.nodup_cons.mp hd with ⟨he, hrest⟩
      rw [lookup_cons_eq]
      by_cases hk : k = key
      · subst hk
        have hnot : (k, value) ∉ rest := fun h => he (List.mem_map.mpr ⟨_, h, rfl⟩)
        simp [hnot, eq_comm]
      · simp [hk, ih hrest, Ne.symm hk]

theorem Distinct.getD {d : List (κ × β)} (hd : Distinct d) {key : κ} {value : β}
    (h : (key, value) ∈ d) (default : β) : Dict.getD d key default = value := by
  unfold Dict.getD
  rw [hd.lookup.mpr h]
  rfl

/-- Only a key that is there has another value than the default. -/
theorem mem_keys_of_getD {d : List (κ × β)} {key : κ} {default : β}
    (h : Dict.getD d key default ≠ default) : key ∈ d.map Prod.fst := by
  by_contra hnot
  apply h
  have hnone : d.lookup key = none := by
    rw [List.lookup_eq_none_iff]
    intro entry hentry
    exact bne_iff_ne.mpr fun heq => hnot (List.mem_map.mpr ⟨entry, hentry, heq.symm⟩)
  unfold Dict.getD
  rw [hnone]
  rfl

theorem lookup_filter_key (p : κ -> Bool) (k : κ) (d : List (κ × β)) :
    (d.filter fun e => p e.1).lookup k = if p k then d.lookup k else none := by
  induction d with
  | nil => simp
  | cons e rest ih =>
      rcases e with ⟨k', v'⟩
      cases hp : p k' with
      | false =>
          rw [List.filter_cons_of_neg (by simp [hp]), ih, lookup_cons_eq]
          by_cases hk : k' = k
          · subst hk
            simp [hp]
          · simp [hk]
      | true =>
          rw [List.filter_cons_of_pos (by simp [hp]), lookup_cons_eq, lookup_cons_eq, ih]
          by_cases hk : k' = k
          · subst hk
            simp [hp]
          · simp [hk]

theorem lookup_erase (key k : κ) (d : List (κ × β)) :
    (erase key d).lookup k = if key = k then none else d.lookup k := by
  have hfilter := lookup_filter_key (fun k => decide (k ≠ key)) k d
  unfold erase
  rw [hfilter]
  by_cases hk : key = k
  · simp [hk]
  · simp [hk, Ne.symm hk]

/-- A value that replaces another wherever its key stands. -/
theorem lookup_replaced (key k : κ) (value : β) (d : List (κ × β)) :
    (d.map fun e => (e.1, if e.1 = key then value else e.2)).lookup k =
      if key = k then (d.lookup k).map fun _ => value else d.lookup k := by
  induction d with
  | nil => simp
  | cons e rest ih =>
      rw [List.map_cons, lookup_cons_eq, lookup_cons_eq, ih]
      by_cases hk : e.1 = k
      · rw [if_pos hk, if_pos hk, hk]
        by_cases hkey : key = k
        · simp [hkey]
        · simp [hkey, Ne.symm hkey]
      · rw [if_neg hk, if_neg hk]

theorem lookup_setDefault (key k : κ) (value : β) (d : List (κ × β)) :
    (setDefault key value d).lookup k =
      if key = k then some ((d.lookup k).getD value) else d.lookup k := by
  unfold setDefault
  cases hkey : d.lookup key with
  | some old =>
      by_cases hk : key = k
      · subst hk
        simp [hkey]
      · simp [hk]
  | none =>
      simp only
      rw [lookup_set]
      by_cases hk : key = k
      · subst hk
        simp [hkey]
      · simp [hk]

theorem lookup_erase_ne {key k : κ} (h : key ≠ k) (d : List (κ × β)) :
    (erase key d).lookup k = d.lookup k := by
  rw [lookup_erase, if_neg h]

theorem lookup_setDefault_ne {key k : κ} (h : key ≠ k) (value : β) (d : List (κ × β)) :
    (setDefault key value d).lookup k = d.lookup k := by
  rw [lookup_setDefault, if_neg h]

theorem Distinct.setDefault {d : List (κ × β)} (hd : Distinct d) (key : κ) (value : β) :
    Distinct (Dict.setDefault key value d) := by
  unfold Dict.setDefault
  split
  · exact hd
  · exact hd.set key value

theorem lookup_eq_none {key : κ} {d : List (κ × β)} :
    d.lookup key = none <-> key ∉ d.map Prod.fst := by
  induction d with
  | nil => simp
  | cons e rest ih =>
      rcases e with ⟨k, v⟩
      rw [lookup_cons_eq, List.map_cons, List.mem_cons, not_or]
      by_cases hk : k = key
      · simp [hk]
      · simp [hk, ih, Ne.symm hk]

theorem lookup_update (d : List (κ × β)) {e : List (κ × β)} (he : Distinct e) (k : κ) :
    (update d e).lookup k = (e.lookup k).or (d.lookup k) := by
  induction e generalizing d with
  | nil => rfl
  | cons entry rest ih =>
      rcases entry with ⟨key, value⟩
      rcases List.nodup_cons.mp he with ⟨hfresh, hrest⟩
      show (update (set key value d) rest).lookup k = _
      rw [ih (set key value d) hrest, lookup_cons_eq, lookup_set]
      by_cases hk : key = k
      · subst hk
        rw [lookup_eq_none.mpr hfresh]
        simp
      · simp [hk]

theorem Distinct.update {d : List (κ × β)} (hd : Distinct d) (e : List (κ × β)) :
    Distinct (Dict.update d e) := by
  induction e generalizing d with
  | nil => exact hd
  | cons entry rest ih => exact ih (hd.set entry.1 entry.2)

theorem mem_set {key : κ} {value : β} {d : List (κ × β)} {e : κ × β}
    (h : e ∈ set key value d) : e = (key, value) ∨ e ∈ d := by
  induction d with
  | nil => simpa [set] using h
  | cons x rest ih =>
      by_cases hk : x.1 = key
      · simp only [set, hk, if_true] at h
        rcases List.mem_cons.mp h with h | h
        · exact Or.inl h
        · exact Or.inr (List.mem_cons_of_mem _ h)
      · simp only [set, hk, if_false] at h
        rcases List.mem_cons.mp h with h | h
        · exact Or.inr (by rw [h]; exact List.mem_cons_self)
        · rcases ih h with h | h
          · exact Or.inl h
          · exact Or.inr (List.mem_cons_of_mem _ h)

/-- The entries of a dictionary that have a value. -/
def present {β : Type} (d : List (κ × Option β)) : List (κ × β) :=
  d.filterMap fun e => e.2.map fun value => (e.1, value)

theorem lookup_present {d : List (κ × Option β)} (hd : Distinct d) (k : κ) :
    (present d).lookup k = (d.lookup k).join := by
  induction d with
  | nil => rfl
  | cons entry rest ih =>
      rcases entry with ⟨key, value⟩
      rcases List.nodup_cons.mp hd with ⟨hfresh, hrest⟩
      rw [lookup_cons_eq]
      cases value with
      | none =>
          have hskip : present ((key, none) :: rest) = present rest := rfl
          rw [hskip, ih hrest]
          split
          · rename_i hk
            rw [← hk, lookup_eq_none.mpr hfresh]
            rfl
          · rfl
      | some v =>
          have hkeep : present ((key, some v) :: rest) = (key, v) :: present rest := rfl
          rw [hkeep, lookup_cons_eq, ih hrest]
          split
          · rfl
          · rfl

omit [DecidableEq κ] in
theorem distinct_present {d : List (κ × Option β)} (hd : Distinct d) : Distinct (present d) := by
  have hkeys : ((present d).map Prod.fst).Sublist (d.map Prod.fst) := by
    clear hd
    induction d with
    | nil => exact List.Sublist.refl []
    | cons entry rest ih =>
        rcases entry with ⟨key, value⟩
        cases value with
        | none => exact ih.cons key
        | some v => exact ih.cons_cons key
  exact hd.sublist hkeys

theorem mem_of_mem_erase {key : κ} {d : List (κ × β)} {e : κ × β} (h : e ∈ erase key d) :
    e ∈ d :=
  List.mem_of_mem_filter h

end Dict

/-!
## Shared names

Values that several holders keep in one dictionary, each under a name of its own that need not
be the only one.  A value that is written under a name is read back by all who share it.
-/

namespace Dict

variable {κ β : Type} [DecidableEq κ]

/-- What is read back under a name is as its holder expects. -/
def ReadsBack (d : List (κ × β)) (name : κ) (expected : β -> Prop) : Prop :=
  exists value, d.lookup name = some value ∧ expected value

theorem readsBack_set_self {d : List (κ × β)} {name : κ} {value : β} {expected : β -> Prop} :
    ReadsBack (set name value d) name expected <-> expected value := by
  constructor
  · intro h
    rcases h with ⟨found, hfound, hexpected⟩
    rw [lookup_set_self] at hfound
    cases hfound
    exact hexpected
  · intro h
    exact ⟨value, lookup_set_self name value d, h⟩

theorem readsBack_set_ne {d : List (κ × β)} {name other : κ} {value : β} {expected : β -> Prop}
    (h : name ≠ other) : ReadsBack (set name value d) other expected <->
      ReadsBack d other expected := by
  unfold ReadsBack
  rw [lookup_set_ne h]

/-- A holder is served by a write under its own name only if it expects the value, and by
others as before. -/
theorem readsBack_set_iff {d : List (κ × β)} {name other : κ} {value : β} {expected : β -> Prop}
    (h : ReadsBack d other expected) : ReadsBack (set name value d) other expected <->
      (other = name -> expected value) := by
  rcases Classical.em (other = name) with heq | hne
  · rw [heq, readsBack_set_self]
    exact ⟨fun hexpected _ => hexpected, fun hexpected => hexpected rfl⟩
  · rw [readsBack_set_ne (Ne.symm hne)]
    exact iff_of_true h fun heq => absurd heq hne

end Dict

end KeepGateway
