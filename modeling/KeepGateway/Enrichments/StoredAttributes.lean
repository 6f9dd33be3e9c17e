import KeepGateway.Enrichments.LegacyKeys

/-!
# Stored attributes

What the columns of a row hold after a write, key by key, and which writes the database takes.
-/

namespace KeepGateway
namespace Enrichments

variable {τ : Type}

/-- What the column that the key names holds of a value, where the database takes it. -/
def storedAs (st : Storage τ) (key : String) (value : Value τ) : Option (Value τ) :=
  if key = "status_disposable" ∨ key = "deleted" then (st.notNullFlag value).map Value.bool
  else if key = "dismissed_until" then
    (st.nullableTime value).map fun v => v.elim Value.none Value.time
  else if key ∈ enrichmentColumns then
    (st.nullableText value).map fun v => v.elim Value.none Value.text
  else none

/-- A blank note that is not forced. -/
def skipped (force : Bool) (key : String) (value : Value τ) : Bool :=
  key = "note" && !force && value.isBlank

/-- The value that is assigned to an attribute. -/
def written (force : Bool) (e : Fields τ) (key : String) : Option (Value τ) :=
  (e.lookup key).filter fun value => !skipped force key value

/-- The database takes all that is assigned. -/
def Storable (st : Storage τ) (force : Bool) (e : Fields τ) : Prop :=
  forall key value, written force e key = some value -> (storedAs st key value).isSome = true

/-!
## One key
-/

section Setting

variable {st : Storage τ} {row : LastAlert τ} {key : String} {value : Value τ}

/-- Setting a key either fails, or sets the attribute to what is stored. -/
def SetsAttribute (st : Storage τ) (row : LastAlert τ) (key : String) (value : Value τ) : Prop :=
  (storedAs st key value = none ∧ row.set st key value = none) ∨
    exists stored row', storedAs st key value = some stored ∧
      row.set st key value = some row' ∧ row'.attributes = Dict.set key stored row.attributes

theorem setsAttribute_of_column {γ : Type} {stored : Option γ} {shown : γ -> Value τ}
    {write : γ -> LastAlert τ} (hstored : storedAs st key value = stored.map shown)
    (hset : row.set st key value = stored.map write)
    (hwrite : forall v, (write v).attributes = Dict.set key (shown v) row.attributes) :
    SetsAttribute st row key value := by
  cases stored with
  | none => exact .inl ⟨hstored, hset⟩
  | some v => exact .inr ⟨shown v, write v, hstored, hset, hwrite v⟩

theorem setsAttribute (st : Storage τ) (row : LastAlert τ) (key : String) (value : Value τ) :
    SetsAttribute st row key value := by
  rcases Classical.em (key ∈ enrichmentColumns) with hkey | hkey
  · simp only [enrichmentColumns, List.mem_cons, List.not_mem_nil, or_false] at hkey
    rcases hkey with heq | heq | heq | heq | heq | heq | heq | heq | heq | heq
    all_goals
      subst heq
      exact setsAttribute_of_column rfl rfl fun _ => rfl
  · refine .inl ⟨?_, ?_⟩
    · have hflag : ¬ (key = "status_disposable" ∨ key = "deleted") := by
        intro h
        rcases h with heq | heq
        · exact hkey (heq ▸ by decide)
        · exact hkey (heq ▸ by decide)
      have htime : key ≠ "dismissed_until" := fun heq => hkey (heq ▸ by decide)
      unfold storedAs
      rw [if_neg hflag, if_neg htime, if_neg hkey]
    · simp only [enrichmentColumns, List.mem_cons, List.not_mem_nil, or_false, not_or] at hkey
      unfold LastAlert.set
      simp only [hkey, if_false]

end Setting

/-!
## All keys
-/

section Writing

variable {st : Storage τ} {force : Bool} {e : Fields τ}

theorem written_cons (force : Bool) (other : String) (value : Value τ) (rest : Fields τ)
    (key : String) :
    written force ((other, value) :: rest) key =
      if other = key then (if skipped force key value then none else some value)
      else written force rest key := by
  unfold written
  rw [Dict.lookup_cons_eq]
  split
  · cases hskipped : skipped force key value with
    | true => rw [if_pos rfl, Option.filter_some_neg (by simp [hskipped])]
    | false => rw [if_neg Bool.false_ne_true, Option.filter_some_pos (by simp [hskipped])]
  · rfl

theorem written_fresh (force : Bool) {key : String} (h : key ∉ e.map Prod.fst) :
    written force e key = none := by
  unfold written
  rw [Dict.lookup_eq_none.mpr h]
  rfl

theorem skipped_iff {key : String} {value : Value τ} :
    skipped force key value = true <-> key = "note" ∧ force = false ∧ value.isBlank = true := by
  simp [skipped, and_assoc]

theorem storable_cons {key : String} {value : Value τ} (hhead : key ∉ e.map Prod.fst) :
    Storable st force ((key, value) :: e) <->
      (skipped force key value = false -> (storedAs st key value).isSome = true) ∧
        Storable st force e := by
  constructor
  · intro h
    constructor
    · intro hkept
      refine h key value ?_
      rw [written_cons, if_pos rfl, hkept, if_neg Bool.false_ne_true]
    · intro other v hv
      have hne : key ≠ other := by
        intro heq
        rw [← heq, written_fresh force hhead] at hv
        cases hv
      refine h other v ?_
      rw [written_cons, if_neg hne]
      exact hv
  · intro ⟨hfirst, hrest⟩ other v hv
    rw [written_cons] at hv
    split at hv
    · rename_i heq
      subst heq
      split at hv
      · cases hv
      · rename_i hkept
        cases hv
        exact hfirst (Bool.eq_false_iff.mpr hkept)
    · exact hrest other v hv

/-- A write succeeds exactly where the database takes all of it. -/
theorem applyEnrichments_ok_iff (he : Dict.Distinct e) (row : LastAlert τ) :
    (exists row', applyEnrichmentsToLastAlert st force row e = .ok row') <->
      Storable st force e := by
  induction e generalizing row with
  | nil => exact iff_of_true ⟨row, rfl⟩ fun _ _ h => (by cases h)
  | cons entry rest ih =>
      rcases entry with ⟨key, value⟩
      rcases List.nodup_cons.mp he with ⟨hhead, hrest⟩
      rw [storable_cons hhead]
      unfold applyEnrichmentsToLastAlert
      split
      · rename_i hskipped
        rw [ih hrest row, skipped_iff.mpr hskipped]
        exact ⟨fun h => ⟨fun hkept => (by cases hkept), h⟩, fun h => h.2⟩
      · rename_i hkept
        have hfalse : skipped force key value = false :=
          Bool.eq_false_iff.mpr fun h => hkept (skipped_iff.mp h)
        rcases setsAttribute st row key value with
          ⟨hstored, hset⟩ | ⟨stored, row', hstored, hset, _⟩
        · rw [hset, hstored]
          refine iff_of_false ?_ fun h => (by cases h.1 hfalse)
          intro h
          rcases h with ⟨_, herror⟩
          cases herror
        · rw [hset, hstored]
          simp only
          rw [ih hrest row']
          exact ⟨fun h => ⟨fun _ => rfl, h⟩, fun h => h.2⟩

/-- An attribute is what is stored of the value that is assigned to it, and otherwise as it
was. -/
theorem lookup_applyEnrichments (he : Dict.Distinct e) {row row' : LastAlert τ}
    (h : applyEnrichmentsToLastAlert st force row e = .ok row') (key : String) :
    row'.attributes.lookup key =
      (written force e key).elim (row.attributes.lookup key) (storedAs st key) := by
  induction e generalizing row with
  | nil =>
      cases h
      rfl
  | cons entry rest ih =>
      rcases entry with ⟨other, value⟩
      rcases List.nodup_cons.mp he with ⟨hhead, hrest⟩
      rw [written_cons]
      unfold applyEnrichmentsToLastAlert at h
      split at h
      · rename_i hskipped
        rw [ih hrest h]
        rcases Classical.em (other = key) with heq | hne
        · rw [if_pos heq, ← heq, skipped_iff.mpr hskipped, if_pos rfl,
            written_fresh force hhead]
        · rw [if_neg hne]
      · rename_i hkept
        rcases setsAttribute st row other value with
          ⟨_, hset⟩ | ⟨stored, next, hstored, hset, hattributes⟩
        · rw [hset] at h
          cases h
        · rw [hset] at h
          rw [ih hrest h, hattributes]
          rcases Classical.em (other = key) with heq | hne
          · have hfalse : skipped force key value = false :=
              Bool.eq_false_iff.mpr fun hs => hkept (skipped_iff.mp (heq ▸ hs))
            rw [if_pos heq, hfalse, if_neg Bool.false_ne_true, ← heq, written_fresh force hhead]
            exact (Dict.lookup_set_self _ _ _).trans hstored.symm
          · rw [if_neg hne, Dict.lookup_set_ne hne]

end Writing

end Enrichments
end KeepGateway
