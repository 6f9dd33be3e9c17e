import KeepGateway.Enrichments.Batch
import Mathlib.Data.List.Induction

/-!
# Batch and single enrichment

The batch leaves the rows and the audit rows that the single calls leave, where the
single calls do not fail halfway: the batch is one transaction, the single calls are
one each.
-/

namespace KeepGateway
namespace Enrichments

open Transactions

variable {τ : Type}

/-!
## Documents by incident
-/

/-- The values of the document that a tenant has stored for an incident. -/
def IncidentTables.valuesAt (db : IncidentTables) (tenantId : String) (incidentId : Nat) :
    Option Values :=
  (db.find tenantId incidentId).map fun row key => row.enrichments.lookup key

/-- The same rows, as far as a reader of a dictionary can tell, and the same audit rows. -/
structure SameTables (a b : Tables τ) : Prop where
  lastAlerts : a.lastAlerts = b.lastAlerts
  values : forall tenantId id, a.incidents.valuesAt tenantId id = b.incidents.valuesAt tenantId id
  audits : a.incidents.audits.Perm b.incidents.audits

/-- `mergeEnrichments` on values. -/
def mergeValues (values : Values) (e : Document) : Values := fun key =>
  if e.lookup key = some .null then none
  else if key = "note" ∧ isBlankNote (e.lookup "note") = true ∧
      isKeptNote (values "note") = true then
    values "note"
  else (e.lookup key).or (values key)

/-- The values after an enrichment, by those before it. -/
def enrichValues (e : Document) : Option Values -> Values
  | some values => mergeValues values e
  | none => fun key => e.lookup key

theorem values_mergeEnrichments (existing : Document) {e : Document} (he : Dict.Distinct e) :
    (fun key => (mergeEnrichments existing e).lookup key) =
      mergeValues (fun key => existing.lookup key) e := by
  funext key
  exact lookup_mergeEnrichments existing he key

/-- The note guard applies to a key. -/
def Guarded (values : Values) (e : Document) (key : String) : Prop :=
  key = "note" ∧ isBlankNote (e.lookup "note") = true ∧ isKeptNote (values "note") = true

theorem mergeValues_guarded {values : Values} {e : Document} {key : String}
    (hnull : e.lookup key ≠ some .null) (h : Guarded values e key) :
    mergeValues values e key = values "note" := by
  unfold mergeValues
  rw [if_neg hnull]
  exact if_pos h

theorem mergeValues_unguarded {values : Values} {e : Document} {key : String}
    (hnull : e.lookup key ≠ some .null) (h : ¬ Guarded values e key) :
    mergeValues values e key = (e.lookup key).or (values key) := by
  unfold mergeValues
  rw [if_neg hnull]
  exact if_neg h

/-- Merging the same dictionary again changes nothing. -/
theorem mergeValues_again (values : Values) (e : Document) :
    mergeValues (mergeValues values e) e = mergeValues values e := by
  funext key
  rcases Classical.em (e.lookup key = some .null) with hnull | hnull
  · unfold mergeValues
    rw [if_pos hnull, if_pos hnull]
  · rcases Classical.em (Guarded (mergeValues values e) e key) with hagain | hagain
    · rw [mergeValues_guarded hnull hagain, hagain.1]
    · rw [mergeValues_unguarded hnull hagain]
      have hnot : ¬ Guarded values e key := by
        intro h
        have hvalue := mergeValues_guarded hnull h
        rcases h with ⟨hkey, hblank, hkept⟩
        rw [hkey] at hvalue
        exact hagain ⟨hkey, hblank, by rw [hvalue]; exact hkept⟩
      rw [mergeValues_unguarded hnull hnot]
      cases e.lookup key <;> rfl

/-!
## The incident path, call by call
-/

/-- What enriching the incidents of a list leaves, each of them once. -/
structure Enriched (ctx : Context τ) (e : IncidentDict) (db : IncidentTables) (ids : List Nat)
    (db' : IncidentTables) : Prop where
  incidents : db'.incidents = db.incidents
  rows : forall id, id ∈ db'.rows.map IncidentEnrichment.incidentId <->
    id ∈ db.rows.map IncidentEnrichment.incidentId ∨ id ∈ ids
  enriched : forall id, id ∈ ids ->
    db'.valuesAt ctx.tenantId id = some (enrichValues e.fields (db.valuesAt ctx.tenantId id))
  others : forall tenantId id, ¬ (tenantId = ctx.tenantId ∧ id ∈ ids) ->
    db'.valuesAt tenantId id = db.valuesAt tenantId id
  audits : db'.audits = db.audits ++ ids.map fun id => ctx.audit (ctx.str id)

/-- Every incident has a row or can get one, and none gets two. -/
structure Creatable (ctx : Context τ) (db : IncidentTables) (ids : List Nat) : Prop where
  insertable : forall id, id ∈ ids -> db.find ctx.tenantId id = none -> db.Insertable id
  once : (ctx.toCreate db ids).Nodup

namespace IncidentTables

theorem valuesAt_eq_none {db : IncidentTables} {tenantId : String} {id : Nat} :
    db.valuesAt tenantId id = none <-> db.find tenantId id = none :=
  Option.map_eq_none_iff

theorem valuesAt_of_find {db : IncidentTables} {tenantId : String} {id : Nat}
    {row : IncidentEnrichment} (h : db.find tenantId id = some row) :
    db.valuesAt tenantId id = some fun key => row.enrichments.lookup key := by
  unfold valuesAt
  rw [h]
  rfl

/-- A row is written for one tenant and one incident. -/
theorem valuesAt_write_other {db : IncidentTables} {tenantId other : String} {id id' : Nat}
    {row : IncidentEnrichment} (h : db.find tenantId id = some row) (document : Document)
    (hne : ¬ (other = tenantId ∧ id' = id)) :
    (db.write id document).valuesAt other id' = db.valuesAt other id' := by
  unfold valuesAt
  rcases Classical.em (id' = id) with hid | hid
  · subst hid
    have hnone := find_other_tenant h fun heq => hne ⟨heq, rfl⟩
    rw [find_write, hnone]
    rfl
  · rw [find_write_ne db other hid]

theorem write_rows (db : IncidentTables) (id : Nat) (document : Document) :
    (db.write id document).rows.map IncidentEnrichment.incidentId =
      db.rows.map IncidentEnrichment.incidentId := by
  unfold write
  rw [List.map_map]
  congr 1
  exact funext (setDocument_incidentId id document)

end IncidentTables

variable {ctx : Context τ} {e : IncidentDict} {db db' : IncidentTables} {ids : List Nat}

theorem Creatable.of_append {rest : List Nat} (h : Creatable ctx db (ids ++ rest)) :
    Creatable ctx db ids where
  insertable := fun id hid => h.insertable id (List.mem_append_left rest hid)
  once := by
    have honce := h.once
    unfold Context.toCreate at honce ⊢
    rw [List.filter_append] at honce
    exact (List.nodup_append.mp honce).1

/-- An incident without a row occurs once. -/
theorem Creatable.fresh {id : Nat} (h : Creatable ctx db (ids ++ [id]))
    (hnone : db.find ctx.tenantId id = none) : id ∉ ids := by
  intro hid
  have honce := h.once
  unfold Context.toCreate at honce
  rw [List.filter_append] at honce
  have hmem : id ∈ ids.filter fun id => (db.find ctx.tenantId id).isNone :=
    List.mem_filter.mpr ⟨hid, by rw [hnone]; rfl⟩
  have hlast : id ∈ [id].filter fun id => (db.find ctx.tenantId id).isNone :=
    List.mem_filter.mpr ⟨List.mem_singleton_self id, by rw [hnone]; rfl⟩
  exact (List.nodup_append.mp honce).2.2 id hmem id hlast rfl

theorem enriched_nil (ctx : Context τ) (e : IncidentDict) (db : IncidentTables) :
    Enriched ctx e db [] db where
  incidents := rfl
  rows := by simp
  enriched := fun id hid => by cases hid
  others := fun _ _ _ => rfl
  audits := by simp

/-- The single call on an incident that has a row by now. -/
theorem Enriched.update (h : Enriched ctx e db ids db') {id : Nat} {row : IncidentEnrichment}
    (hrow : db'.find ctx.tenantId id = some row)
    (hmem : id ∈ db.rows.map IncidentEnrichment.incidentId ∨ id ∈ ids)
    (hvalues : mergeValues (fun key => row.enrichments.lookup key) e.fields =
      enrichValues e.fields (db.valuesAt ctx.tenantId id)) :
    Enriched ctx e db (ids ++ [id])
      ((db'.write id (mergeEnrichments row.enrichments e.fields)).addAudits
        [ctx.audit (ctx.str id)]) where
  incidents := h.incidents
  rows := by
    intro other
    have hrows := h.rows other
    show other ∈ (db'.write id _).rows.map _ <-> _
    rw [IncidentTables.write_rows, hrows, List.mem_append, List.mem_singleton]
    constructor
    · intro hother
      rcases hother with hother | hother
      · exact Or.inl hother
      · exact Or.inr (Or.inl hother)
    · intro hother
      rcases hother with hother | hother | hother
      · exact Or.inl hother
      · exact Or.inr hother
      · rw [hother]
        exact hmem
  enriched := by
    intro other hother
    show (db'.write id _).valuesAt ctx.tenantId other = _
    rcases Classical.em (other = id) with heq | hne
    · subst heq
      rw [IncidentTables.valuesAt_of_find (IncidentTables.find_write_self hrow _), ← hvalues]
      exact congrArg some (values_mergeEnrichments row.enrichments e.distinct)
    · rw [IncidentTables.valuesAt_write_other hrow _ fun hsame => hne hsame.2]
      rcases List.mem_append.mp hother with hother | hother
      · exact h.enriched other hother
      · exact absurd (List.mem_singleton.mp hother) hne
  others := by
    intro tenantId other hnot
    show (db'.write id _).valuesAt tenantId other = _
    rw [IncidentTables.valuesAt_write_other hrow]
    · apply h.others
      intro hsame
      exact hnot ⟨hsame.1, List.mem_append_left _ hsame.2⟩
    · intro hsame
      exact hnot ⟨hsame.1, by rw [hsame.2]; simp⟩
  audits := by
    show (db'.write id _).audits ++ _ = _
    rw [List.map_append, ← List.append_assoc]
    exact congrArg (· ++ [ctx.audit (ctx.str id)]) h.audits

/-- The single call on an incident without a row. -/
theorem Enriched.insert (h : Enriched ctx e db ids db') {id : Nat} (hfresh : id ∉ ids)
    (hnone : db.find ctx.tenantId id = none) (hinsertable : db'.Insertable id) :
    Enriched ctx e db (ids ++ [id])
      ((db'.insert ⟨ctx.tenantId, id, e.fields⟩ hinsertable).addAudits
        [ctx.audit (ctx.str id)]) where
  incidents := h.incidents
  rows := by
    intro other
    show other ∈ (db'.rows ++ [_]).map _ <-> _
    rw [List.map_append, List.mem_append, h.rows other, List.mem_append, or_assoc]
    rfl
  enriched := by
    intro other hother
    show (db'.insert _ hinsertable).valuesAt ctx.tenantId other = _
    rcases Classical.em (other = id) with heq | hne
    · subst heq
      rw [IncidentTables.valuesAt_of_find (IncidentTables.find_insert db'
        ⟨ctx.tenantId, other, e.fields⟩ hinsertable),
        IncidentTables.valuesAt_eq_none.mpr hnone]
      rfl
    · have hsame : (db'.insert ⟨ctx.tenantId, id, e.fields⟩ hinsertable).valuesAt
          ctx.tenantId other = db'.valuesAt ctx.tenantId other := by
        unfold IncidentTables.valuesAt
        rw [IncidentTables.find_insert_ne db' _ hinsertable fun hsame => hne hsame.2]
      rw [hsame]
      rcases List.mem_append.mp hother with hother | hother
      · exact h.enriched other hother
      · exact absurd (List.mem_singleton.mp hother) hne
  others := by
    intro tenantId other hnot
    have hsame : (db'.insert ⟨ctx.tenantId, id, e.fields⟩ hinsertable).valuesAt
        tenantId other = db'.valuesAt tenantId other := by
      unfold IncidentTables.valuesAt
      rw [IncidentTables.find_insert_ne db' _ hinsertable]
      intro hsame
      exact hnot ⟨hsame.1, by rw [hsame.2]; simp⟩
    show (db'.insert _ hinsertable).valuesAt tenantId other = _
    rw [hsame]
    apply h.others
    intro hmem
    exact hnot ⟨hmem.1, List.mem_append_left _ hmem.2⟩
  audits := by
    show db'.audits ++ _ = _
    rw [List.map_append, ← List.append_assoc]
    exact congrArg (· ++ [ctx.audit (ctx.str id)]) h.audits

/-- One more single call: an incident with a row is merged, also a second time, and one
without a row is created. -/
theorem Enriched.step (h : Enriched ctx e db ids db') {id : Nat}
    (hcreatable : Creatable ctx db (ids ++ [id])) :
    Enriched ctx e db (ids ++ [id])
      (enrichIncident ctx.str db' ctx.tenantId id e.fields false ctx.action) := by
  unfold enrichIncident
  cases hrow : db'.find ctx.tenantId id with
  | some row =>
      have hid := (IncidentTables.find_eq_some hrow).2.2
      have hmem : id ∈ db.rows.map IncidentEnrichment.incidentId ∨ id ∈ ids := by
        rw [← h.rows id]
        exact List.mem_map.mpr ⟨row, (IncidentTables.find_eq_some hrow).1, hid⟩
      apply h.update hrow hmem
      have hvalues := IncidentTables.valuesAt_of_find hrow
      rcases Classical.em (id ∈ ids) with hids | hids
      · rw [h.enriched id hids] at hvalues
        rw [← Option.some.inj hvalues]
        cases hbefore : db.valuesAt ctx.tenantId id with
        | some values => exact mergeValues_again values e.fields
        | none =>
            exact absurd hids (hcreatable.fresh (IncidentTables.valuesAt_eq_none.mp hbefore))
      · rw [h.others ctx.tenantId id fun hsame => hids hsame.2] at hvalues
        rw [hvalues]
        rfl
  | none =>
      have hids : id ∉ ids := by
        intro hids
        have hvalues := h.enriched id hids
        rw [IncidentTables.valuesAt_eq_none.mpr hrow] at hvalues
        cases hvalues
      have hnone : db.find ctx.tenantId id = none := by
        rw [← IncidentTables.valuesAt_eq_none,
          ← h.others ctx.tenantId id fun hsame => hids hsame.2]
        exact IncidentTables.valuesAt_eq_none.mpr hrow
      have hinsertable : db'.Insertable id := by
        rcases hcreatable.insertable id (by simp) hnone with ⟨hincident, hrows⟩
        constructor
        · rw [h.incidents]
          exact hincident
        · intro hmem
          rcases (h.rows id).mp hmem with hmem | hmem
          · exact hrows hmem
          · exact hids hmem
      simp only [hinsertable, dif_pos]
      exact h.insert hids hnone hinsertable

/-- Single calls in sequence. -/
theorem enriched_foldl (hcreatable : Creatable ctx db ids) :
    Enriched ctx e db ids
      (ids.foldl
        (fun db id => enrichIncident ctx.str db ctx.tenantId id e.fields false ctx.action)
        db) := by
  induction ids using List.reverseRecOn with
  | nil => exact enriched_nil ctx e db
  | append_singleton before id ih =>
      rw [List.foldl_append]
      exact (ih hcreatable.of_append).step hcreatable

/-!
## The incident path, as a batch
-/

theorem lookup_toUpdate (ctx : Context τ) (e : IncidentDict) (db : IncidentTables)
    (ids : List Nat) (id : Nat) :
    (ctx.toUpdate e db ids).lookup id =
      if id ∈ ids then
        (db.find ctx.tenantId id).map fun row => mergeEnrichments row.enrichments e.fields
      else none := by
  unfold Context.toUpdate
  induction ids using List.reverseRecOn with
  | nil => rfl
  | append_singleton before last ih =>
      rw [List.foldl_append, List.foldl_cons, List.foldl_nil]
      cases hrow : db.find ctx.tenantId last with
      | none =>
          simp only
          rw [ih]
          rcases Classical.em (id = last) with heq | hne
          · subst heq
            simp [hrow]
          · simp [hne]
      | some row =>
          simp only
          rw [Dict.lookup_set, ih]
          rcases Classical.em (last = id) with heq | hne
          · subst heq
            simp [hrow]
          · simp [hne, Ne.symm hne]

theorem distinct_toUpdate (ctx : Context τ) (e : IncidentDict) (db : IncidentTables)
    (ids : List Nat) : Dict.Distinct (ctx.toUpdate e db ids) := by
  unfold Context.toUpdate
  induction ids using List.reverseRecOn with
  | nil => exact Dict.distinct_nil
  | append_singleton before last ih =>
      rw [List.foldl_append, List.foldl_cons, List.foldl_nil]
      cases db.find ctx.tenantId last with
      | none => exact ih
      | some row => exact ih.set last _

/-- The `UPDATE` statements of a batch. -/
theorem find_writes {updates : List (Nat × Document)} (hdistinct : Dict.Distinct updates)
    (db : IncidentTables) (tenantId : String) (id : Nat) :
    (updates.foldl (fun db update => db.write update.1 update.2) db).find tenantId id =
      match updates.lookup id with
      | some document => (db.find tenantId id).map (IncidentTables.setDocument id document)
      | none => db.find tenantId id := by
  induction updates generalizing db with
  | nil => rfl
  | cons update rest ih =>
      rcases update with ⟨key, document⟩
      rcases List.nodup_cons.mp hdistinct with ⟨hfresh, hrest⟩
      rw [List.foldl_cons, ih hrest, Dict.lookup_cons_eq]
      rcases Classical.em (key = id) with heq | hne
      · subst heq
        rw [Dict.lookup_eq_none.mpr hfresh, if_pos rfl]
        exact IncidentTables.find_write db tenantId key key document
      · rw [if_neg hne]
        simp only [IncidentTables.find_write_ne db tenantId (Ne.symm hne)]

theorem writes_frame (updates : List (Nat × Document)) (db : IncidentTables) :
    (updates.foldl (fun db update => db.write update.1 update.2) db).incidents = db.incidents ∧
      (updates.foldl (fun db update => db.write update.1 update.2) db).rows.map
          IncidentEnrichment.incidentId =
        db.rows.map IncidentEnrichment.incidentId ∧
      (updates.foldl (fun db update => db.write update.1 update.2) db).audits = db.audits := by
  induction updates generalizing db with
  | nil => exact ⟨rfl, rfl, rfl⟩
  | cons update rest ih =>
      rcases ih (db.write update.1 update.2) with ⟨hincidents, hrows, haudits⟩
      rw [List.foldl_cons, hincidents, hrows, haudits, IncidentTables.write_rows]
      exact ⟨rfl, rfl, rfl⟩

/-- The tables after some incidents got a row. -/
structure Created (ctx : Context τ) (e : IncidentDict) (db : IncidentTables) (new : List Nat)
    (db' : IncidentTables) : Prop where
  find_new : forall id, id ∈ new ->
    db'.find ctx.tenantId id = some ⟨ctx.tenantId, id, e.fields⟩
  find_other : forall tenantId id, ¬ (tenantId = ctx.tenantId ∧ id ∈ new) ->
    db'.find tenantId id = db.find tenantId id
  audits : db'.audits = db.audits

/-- The inserts of a batch go through when each incident gets one row. -/
theorem insertRows (hinsertable : forall id, id ∈ ids -> db.Insertable id) (honce : ids.Nodup) :
    exists db', ids.foldlM (ctx.insertRow e) db = .ok db' ∧ Created ctx e db ids db' := by
  induction ids generalizing db with
  | nil => exact ⟨db, rfl, ⟨(fun id hid => by cases hid), fun _ _ _ => rfl, rfl⟩⟩
  | cons first rest ih =>
      rcases List.nodup_cons.mp honce with ⟨hfresh, hrest⟩
      have hfirst := hinsertable first List.mem_cons_self
      have hnext : forall id, id ∈ rest ->
          (db.insert ⟨ctx.tenantId, first, e.fields⟩ hfirst).Insertable id := by
        intro id hid
        rcases hinsertable id (List.mem_cons_of_mem first hid) with ⟨hincident, hrow⟩
        refine ⟨hincident, ?_⟩
        intro hmem
        have hmem : id ∈ (db.rows ++
            [(⟨ctx.tenantId, first, e.fields⟩ : IncidentEnrichment)]).map
              IncidentEnrichment.incidentId := hmem
        rw [List.map_append, List.mem_append] at hmem
        rcases hmem with hmem | hmem
        · exact hrow hmem
        · rw [List.mem_singleton.mp hmem] at hid
          exact hfresh hid
      rcases ih hnext hrest with ⟨db', hfold, hcreated⟩
      refine ⟨db', ?_, ?_, ?_, ?_⟩
      · rw [List.foldlM_cons]
        simp only [Context.insertRow, hfirst, dif_pos]
        exact hfold
      · intro id hid
        rcases List.mem_cons.mp hid with heq | hid
        · subst heq
          rw [hcreated.find_other ctx.tenantId id fun hsame => hfresh hsame.2]
          exact IncidentTables.find_insert db ⟨ctx.tenantId, id, e.fields⟩ hfirst
        · exact hcreated.find_new id hid
      · intro tenantId id hnot
        rw [hcreated.find_other tenantId id fun hsame =>
          hnot ⟨hsame.1, List.mem_cons_of_mem first hsame.2⟩]
        apply IncidentTables.find_insert_ne db ⟨ctx.tenantId, first, e.fields⟩ hfirst
        intro hsame
        exact hnot ⟨hsame.1, by rw [show id = first from hsame.2]; exact List.mem_cons_self⟩
      · exact hcreated.audits

/-- The batch leaves what the single calls leave. -/
theorem batch_values {updated created : IncidentTables}
    (hupdated : updated =
      (ctx.toUpdate e db ids).foldl (fun db update => db.write update.1 update.2) db)
    (hcreated : Created ctx e updated (ctx.toCreate db ids) created)
    (hsingle : Enriched ctx e db ids db') (tenantId : String) (id : Nat) :
    created.valuesAt tenantId id = db'.valuesAt tenantId id := by
  have hfind := find_writes (distinct_toUpdate ctx e db ids) db tenantId id
  rw [← hupdated, lookup_toUpdate] at hfind
  rcases Classical.em (tenantId = ctx.tenantId ∧ id ∈ ids) with hmem | hmem
  · rcases hmem with ⟨htenant, hids⟩
    subst htenant
    rw [hsingle.enriched id hids]
    rw [if_pos hids] at hfind
    cases hrow : db.find ctx.tenantId id with
    | none =>
        have hnew : id ∈ ctx.toCreate db ids :=
          List.mem_filter.mpr ⟨hids, by rw [hrow]; rfl⟩
        rw [IncidentTables.valuesAt_of_find (hcreated.find_new id hnew),
          IncidentTables.valuesAt_eq_none.mpr hrow]
        rfl
    | some row =>
        have hold : id ∉ ctx.toCreate db ids := by
          intro hnew
          have hnone := (List.mem_filter.mp hnew).2
          rw [hrow] at hnone
          cases hnone
        rw [hrow] at hfind
        simp only [Option.map_some, IncidentTables.setDocument,
          (IncidentTables.find_eq_some hrow).2.2, if_true] at hfind
        rw [← hcreated.find_other ctx.tenantId id fun hsame => hold hsame.2] at hfind
        rw [IncidentTables.valuesAt_of_find hfind, IncidentTables.valuesAt_of_find hrow]
        exact congrArg some (values_mergeEnrichments row.enrichments e.distinct)
  · rw [hsingle.others tenantId id hmem]
    have hother : ¬ (tenantId = ctx.tenantId ∧ id ∈ ctx.toCreate db ids) := by
      intro hsame
      exact hmem ⟨hsame.1, List.mem_of_mem_filter hsame.2⟩
    unfold IncidentTables.valuesAt
    rw [hcreated.find_other tenantId id hother, hfind]
    rcases Classical.em (id ∈ ids) with hids | hids
    · rw [if_pos hids]
      cases hrow : db.find ctx.tenantId id with
      | none => rfl
      | some row =>
          have htenant : tenantId ≠ ctx.tenantId := fun heq => hmem ⟨heq, hids⟩
          rw [IncidentTables.find_other_tenant hrow htenant]
          rfl
    · rw [if_neg hids]

theorem batchEnrichIncident_ok {fingerprints : List String}
    (hids : fingerprints.mapM ctx.incidentId = .ok ids) (hcreatable : Creatable ctx db ids)
    (hsingle : Enriched ctx e db ids db') :
    exists created, ctx.batchEnrichIncident e db fingerprints = .ok created ∧
      (forall tenantId id, created.valuesAt tenantId id = db'.valuesAt tenantId id) ∧
      created.audits = db'.audits := by
  have hframe := writes_frame (ctx.toUpdate e db ids) db
  have hinsertable : forall id, id ∈ ctx.toCreate db ids ->
      ((ctx.toUpdate e db ids).foldl (fun db update => db.write update.1 update.2)
        db).Insertable id := by
    intro id hid
    rcases List.mem_filter.mp hid with ⟨hmem, hnone⟩
    have hinsertable := hcreatable.insertable id hmem (by simpa using hnone)
    constructor
    · rw [hframe.1]
      exact hinsertable.1
    · rw [hframe.2.1]
      exact hinsertable.2
  have hinserted : exists created,
      (ctx.toCreate db ids).foldlM (ctx.insertRow e)
          ((ctx.toUpdate e db ids).foldl (fun db update => db.write update.1 update.2) db) =
        .ok created ∧
      Created ctx e
        ((ctx.toUpdate e db ids).foldl (fun db update => db.write update.1 update.2) db)
        (ctx.toCreate db ids) created :=
    insertRows hinsertable hcreatable.once
  rcases hinserted with ⟨created, hfold, hcreated⟩
  refine ⟨created.addAudits (ids.map fun id => ctx.audit (ctx.str id)), ?_, ?_, ?_⟩
  · unfold Context.batchEnrichIncident
    exact bind_eq_ok.mpr ⟨ids, hids, bind_eq_ok.mpr ⟨created, hfold, rfl⟩⟩
  · intro tenantId id
    exact batch_values rfl hcreated hsingle tenantId id
  · show created.audits ++ _ = _
    rw [hcreated.audits, hframe.2.2]
    exact hsingle.audits.symm

/-!
## Agreement
-/

/-- The incident ids that a list of fingerprints spells. -/
def Context.incidentIds (ctx : Context τ) (fingerprints : List String) : List Nat :=
  fingerprints.filterMap ctx.uuid

namespace Request

/-- The dictionary passes the check that a batch makes once, on an empty list too. -/
def Accepted : Request τ -> Prop
  | alert e strict => exists normalized, normalizeEnrichments e.fields strict = .ok normalized
  | incident _ => True

def IncidentsCreatable (request : Request τ) (ctx : Context τ) (db : Tables τ)
    (fingerprints : List String) : Prop :=
  match request with
  | alert _ _ => True
  | incident _ => Creatable ctx db.incidents (ctx.incidentIds fingerprints)

end Request

theorem mapM_incidentId {fingerprints : List String} :
    forall {ids : List Nat}, fingerprints.mapM ctx.incidentId = .ok ids ->
      ctx.incidentIds fingerprints = ids := by
  induction fingerprints with
  | nil =>
      intro ids h
      cases h
      rfl
  | cons fingerprint rest ih =>
      intro ids h
      rw [List.mapM_cons] at h
      rcases bind_eq_ok.mp h with ⟨id, hid, h⟩
      rcases bind_eq_ok.mp h with ⟨others, hothers, h⟩
      cases h
      cases huuid : ctx.uuid fingerprint with
      | none => simp [Context.incidentId, huuid] at hid
      | some found =>
          simp only [Context.incidentId, huuid] at hid
          cases hid
          have hrest := ih hothers
          unfold Context.incidentIds at hrest ⊢
          rw [List.filterMap_cons, huuid, hrest]

/-- Single calls that all go through are the single enrichments of the ids. -/
theorem foldlM_incident {fingerprints : List String} {db db' : Tables τ}
    (h : fingerprints.foldlM (ctx.enrichEntity (.incident e)) db = .ok db') :
    exists ids, fingerprints.mapM ctx.incidentId = .ok ids ∧
      db' = { db with
        incidents := ids.foldl
          (fun db id => enrichIncident ctx.str db ctx.tenantId id e.fields false ctx.action)
          db.incidents } := by
  induction fingerprints generalizing db with
  | nil =>
      cases h
      exact ⟨[], rfl, rfl⟩
  | cons fingerprint rest ih =>
      rw [List.foldlM_cons] at h
      rcases bind_eq_ok.mp h with ⟨next, hfirst, hrest⟩
      rcases bind_eq_ok.mp hfirst with ⟨id, hid, hnext⟩
      cases hnext
      rcases ih hrest with ⟨ids, hids, heq⟩
      refine ⟨id :: ids, ?_, heq⟩
      rw [List.mapM_cons]
      exact bind_eq_ok.mpr ⟨id, hid, bind_eq_ok.mpr ⟨ids, hids, rfl⟩⟩

theorem foldlM_alert {enrichments : EnrichmentDict τ} {strict : Bool} {normalized : Fields τ}
    (hnormalized : Context.normalize enrichments strict = .ok normalized)
    {fingerprints : List String} {db db' : Tables τ}
    (h : fingerprints.foldlM (ctx.enrichEntity (.alert enrichments strict)) db = .ok db') :
    fingerprints.foldlM (ctx.writeLastAlert normalized) db.lastAlerts = .ok db'.lastAlerts ∧
      db'.incidents = db.incidents.addAudits (fingerprints.map ctx.audit) := by
  induction fingerprints generalizing db with
  | nil =>
      cases h
      refine ⟨rfl, ?_⟩
      simp [IncidentTables.addAudits]
  | cons fingerprint rest ih =>
      rw [List.foldlM_cons] at h
      rcases bind_eq_ok.mp h with ⟨next, hfirst, hrest⟩
      rcases bind_eq_ok.mp hfirst with ⟨normalized', hnormalized', hfirst⟩
      rw [hnormalized] at hnormalized'
      cases hnormalized'
      rcases bind_eq_ok.mp hfirst with ⟨rows, hrows, hnext⟩
      cases hnext
      rcases ih hrest with ⟨hfold, hincidents⟩
      refine ⟨?_, ?_⟩
      · rw [List.foldlM_cons, hrows]
        exact hfold
      · rw [hincidents]
        simp [IncidentTables.addAudits, Context.addAudit]

theorem batchEnrich_of_incident {db : Tables τ} {fingerprints : List String}
    (hlate : ¬ StopsLate (ctx.enrichEntity (.incident e)) db fingerprints)
    (hcreatable : Creatable ctx db.incidents (ctx.incidentIds fingerprints)) :
    Agrees SameTables db (ctx.batchEnrich (.incident e) db fingerprints)
      (inSequence (ctx.enrichEntity (.incident e)) db fingerprints) := by
  rcases ends_or_fails_at_once hlate with ⟨db', hfold⟩ | ⟨fingerprint, rest, failure, heq, hfail⟩
  · right
    rcases foldlM_incident hfold with ⟨ids, hids, hdb'⟩
    rw [mapM_incidentId hids] at hcreatable
    have hsingle : Enriched ctx e db.incidents ids _ := enriched_foldl hcreatable
    rcases batchEnrichIncident_ok hids hcreatable hsingle with ⟨created, hok, hvalues, haudits⟩
    refine ⟨{ db with incidents := created }, db', ?_, inSequence_of_foldlM hfold, ?_⟩
    · exact bind_eq_ok.mpr ⟨created, hok, rfl⟩
    · rw [hdb']
      exact ⟨rfl, hvalues, haudits ▸ List.Perm.refl _⟩
  · left
    subst heq
    have hid : ctx.incidentId fingerprint = .error failure := by
      cases hid : ctx.incidentId fingerprint with
      | error e => simpa [Context.enrichEntity, hid, bind, Except.bind] using hfail
      | ok id => simp [Context.enrichEntity, hid, bind, Except.bind] at hfail
    refine ⟨failure, failure, ?_, inSequence_of_error hfail⟩
    simp [Context.batchEnrich, Context.batchEnrichIncident, List.mapM_cons, hid, bind,
      Except.bind]

theorem batchEnrich_of_alert {enrichments : EnrichmentDict τ} {strict : Bool} {db : Tables τ}
    {fingerprints : List String}
    (hlate : ¬ StopsLate (ctx.enrichEntity (.alert enrichments strict)) db fingerprints)
    (haccepted : fingerprints ≠ [] ∨ (Request.alert enrichments strict).Accepted) :
    Agrees SameTables db (ctx.batchEnrich (.alert enrichments strict) db fingerprints)
      (inSequence (ctx.enrichEntity (.alert enrichments strict)) db fingerprints) := by
  cases hnormalized : Context.normalize enrichments strict with
  | error failure =>
      left
      cases fingerprints with
      | nil =>
          exfalso
          rcases haccepted with hne | ⟨normalized, hok⟩
          · exact hne rfl
          · rw [Context.normalize, hok] at hnormalized
            cases hnormalized
      | cons fingerprint rest =>
          refine ⟨failure, failure, ?_, inSequence_of_error ?_⟩
          · simp [Context.batchEnrich, hnormalized, bind, Except.bind]
          · simp [Context.enrichEntity, hnormalized, bind, Except.bind]
  | ok normalized =>
      rcases ends_or_fails_at_once hlate with
        ⟨db', hfold⟩ | ⟨fingerprint, rest, failure, heq, hfail⟩
      · right
        rcases foldlM_alert hnormalized hfold with ⟨hrows, hincidents⟩
        refine ⟨⟨db'.lastAlerts, db.incidents.addAudits (fingerprints.map ctx.audit)⟩, db', ?_,
          inSequence_of_foldlM hfold, ?_⟩
        · exact bind_eq_ok.mpr ⟨normalized, hnormalized, bind_eq_ok.mpr ⟨_, hrows, rfl⟩⟩
        · exact ⟨rfl, fun _ _ => by rw [hincidents], by rw [hincidents]⟩
      · left
        subst heq
        have hrow : ctx.writeLastAlert normalized db.lastAlerts fingerprint =
            .error failure := by
          cases hrow : ctx.writeLastAlert normalized db.lastAlerts fingerprint with
          | error e =>
              simpa [Context.enrichEntity, hnormalized, hrow, bind, Except.bind] using hfail
          | ok rows =>
              simp [Context.enrichEntity, hnormalized, hrow, bind, Except.bind] at hfail
        refine ⟨failure, failure, ?_, inSequence_of_error hfail⟩
        simp [Context.batchEnrich, hnormalized, List.foldlM_cons, hrow, bind, Except.bind]

/-- Where no single call fails after another has been committed, the list is not empty
beside a rejected dictionary, and every incident has a row or gets one once, the batch and
the single calls agree. -/
theorem batchEnrich_agrees (ctx : Context τ) (request : Request τ) (db : Tables τ)
    (fingerprints : List String)
    (hlate : ¬ StopsLate (ctx.enrichEntity request) db fingerprints)
    (haccepted : fingerprints ≠ [] ∨ request.Accepted)
    (hcreatable : request.IncidentsCreatable ctx db fingerprints) :
    Agrees SameTables db (ctx.batchEnrich request db fingerprints)
      (inSequence (ctx.enrichEntity request) db fingerprints) := by
  cases request with
  | alert e strict => exact batchEnrich_of_alert hlate haccepted
  | incident e => exact batchEnrich_of_incident hlate hcreatable

/-- A database that stores texts and no times. -/
def plainStorage : Storage Unit where
  text
    | .text s => some s
    | _ => none
  time := fun _ => none
  flag
    | .bool b => some b
    | _ => none
  flag_truthy := by
    intro v b h
    cases v with
    | bool flag => exact (Option.some.inj h).symm
    | _ => cases h

/-- Two well-formed ids. -/
def sampleUuid : String -> Option Nat
  | "6f1b0e0a-0000-4000-8000-000000000001" => some 1
  | "6f1b0e0a-0000-4000-8000-000000000002" => some 2
  | _ => none

def sampleContext : Context Unit where
  storage := plainStorage
  uuid := sampleUuid
  str := toString
  tenantId := "keep"
  action := ⟨"generic_enrich", "user@keep", "Incident enriched"⟩

/-- Two incidents, the first of them enriched. -/
def sampleTables : Tables Unit where
  lastAlerts := []
  incidents := ⟨[1, 2], [⟨"keep", 1, []⟩], [], List.nodup_singleton _⟩

def assign : Request Unit :=
  .incident ⟨[("owner", .text "ana")], List.nodup_singleton _⟩

/-- An incident with a row, twice, and one without. -/
def sampleFingerprints : List String :=
  ["6f1b0e0a-0000-4000-8000-000000000001", "6f1b0e0a-0000-4000-8000-000000000002",
    "6f1b0e0a-0000-4000-8000-000000000001"]

theorem assign_agrees :
    Agrees SameTables sampleTables
      (sampleContext.batchEnrich assign sampleTables sampleFingerprints)
      (inSequence (sampleContext.enrichEntity assign) sampleTables sampleFingerprints) :=
  batchEnrich_agrees sampleContext assign sampleTables sampleFingerprints
    (by
      intro h
      rcases h with ⟨x, rest, s, heq, hfirst, hstop⟩
      cases heq
      cases hfirst
      exact hstop rfl)
    (Or.inl (by simp [sampleFingerprints]))
    ⟨by decide, by decide⟩

/-- The batch rejects a malformed id before it changes anything; the single calls have
enriched an incident by then. -/
theorem malformed_id_disagrees :
    ¬ Agrees SameTables sampleTables
      (sampleContext.batchEnrich assign sampleTables
        ["6f1b0e0a-0000-4000-8000-000000000001", "incident"])
      (inSequence (sampleContext.enrichEntity assign) sampleTables
        ["6f1b0e0a-0000-4000-8000-000000000001", "incident"]) := by
  intro h
  rcases h with ⟨e, e', _, hsequence⟩ | ⟨t, t', hbatch, _⟩
  · have haudits := congrArg (fun r => r.1.incidents.audits.length) hsequence
    cases haudits
  · cases hbatch

end Enrichments
end KeepGateway
