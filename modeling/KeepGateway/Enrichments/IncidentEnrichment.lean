import KeepGateway.Enrichments.LastAlert

/-!
# Incident enrichments

The `incidentenrichment` table, one JSON document for each incident, and the calls
of `db.py` that write it.  The incident id of a row is unique and refers to the
`incident` table.
-/

namespace KeepGateway
namespace Enrichments

/-- A value in a JSON document; the last case is a float, a list or an object, kept
as its text. -/
inductive Json where
  | null
  | bool (b : Bool)
  | number (n : Int)
  | text (s : String)
  | other (json : String) (truthy : Bool)
  deriving DecidableEq, Repr

def Json.truthy : Json -> Bool
  | null => false
  | bool b => b
  | number n => n != 0
  | text s => s != ""
  | other _ truthy => truthy

abbrev Document := List (String × Json)

/-- A document as the values of its keys. -/
abbrev Values := String -> Option Json

/-- The dictionary of an incident enrichment. -/
structure IncidentDict where
  fields : Document
  distinct : Dict.Distinct fields

/-- `not incoming_note or (isinstance(incoming_note, str) and not incoming_note.strip())` -/
def isBlankNote : Option Json -> Bool
  | none => true
  | some (.text s) => s.toList.all isSpace
  | some note => !note.truthy

/-- `if existing_note:` -/
def isKeptNote : Option Json -> Bool
  | none => false
  | some note => note.truthy

/-- A blank incoming note leaves an existing one in place. -/
def guardNote (existing e new : Document) : Document :=
  if isBlankNote (e.lookup "note") then
    match existing.lookup "note" with
    | some note => if note.truthy then Dict.set "note" note new else new
    | none => new
  else new

/-- The keys given as None leave the document. -/
def removeNone (e new : Document) : Document :=
  e.foldl (fun new entry => if entry.2 = .null then Dict.erase entry.1 new else new) new

/-- The document that a call writes over an existing one. -/
def mergeEnrichments (existing e : Document) : Document :=
  removeNone e (guardNote existing e (Dict.update existing e))

structure Audit where
  tenantId : String
  fingerprint : String
  userId : String
  action : String
  description : String
  deriving DecidableEq, Repr

/-- What a call passes on to its audit row. -/
structure Action where
  actionType : String
  actionCallee : String
  actionDescription : String
  deriving DecidableEq, Repr

def Action.audit (action : Action) (tenantId fingerprint : String) : Audit where
  tenantId := tenantId
  fingerprint := fingerprint
  userId := action.actionCallee
  action := action.actionType
  description := action.actionDescription

structure IncidentEnrichment where
  tenantId : String
  incidentId : Nat
  enrichments : Document
  deriving DecidableEq, Repr

structure IncidentTables where
  incidents : List Nat
  rows : List IncidentEnrichment
  audits : List Audit
  unique : (rows.map IncidentEnrichment.incidentId).Nodup

namespace IncidentTables

/-- `get_enrichment_with_session` -/
def find (db : IncidentTables) (tenantId : String) (incidentId : Nat) :
    Option IncidentEnrichment :=
  db.rows.find? fun row => row.tenantId == tenantId && row.incidentId == incidentId

def setDocument (incidentId : Nat) (document : Document) (row : IncidentEnrichment) :
    IncidentEnrichment :=
  if row.incidentId = incidentId then { row with enrichments := document } else row

theorem setDocument_incidentId (incidentId : Nat) (document : Document)
    (row : IncidentEnrichment) :
    (setDocument incidentId document row).incidentId = row.incidentId := by
  unfold setDocument
  split <;> rfl

theorem setDocument_tenantId (incidentId : Nat) (document : Document)
    (row : IncidentEnrichment) :
    (setDocument incidentId document row).tenantId = row.tenantId := by
  unfold setDocument
  split <;> rfl

theorem unique_write (db : IncidentTables) (incidentId : Nat) (document : Document) :
    ((db.rows.map (setDocument incidentId document)).map
      IncidentEnrichment.incidentId).Nodup := by
  have heq : IncidentEnrichment.incidentId ∘ setDocument incidentId document =
      IncidentEnrichment.incidentId :=
    funext (setDocument_incidentId incidentId document)
  rw [List.map_map, heq]
  exact db.unique

/-- `UPDATE incidentenrichment SET enrichments = ..` -/
def write (db : IncidentTables) (incidentId : Nat) (document : Document) : IncidentTables where
  incidents := db.incidents
  rows := db.rows.map (setDocument incidentId document)
  audits := db.audits
  unique := unique_write db incidentId document

/-- An `INSERT` for the incident meets the foreign key and the unique key. -/
def Insertable (db : IncidentTables) (incidentId : Nat) : Prop :=
  incidentId ∈ db.incidents ∧ incidentId ∉ db.rows.map IncidentEnrichment.incidentId

instance (db : IncidentTables) (incidentId : Nat) : Decidable (db.Insertable incidentId) :=
  inferInstanceAs (Decidable (_ ∧ _))

theorem unique_insert (db : IncidentTables) (row : IncidentEnrichment)
    (h : db.Insertable row.incidentId) :
    ((db.rows ++ [row]).map IncidentEnrichment.incidentId).Nodup := by
  rw [List.map_append]
  apply List.nodup_append.mpr
  refine ⟨db.unique, List.nodup_singleton _, ?_⟩
  intro a ha b hb heq
  rw [List.map_singleton, List.mem_singleton] at hb
  rw [heq, hb] at ha
  exact h.2 ha

def insert (db : IncidentTables) (row : IncidentEnrichment)
    (h : db.Insertable row.incidentId) : IncidentTables where
  incidents := db.incidents
  rows := db.rows ++ [row]
  audits := db.audits
  unique := unique_insert db row h

def addAudits (db : IncidentTables) (audits : List Audit) : IncidentTables :=
  { db with audits := db.audits ++ audits }

end IncidentTables

/-!
## One call
-/

/-- `_enrich_incident`.  An `IntegrityError` of the insert is rolled back together
with the audit row, and the call returns. -/
def enrichIncident (str : Nat -> String) (db : IncidentTables) (tenantId : String)
    (incidentId : Nat) (e : Document) (force : Bool) (action : Action) : IncidentTables :=
  let audit := action.audit tenantId (str incidentId)
  match db.find tenantId incidentId with
  | some row =>
      let document := if force then removeNone e e else mergeEnrichments row.enrichments e
      (db.write incidentId document).addAudits [audit]
  | none =>
      if h : db.Insertable incidentId then
        (db.insert ⟨tenantId, incidentId, e⟩ h).addAudits [audit]
      else db

/-!
## The document after a call
-/

theorem lookup_removeNone {e : Document} (he : Dict.Distinct e) (new : Document) (key : String) :
    (removeNone e new).lookup key =
      if e.lookup key = some .null then none else new.lookup key := by
  induction e generalizing new with
  | nil => rfl
  | cons entry rest ih =>
      rcases entry with ⟨k, v⟩
      rcases List.nodup_cons.mp he with ⟨hfresh, hrest⟩
      show (removeNone rest (if v = .null then Dict.erase k new else new)).lookup key = _
      rw [ih hrest, Dict.lookup_cons_eq]
      by_cases hk : k = key
      · subst hk
        rw [Dict.lookup_eq_none.mpr hfresh]
        by_cases hv : v = .null
        · simp [hv, Dict.lookup_erase]
        · simp [hv]
      · by_cases hv : v = .null
        · simp [hv, hk, Dict.lookup_erase]
        · simp [hv, hk]

theorem lookup_guardNote (existing e new : Document) (key : String) :
    (guardNote existing e new).lookup key =
      if key = "note" ∧ isBlankNote (e.lookup "note") = true ∧
          isKeptNote (existing.lookup "note") = true then
        existing.lookup "note"
      else new.lookup key := by
  unfold guardNote
  cases hblank : isBlankNote (e.lookup "note") with
  | false => simp
  | true =>
      cases hnote : existing.lookup "note" with
      | none => simp [isKeptNote]
      | some note =>
          cases htruthy : note.truthy with
          | false => simp [isKeptNote, htruthy]
          | true =>
              simp only [isKeptNote, htruthy, if_true, and_true]
              rw [Dict.lookup_set]
              by_cases hkey : key = "note"
              · simp [hkey]
              · simp [hkey, Ne.symm hkey]

theorem lookup_mergeEnrichments (existing : Document) {e : Document} (he : Dict.Distinct e)
    (key : String) :
    (mergeEnrichments existing e).lookup key =
      if e.lookup key = some .null then none
      else if key = "note" ∧ isBlankNote (e.lookup "note") = true ∧
          isKeptNote (existing.lookup "note") = true then
        existing.lookup "note"
      else (e.lookup key).or (existing.lookup key) := by
  unfold mergeEnrichments
  rw [lookup_removeNone he, lookup_guardNote, Dict.lookup_update existing he]

/-!
## Rows after a call
-/

namespace IncidentTables

theorem find_eq_some {db : IncidentTables} {tenantId : String} {incidentId : Nat}
    {row : IncidentEnrichment} (h : db.find tenantId incidentId = some row) :
    row ∈ db.rows ∧ row.tenantId = tenantId ∧ row.incidentId = incidentId := by
  have hp := List.find?_some h
  simp only [Bool.and_eq_true, beq_iff_eq] at hp
  exact ⟨List.mem_of_find?_eq_some h, hp⟩

theorem find_write (db : IncidentTables) (tenantId : String) (incidentId other : Nat)
    (document : Document) :
    (db.write incidentId document).find tenantId other =
      (db.find tenantId other).map (setDocument incidentId document) := by
  unfold find write
  rw [List.find?_map]
  congr 2
  funext row
  simp [setDocument_incidentId, setDocument_tenantId]

theorem find_write_self {db : IncidentTables} {tenantId : String} {incidentId : Nat}
    {row : IncidentEnrichment} (h : db.find tenantId incidentId = some row)
    (document : Document) :
    (db.write incidentId document).find tenantId incidentId =
      some { row with enrichments := document } := by
  rw [find_write, h, Option.map_some, setDocument, if_pos (find_eq_some h).2.2]

theorem find_insert (db : IncidentTables) (row : IncidentEnrichment)
    (h : db.Insertable row.incidentId) :
    (db.insert row h).find row.tenantId row.incidentId = some row := by
  have hnone : (db.rows.find? fun r =>
      r.tenantId == row.tenantId && r.incidentId == row.incidentId) = none := by
    apply List.find?_eq_none.mpr
    intro r hr hmatch
    simp only [Bool.and_eq_true, beq_iff_eq] at hmatch
    exact h.2 (List.mem_map.mpr ⟨r, hr, hmatch.2⟩)
  unfold find insert
  rw [List.find?_append, hnone]
  simp

theorem find_write_ne (db : IncidentTables) (tenantId : String) {incidentId other : Nat}
    (h : other ≠ incidentId) (document : Document) :
    (db.write incidentId document).find tenantId other = db.find tenantId other := by
  rw [find_write]
  cases hrow : db.find tenantId other with
  | none => rfl
  | some row =>
      have hid : row.incidentId ≠ incidentId := by
        rw [(find_eq_some hrow).2.2]
        exact h
      rw [Option.map_some, setDocument, if_neg hid]

theorem find_insert_ne (db : IncidentTables) (row : IncidentEnrichment)
    (h : db.Insertable row.incidentId) {tenantId : String} {incidentId : Nat}
    (hne : ¬ (tenantId = row.tenantId ∧ incidentId = row.incidentId)) :
    (db.insert row h).find tenantId incidentId = db.find tenantId incidentId := by
  have hother : (row.tenantId == tenantId && row.incidentId == incidentId) = false := by
    apply Bool.eq_false_iff.mpr
    intro hmatch
    simp only [Bool.and_eq_true, beq_iff_eq] at hmatch
    exact hne ⟨hmatch.1.symm, hmatch.2.symm⟩
  unfold find insert
  rw [List.find?_append, List.find?_cons, hother]
  simp

/-- Only one tenant has a row for an incident. -/
theorem find_other_tenant {db : IncidentTables} {tenantId other : String} {incidentId : Nat}
    {row : IncidentEnrichment} (h : db.find tenantId incidentId = some row)
    (hne : other ≠ tenantId) : db.find other incidentId = none := by
  cases hother : db.find other incidentId with
  | none => rfl
  | some row' =>
      rcases find_eq_some h with ⟨hmem, htenant, hid⟩
      rcases find_eq_some hother with ⟨hmem', htenant', hid'⟩
      have hsame : row' = row :=
        List.inj_on_of_nodup_map db.unique hmem' hmem (hid'.trans hid.symm)
      rw [← htenant', hsame, htenant] at hne
      exact absurd rfl hne

@[simp]
theorem find_addAudits (db : IncidentTables) (audits : List Audit) :
    (db.addAudits audits).find = db.find :=
  rfl

end IncidentTables

end Enrichments
end KeepGateway
