import KeepGateway.Lib.Except
import Mathlib.Data.List.Dedup

/-!
# Incidents and their alerts

The `lastalerttoincident` and `incident` tables of one tenant, and the two calls
of `db.py` that link alerts to an incident and unlink them.  Both commit the
links first and the aggregates of the incident afterwards, so each is written as
two parts.
-/

namespace KeepGateway
namespace Incidents

/-- What ends a call, other than an error of the database. -/
inductive Failure where
  | nameError (name : String)
  | valueError (message : String)
  | destinationIncidentNotFound (message : String)
  deriving DecidableEq, Repr

inductive IncidentSeverity where
  | critical
  | high
  | warning
  | info
  | low
  deriving DecidableEq, Repr

def IncidentSeverity.order : IncidentSeverity -> Nat
  | critical => 5
  | high => 4
  | warning => 3
  | info => 2
  | low => 1

/-- `IncidentSeverity(severity)` -/
def IncidentSeverity.ofValue (value : String) : Except Failure IncidentSeverity :=
  if value = "critical" then .ok critical
  else if value = "high" then .ok high
  else if value = "warning" then .ok warning
  else if value = "info" then .ok info
  else if value = "low" then .ok low
  else .error (.valueError ("'" ++ value ++ "' is not a valid IncidentSeverity"))

inductive Status where
  | firing
  | resolved
  | acknowledged
  | merged
  | deleted
  deriving DecidableEq, Repr

/-- The columns of `alert` that a fingerprint's last alert shows. -/
structure LastAlert where
  service : Option String
  providerType : String
  severity : Option String
  deriving DecidableEq, Repr

abbrev LastAlerts := String -> LastAlert

/-- A row of `lastalerttoincident`; no time is `NULL_FOR_DELETED_AT`. -/
structure Link where
  incident : Nat
  fingerprint : String
  deletedAt : Option Nat
  deriving DecidableEq, Repr

/-- The link after the `UPDATE` of the remove step. -/
def Link.unlink (now id : Nat) (fingerprints : List String) (l : Link) : Link :=
  if l.deletedAt = none ∧ l.incident = id ∧ l.fingerprint ∈ fingerprints then
    { l with deletedAt := some now }
  else l

structure Incident where
  id : Nat
  status : Status
  mergedInto : Option Nat
  mergedBy : Option String
  severity : Nat
  forcedSeverity : Bool
  alertsCount : Nat
  affectedServices : List String
  sources : List String
  deriving DecidableEq, Repr

/-- The columns that `update(Incident)` sets. -/
structure Aggregates where
  alertsCount : Nat
  affectedServices : List String
  severity : Nat
  sources : List String

def Incident.setAggregates (a : Aggregates) (row : Incident) : Incident :=
  { row with
    alertsCount := a.alertsCount
    affectedServices := a.affectedServices
    severity := a.severity
    sources := a.sources }

theorem Incident.setAggregates_id (a : Aggregates) (row : Incident) :
    (row.setAggregates a).id = row.id :=
  rfl

structure Db where
  links : List Link
  incidents : List Incident
  primaryKey : (incidents.map Incident.id).Nodup

namespace Db

def find (db : Db) (id : Nat) : Option Incident :=
  db.incidents.find? fun row => row.id == id

theorem primaryKey_update (db : Db) (id : Nat) (f : Incident -> Incident)
    (hf : forall row, (f row).id = row.id) :
    ((db.incidents.map fun row => if row.id = id then f row else row).map Incident.id).Nodup := by
  have heq : (Incident.id ∘ fun row => if row.id = id then f row else row) = Incident.id := by
    funext row
    by_cases h : row.id = id <;> simp [h, hf]
  rw [List.map_map, heq]
  exact db.primaryKey

/-- `UPDATE incident .. WHERE id = ..` -/
def update (db : Db) (id : Nat) (f : Incident -> Incident) (hf : forall row, (f row).id = row.id) :
    Db where
  links := db.links
  incidents := db.incidents.map fun row => if row.id = id then f row else row
  primaryKey := primaryKey_update db id f hf

def setAggregates (db : Db) (id : Nat) (a : Aggregates) : Db :=
  db.update id (Incident.setAggregates a) (Incident.setAggregates_id a)

/-- The fingerprints actively linked to an incident, one for each link. -/
def active (db : Db) (id : Nat) : List String :=
  (db.links.filter fun l => l.incident = id ∧ l.deletedAt = none).map Link.fingerprint

/-- The fingerprints that were linked to an incident and unlinked. -/
def unlinked (db : Db) (id : Nat) : List String :=
  (db.links.filter fun l => l.incident = id ∧ l.deletedAt ≠ none).map Link.fingerprint

def link (db : Db) (id : Nat) (fingerprints : List String) : Db :=
  { db with
    links := db.links ++ fingerprints.map fun fingerprint =>
      { incident := id, fingerprint := fingerprint, deletedAt := none } }

def unlink (db : Db) (now id : Nat) (fingerprints : List String) : Db :=
  { db with links := db.links.map (Link.unlink now id fingerprints) }

/-- The fingerprints that the add step links, in the order of the request. -/
def newFingerprints (db : Db) (id : Nat) (fingerprints : List String) (excludeUnlinked : Bool) :
    List String :=
  let new := fingerprints.dedup.filter fun f => f ∉ db.active id
  if excludeUnlinked then new.filter fun f => f ∉ db.unlinked id else new

end Db

/-!
## Aggregated data
-/

/-- `if value:` for a nullable text. -/
def nonEmpty (value : Option String) : Option String :=
  value.filter fun text => text != ""

structure AlertsData where
  sources : List String
  services : List String
  maxSeverity : IncidentSeverity

/-- `max(severities) if severities else IncidentSeverity.LOW` -/
def maxSeverity : List IncidentSeverity -> IncidentSeverity
  | [] => .low
  | first :: rest => rest.foldl (fun a b => if a.order < b.order then b else a) first

/-- One row for each last alert among the fingerprints. -/
def getAlertsDataForIncident (alerts : LastAlerts) (fingerprints : List String) :
    Except Failure AlertsData := do
  let rows := fingerprints.dedup.map alerts
  let severities <- (rows.filterMap fun row => nonEmpty row.severity).mapM IncidentSeverity.ofValue
  return {
    sources := (rows.filterMap fun row => nonEmpty (some row.providerType)).dedup
    services := (rows.filterMap fun row => nonEmpty row.service).dedup
    maxSeverity := maxSeverity severities }

/-!
## Adding alerts
-/

/-- The rest of the add step, for the fingerprints it linked. -/
def updateAfterAdd (alerts : LastAlerts) (db : Db) (id : Nat) (new : List String) :
    Except Failure Db := do
  let data <- getAlertsDataForIncident alerts new
  match db.find id with
  | none => return db
  | some row =>
      return db.setAggregates id {
        alertsCount := (db.active id).length
        affectedServices := (row.affectedServices ++ data.services).dedup
        severity :=
          if row.forcedSeverity then row.severity
          else if row.alertsCount ≠ 0 then max row.severity data.maxSeverity.order
          else data.maxSeverity.order
        sources := (row.sources ++ data.sources).dedup }

def addAlertsToIncident (alerts : LastAlerts) (db : Db) (id : Nat) (fingerprints : List String)
    (excludeUnlinked : Bool) : Except Failure Db :=
  let new := db.newFingerprints id fingerprints excludeUnlinked
  if new = [] then .ok db else updateAfterAdd alerts (db.link id new) id new

/-!
## Removing alerts
-/

/-- Nothing in the program defines the name. -/
def getIntSeverity (_severity : Option String) : Except Failure Nat :=
  .error (.nameError "get_int_severity")

/-- `[x for x in xs if x not in result]` over a result that yields each row once: a test
takes the rows up to the one it finds. -/
def notInResult : List String -> List String -> List String
  | [], _ => []
  | x :: xs, rows =>
      if x ∈ rows then notInResult xs (rows.dropWhile fun row => row != x).tail
      else x :: notInResult xs []

/-- The rest of the remove step, for the fingerprints it was given. -/
def updateAfterRemoval (alerts : LastAlerts) (db : Db) (id : Nat) (fingerprints : List String)
    (row : Incident) : Except Failure Db := do
  let data <- getAlertsDataForIncident alerts fingerprints
  let remaining := (db.active id).map alerts
  let servicesExisted := (remaining.filterMap LastAlert.service).dedup.filter fun s =>
    s ∈ data.services
  let sourcesExisted := (remaining.map LastAlert.providerType).dedup.filter fun s =>
    s ∈ data.sources
  let updatedSeverities <- (remaining.map LastAlert.severity).mapM getIntSeverity
  let servicesToRemove := notInResult data.services servicesExisted
  let sourcesToRemove := notInResult data.sources sourcesExisted
  return db.setAggregates id {
    alertsCount := (db.active id).length
    affectedServices := row.affectedServices.filter fun s => s ∉ servicesToRemove
    severity :=
      if row.forcedSeverity then row.severity
      else updatedSeverities.max?.getD IncidentSeverity.low.order
    sources := row.sources.filter fun s => s ∉ sourcesToRemove }

/-- With the number of links it removed, where the incident exists. -/
def removeAlertsToIncidentByIncidentId (alerts : LastAlerts) (now : Nat) (db : Db) (id : Nat)
    (fingerprints : List String) : Except Failure (Db × Option Nat) :=
  match db.find id with
  | none => .ok (db, none)
  | some row => do
      let deleted := (db.active id).countP fun f => f ∈ fingerprints
      let db' <- updateAfterRemoval alerts (db.unlink now id fingerprints) id fingerprints row
      return (db', some deleted)

/-!
## Links under the operations
-/

@[simp]
theorem Db.active_setAggregates (db : Db) (id : Nat) (a : Aggregates) :
    (db.setAggregates id a).active = db.active :=
  rfl

/-- The rest of the add step writes the aggregates of the incident, where it exists. -/
theorem updateAfterAdd_writes {alerts : LastAlerts} {db db' : Db} {id : Nat} {new : List String}
    (h : updateAfterAdd alerts db id new = .ok db') :
    db' = db ∨ exists aggregates, db' = db.setAggregates id aggregates := by
  unfold updateAfterAdd at h
  rcases bind_eq_ok.mp h with ⟨data, _, h⟩
  cases hfind : db.find id with
  | none =>
      rw [hfind] at h
      cases h
      exact .inl rfl
  | some row =>
      rw [hfind] at h
      cases h
      exact .inr ⟨_, rfl⟩

/-- The rest of the remove step writes the aggregates of the incident. -/
theorem updateAfterRemoval_writes {alerts : LastAlerts} {db db' : Db} {id : Nat}
    {fingerprints : List String} {row : Incident}
    (h : updateAfterRemoval alerts db id fingerprints row = .ok db') :
    exists aggregates, db' = db.setAggregates id aggregates := by
  unfold updateAfterRemoval at h
  rcases bind_eq_ok.mp h with ⟨data, _, h⟩
  rcases bind_eq_ok.mp h with ⟨orders, _, h⟩
  cases h
  exact ⟨_, rfl⟩

theorem Db.active_link (db : Db) (id other : Nat) (fingerprints : List String) :
    (db.link id fingerprints).active other =
      if id = other then db.active other ++ fingerprints else db.active other := by
  unfold Db.active Db.link
  rw [List.filter_append, List.map_append]
  by_cases h : id = other
  · rw [if_pos h]
    congr 1
    rw [List.filter_eq_self.mpr]
    · rw [List.map_map]
      exact List.map_id _
    · intro l hl
      rcases List.mem_map.mp hl with ⟨f, _, heq⟩
      rw [← heq]
      simp [h]
  · rw [if_neg h]
    have hnone : (fingerprints.map fun fingerprint =>
        ({ incident := id, fingerprint := fingerprint, deletedAt := none } : Link)).filter
          (fun l => l.incident = other ∧ l.deletedAt = none) = [] := by
      apply List.filter_eq_nil_iff.mpr
      intro l hl
      rcases List.mem_map.mp hl with ⟨f, _, heq⟩
      rw [← heq]
      simp [h]
    rw [hnone]
    exact List.append_nil _

/-- Whether a link is active in an incident after the `UPDATE`. -/
theorem Link.unlink_active (now id other : Nat) (fingerprints : List String) (l : Link) :
    ((l.unlink now id fingerprints).incident = other ∧
        (l.unlink now id fingerprints).deletedAt = none) <->
      (l.incident = other ∧ l.deletedAt = none) ∧
        ¬ (id = other ∧ l.fingerprint ∈ fingerprints) := by
  unfold Link.unlink
  by_cases hguard : l.deletedAt = none ∧ l.incident = id ∧ l.fingerprint ∈ fingerprints
  · rw [if_pos hguard]
    constructor
    · rintro ⟨_, hdeleted⟩
      cases hdeleted
    · rintro ⟨⟨hincident, _⟩, hnot⟩
      exact absurd ⟨hguard.2.1.symm.trans hincident, hguard.2.2⟩ hnot
  · rw [if_neg hguard]
    constructor
    · rintro ⟨hincident, hdeleted⟩
      refine ⟨⟨hincident, hdeleted⟩, ?_⟩
      rintro ⟨hid, hmem⟩
      exact hguard ⟨hdeleted, hincident.trans hid.symm, hmem⟩
    · exact fun h => h.1

theorem Link.unlink_fingerprint (now id : Nat) (fingerprints : List String) (l : Link) :
    (l.unlink now id fingerprints).fingerprint = l.fingerprint := by
  unfold Link.unlink
  split <;> rfl

theorem Db.active_unlink (db : Db) (now id other : Nat) (fingerprints : List String) :
    (db.unlink now id fingerprints).active other =
      (db.active other).filter fun f => ¬ (id = other ∧ f ∈ fingerprints) := by
  unfold Db.active Db.unlink
  rw [List.filter_map, List.map_map, List.filter_map, List.filter_filter]
  have hfingerprint : Link.fingerprint ∘ Link.unlink now id fingerprints = Link.fingerprint :=
    funext (Link.unlink_fingerprint now id fingerprints)
  rw [hfingerprint]
  congr 1
  apply List.filter_congr
  intro l _
  have hactive := Link.unlink_active now id other fingerprints l
  simp only [Function.comp_apply, ← Bool.decide_and]
  apply decide_eq_decide.mpr
  rw [hactive]
  exact and_comm

theorem Db.mem_newFingerprints {db : Db} {id : Nat} {fingerprints : List String} {f : String}
    {excludeUnlinked : Bool} (h : f ∈ db.newFingerprints id fingerprints excludeUnlinked) :
    f ∈ fingerprints ∧ f ∉ db.active id := by
  have hplain : f ∈ fingerprints.dedup.filter fun f => f ∉ db.active id := by
    unfold Db.newFingerprints at h
    cases excludeUnlinked with
    | false => exact h
    | true => exact List.mem_of_mem_filter h
  rcases List.mem_filter.mp hplain with ⟨hmem, hnot⟩
  exact ⟨List.mem_dedup.mp hmem, by simpa using hnot⟩

end Incidents
end KeepGateway
