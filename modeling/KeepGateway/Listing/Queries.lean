import KeepGateway.Cel.CelToSql
import KeepGateway.Lib.DistinctRows
import Mathlib.Data.List.Sort

/-!
# The list queries

The queries that list alerts and incidents, and those that count them, as lists of joined
rows.  The order of the rows, limits and offsets are left out.  `C` are the columns of a
table that no query reads by itself, and `V` the values of SQL expressions.
-/

namespace KeepGateway
namespace Listing

open Cel (Celpy CelToSqlResult Dialect Failure PropertyMetadataInfo Provider)

/-!
## Tables
-/

structure Alert (C : Type) where
  id : Nat
  tenantId : String
  timestamp : Nat
  columns : C
  deriving DecidableEq, Repr

structure LastAlert (C : Type) where
  tenantId : String
  fingerprint : String
  alertId : Nat
  timestamp : Nat
  columns : C
  deriving DecidableEq, Repr

/-- A link stays in its table when it is deleted. -/
structure LastAlertToIncident where
  tenantId : String
  fingerprint : String
  incidentId : Nat
  deletedAt : Nat
  deriving DecidableEq, Repr

structure Incident (C : Type) where
  id : Nat
  tenantId : String
  status : String
  isVisible : Bool
  isCandidate : Bool
  isPredicted : Option Bool
  startTime : Option Nat
  lastSeenTime : Option Nat
  sameIncidentInThePastId : Option Nat
  columns : C
  deriving DecidableEq, Repr

structure IncidentEnrichment (C : Type) where
  tenantId : String
  incidentId : Nat
  columns : C
  deriving DecidableEq, Repr

structure Database (C : Type) where
  alerts : List (Alert C)
  lastAlerts : List (LastAlert C)
  links : List LastAlertToIncident
  incidents : List (Incident C)
  enrichments : List (IncidentEnrichment C)

/-- What the database makes of SQL text on a joined row. -/
structure Evaluation (R V : Type) where
  holds : String -> R -> Bool
  value : String -> R -> V

/-- `text in cel` -/
def containsText (text cel : String) : Bool :=
  cel.toList.tails.any fun rest => text.toList.isPrefixOf rest

/-- Whether a field whose name starts with a text is involved. -/
def involves (text : String) (involvedFields : List PropertyMetadataInfo) : Bool :=
  involvedFields.any fun field => text.toList.isPrefixOf field.fieldName.toList

section Conversion

variable (p : Provider) (celpy : Celpy)

/-- Without a filter there is no condition. -/
def convert : Option String -> Except Failure CelToSqlResult
  | none => .ok ⟨"", []⟩
  | some cel => p.convertToSqlStr celpy cel

end Conversion

/-!
## Alerts
-/

structure AlertRow (C : Type) where
  lastAlert : LastAlert C
  alert : Alert C
  link : Option LastAlertToIncident
  incident : Option (Incident C)

structure AlertQuery where
  tenantId : String
  cel : Option String
  /-- The SQL expressions of the sort options. -/
  distinctColumns : List String

section Alerts

variable {C V : Type} (db : Database C)

/-- `firing_subq` -/
def firingFingerprints : List String :=
  (db.lastAlerts.filter fun lastAlert =>
    db.links.any fun link =>
      lastAlert.fingerprint == link.fingerprint &&
        db.incidents.any fun incident =>
          link.incidentId == incident.id && incident.status == "firing").map
    LastAlert.fingerprint

/-- `get_threeshold_query`; nothing stands for the earliest time. -/
def threshold (hardLimit : Nat) (tenantId : String) : Option Nat :=
  (((db.lastAlerts.filter fun lastAlert => lastAlert.tenantId == tenantId).map
    LastAlert.timestamp).insertionSort fun a b => b <= a)[hardLimit - 1]?

/-- The last alerts with their alerts. -/
def joinAlerts : List (AlertRow C) :=
  (Rows.join
    (fun (lastAlert : LastAlert C) (alert : Alert C) =>
      alert.id == lastAlert.alertId && alert.tenantId == lastAlert.tenantId)
    db.lastAlerts db.alerts).map fun r => ⟨r.1, r.2, none, none⟩

def joinLinks (rows : List (AlertRow C)) : List (AlertRow C) :=
  (Rows.leftJoin
    (fun (row : AlertRow C) link =>
      row.lastAlert.tenantId == link.tenantId && row.lastAlert.fingerprint == link.fingerprint)
    rows db.links).map fun r => { r.1 with link := r.2 }

def joinIncidents (rows : List (AlertRow C)) : List (AlertRow C) :=
  (Rows.leftJoin
    (fun (row : AlertRow C) (incident : Incident C) =>
      (row.link.any fun link =>
        link.tenantId == incident.tenantId && link.incidentId == incident.id) &&
          (firingFingerprints db).contains row.lastAlert.fingerprint)
    rows db.incidents).map fun r => { r.1 with incident := r.2 }

def fromLastAlert (fetchIncidents : Bool) : List (AlertRow C) :=
  if fetchIncidents then joinIncidents db (joinLinks db (joinAlerts db)) else joinAlerts db

variable (p : Provider) (celpy : Celpy) (evaluation : Evaluation (AlertRow C) V)
  (hardLimit : Nat) (query : AlertQuery)

/-- `__build_query_for_filtering`: the rows, and whether incidents are joined. -/
def buildQueryForFiltering : Except Failure (List (AlertRow C) × Bool) := do
  let result <- convert p celpy query.cel
  let fetchIncidents := involves "incident." result.involvedFields
  .ok ((fromLastAlert db fetchIncidents).filter fun row =>
    row.lastAlert.tenantId == query.tenantId &&
      (threshold db hardLimit query.tenantId).all (fun t => t <= row.lastAlert.timestamp) &&
      (result.sql == "" || evaluation.holds result.sql row), fetchIncidents)

/-- What the total counts: alerts, or joined rows. -/
def alertCountKey : Option (AlertRow C -> Nat) :=
  if query.cel.any (containsText "incident.") then some fun row => row.lastAlert.alertId
  else none

/-- `build_total_alerts_query` -/
def buildTotalAlertsQuery : Except Failure Nat := do
  let (rows, _) <- buildQueryForFiltering db p celpy evaluation hardLimit query
  .ok (Rows.kept (alertCountKey query) rows).length

/-- What a distinct row is: PostgreSQL keeps one row for each value of the columns given,
the other dialects leave out equal rows. -/
def alertListKey (fetchIncidents : Bool) :
    Option (AlertRow C -> List V × Nat × Option (Alert C × LastAlert C)) :=
  if fetchIncidents then
    some fun row =>
      (query.distinctColumns.map fun column => evaluation.value column row, row.alert.id,
        match p.dialect with
        | .postgresql => none
        | _ => some (row.alert, row.lastAlert))
  else none

/-- `build_alerts_query` -/
def buildAlertsQuery [DecidableEq C] [DecidableEq V] : Except Failure (List (AlertRow C)) := do
  let (rows, fetchIncidents) <- buildQueryForFiltering db p celpy evaluation hardLimit query
  .ok (Rows.kept (alertListKey p evaluation query fetchIncidents) rows)

end Alerts

/-!
## Incidents
-/

structure IncidentRow (C : Type) where
  incident : Incident C
  link : Option LastAlertToIncident
  lastAlert : Option (LastAlert C)
  alert : Option (Alert C)
  enrichment : Option (IncidentEnrichment C)
  hasLinkedIncident : Option Bool

/-- What the list query selects. -/
structure SelectedIncident (C : Type) where
  incident : Incident C
  enrichment : Option (IncidentEnrichment C)
  deriving DecidableEq, Repr

structure IncidentQuery where
  tenantId : String
  cel : Option String
  isCandidate : Bool
  isPredicted : Option Bool
  allowedIncidentIds : List Nat
  /-- The start of the timeframe. -/
  startedSince : Option Nat
  upperTimestamp : Option Nat
  lowerTimestamp : Option Nat
  /-- The SQL expressions of the sort options. -/
  distinctColumns : List String

/-- The filters that both queries add to the condition; no comparison holds of NULL. -/
def IncidentQuery.admits {C : Type} (query : IncidentQuery) (incident : Incident C) : Bool :=
  incident.isCandidate == query.isCandidate &&
    (query.allowedIncidentIds.isEmpty || query.allowedIncidentIds.contains incident.id) &&
    (query.isPredicted.isNone || incident.isPredicted == query.isPredicted) &&
    (query.startedSince.all fun since => incident.startTime.any fun t => since <= t) &&
    (query.upperTimestamp.all fun upper => incident.lastSeenTime.any fun t => t <= upper) &&
    (query.lowerTimestamp.all fun lower => incident.lastSeenTime.any fun t => lower <= t)

section Incidents

variable {C V : Type} (db : Database C)

def incidentRow (incident : Incident C) : IncidentRow C := ⟨incident, none, none, none, none, none⟩

/-- The links of the incidents, with the alerts they lead to. -/
def joinLinkedAlerts (tenantId : String) (rows : List (IncidentRow C)) : List (IncidentRow C) :=
  let linked := (Rows.leftJoin
    (fun (row : IncidentRow C) (link : LastAlertToIncident) =>
      link.incidentId == row.incident.id && link.tenantId == tenantId)
    rows db.links).map fun r => { r.1 with link := r.2 }
  let lastAlerts := (Rows.leftJoin
    (fun (row : IncidentRow C) (lastAlert : LastAlert C) =>
      lastAlert.tenantId == tenantId &&
        row.link.any fun link => lastAlert.fingerprint == link.fingerprint)
    linked db.lastAlerts).map fun r => { r.1 with lastAlert := r.2 }
  (Rows.leftJoin
    (fun (row : IncidentRow C) (alert : Alert C) =>
      row.lastAlert.any fun lastAlert =>
        lastAlert.alertId == alert.id && lastAlert.tenantId == tenantId)
    lastAlerts db.alerts).map fun r => { r.1 with alert := r.2 }

def joinEnrichments (rows : List (IncidentRow C)) : List (IncidentRow C) :=
  (Rows.leftJoin
    (fun (row : IncidentRow C) (enrichment : IncidentEnrichment C) =>
      row.incident.tenantId == enrichment.tenantId && row.incident.id == enrichment.incidentId)
    rows db.enrichments).map fun r => { r.1 with enrichment := r.2 }

/-- The join of `addional_incident_fields`. -/
def joinHasLinkedIncident (rows : List (IncidentRow C)) : List (IncidentRow C) :=
  (Rows.join
    (fun (row : IncidentRow C) (other : Incident C) => row.incident.id == other.id)
    rows db.incidents).map fun r =>
      { r.1 with hasLinkedIncident := some r.2.sameIncidentInThePastId.isSome }

def fromIncident (tenantId : String) (fetchAlerts fetchHasLinkedIncident : Bool) :
    List (IncidentRow C) :=
  let incidents := db.incidents.map incidentRow
  let rows := joinEnrichments db
    (if fetchAlerts then joinLinkedAlerts db tenantId incidents else incidents)
  if fetchHasLinkedIncident then joinHasLinkedIncident db rows else rows

variable (p : Provider) (celpy : Celpy) (evaluation : Evaluation (IncidentRow C) V)
  (query : IncidentQuery)

/-- `__build_base_incident_query` and the filters after it: the rows, and whether alerts are
joined. -/
def buildBaseIncidentQuery : Except Failure (List (IncidentRow C) × Bool) := do
  let result <- convert p celpy query.cel
  let fetchAlerts := involves "alert." result.involvedFields
  let fetchHasLinkedIncident := result.involvedFields.any fun field =>
    field.fieldName == "hasLinkedIncident"
  let rows := fromIncident db query.tenantId fetchAlerts fetchHasLinkedIncident
  .ok (rows.filter fun row =>
    row.incident.tenantId == query.tenantId && row.incident.isVisible &&
      (result.sql == "" || evaluation.holds result.sql row) && query.admits row.incident,
    fetchAlerts)

/-- What the total counts: incidents, or joined rows. -/
def incidentCountKey : Option (IncidentRow C -> Nat) :=
  if query.cel.any (containsText "alert.") then some fun row => row.incident.id else none

/-- `__build_last_incidents_total_count_query` -/
def buildLastIncidentsTotalCountQuery : Except Failure Nat := do
  let (rows, _) <- buildBaseIncidentQuery db p celpy evaluation query
  .ok (Rows.kept (incidentCountKey query) rows).length

/-- What a distinct row is; outside PostgreSQL the sort columns are not selected. -/
def incidentListKey (fetchAlerts : Bool) :
    Option (IncidentRow C -> List V × Nat × Option (SelectedIncident C)) :=
  if fetchAlerts then
    some fun row =>
      match p.dialect with
      | .postgresql =>
          (query.distinctColumns.map fun column => evaluation.value column row,
            row.incident.id, none)
      | _ => ([], row.incident.id, some ⟨row.incident, row.enrichment⟩)
  else none

/-- `__build_last_incidents_query` -/
def buildLastIncidentsQuery [DecidableEq C] [DecidableEq V] :
    Except Failure (List (IncidentRow C)) := do
  let (rows, fetchAlerts) <- buildBaseIncidentQuery db p celpy evaluation query
  .ok (Rows.kept (incidentListKey p evaluation query fetchAlerts) rows)

end Incidents

end Listing
end KeepGateway
