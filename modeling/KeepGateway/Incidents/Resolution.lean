import KeepGateway.Incidents.Store
import KeepGateway.Lib.DistinctRows
import KeepGateway.Lib.GroupedRows
import KeepGateway.Lib.Truth

/-!
# Resolution of incidents

The queries of `db.py` that say whether all alerts of an incident, its first one or its last one
are resolved.  The tables are those of one tenant.
-/

namespace KeepGateway
namespace Incidents

open Rows

/-!
## Tables
-/

structure AlertRow where
  id : Nat
  fingerprint : String
  timestamp : Nat
  status : Option String
  deriving DecidableEq, Repr

/-- `status` is the override. -/
structure LastAlertRow where
  fingerprint : String
  alertId : Nat
  status : Option String
  deriving DecidableEq, Repr

structure Tables where
  alerts : List AlertRow
  lastAlerts : List LastAlertRow
  links : List Link

/-- The keys of the tables: one last alert for each fingerprint, which every link has, and for
every last alert its alert. -/
structure Tables.WellFormed (tables : Tables) : Prop where
  alertKey : (tables.alerts.map AlertRow.id).Nodup
  lastAlertKey : (tables.lastAlerts.map LastAlertRow.fingerprint).Nodup
  linked : forall link, link ∈ tables.links ->
    exists lastAlert, lastAlert ∈ tables.lastAlerts ∧ lastAlert.fingerprint = link.fingerprint
  current : forall lastAlert, lastAlert ∈ tables.lastAlerts ->
    exists alert, alert ∈ tables.alerts ∧ alert.id = lastAlert.alertId ∧
      alert.fingerprint = lastAlert.fingerprint

/-- `AlertStatus.RESOLVED.value` -/
def resolvedStatus : String := "resolved"

/-!
## All alerts
-/

/-- `column != value` -/
def notEqual (column : Option String) (value : String) : Truth :=
  match column with
  | none => .unknown
  | some text => .ofBool (text != value)

/-- The condition on the two statuses of a row. -/
def notInStatus (status : String) (row : LastAlertRow × AlertRow) : Truth :=
  Truth.or (notEqual row.1.status status)
    (Truth.and (.ofBool row.1.status.isNone) (notEqual row.2.status status))

/-- `incident.alerts_count == 0`, where an incident is given. -/
def hasNoAlerts (incident : Option Incident) : Bool :=
  incident.any fun incident => incident.alertsCount == 0

/-- The rows of the subquery of `is_all_alerts_in_status`. -/
def statusRows (tables : Tables) (fingerprints : Option (List String))
    (incident : Option Incident) : List (LastAlertRow × AlertRow) :=
  let rows := join (fun lastAlert alert => lastAlert.alertId == alert.id) tables.lastAlerts
    tables.alerts
  let rows :=
    match fingerprints with
    | none => rows
    | some [] => rows
    | some fingerprints => rows.filter fun row => decide (row.1.fingerprint ∈ fingerprints)
  match incident with
  | none => rows
  | some incident =>
      (join (fun row link => link.fingerprint == row.1.fingerprint && link.deletedAt.isNone &&
        link.incident == incident.id) rows tables.links).map Prod.fst

/-- `is_all_alerts_in_status` -/
def isAllAlertsInStatus (tables : Tables) (fingerprints : Option (List String))
    (incident : Option Incident) (status : String) : Bool :=
  if hasNoAlerts incident then false
  else !(statusRows tables fingerprints incident).any fun row => notInStatus status row == .yes

/-- `is_all_alerts_resolved` -/
def isAllAlertsResolved (tables : Tables) (fingerprints : Option (List String))
    (incident : Option Incident) : Bool :=
  isAllAlertsInStatus tables fingerprints incident resolvedStatus

/-!
## The first and the last alert
-/

/-- An alert with the last alert of its fingerprint and a link of it. -/
structure EdgeRow where
  alert : AlertRow
  lastAlert : Option LastAlertRow
  link : Link

/-- The override, by which the rows are grouped too. -/
def EdgeRow.enrichedStatus (row : EdgeRow) : Option String := row.lastAlert.bind LastAlertRow.status

/-- What a database does with a column that is not grouped: it refuses the query, or takes the
column of one of the rows of the group. -/
structure Database where
  takesUngrouped : Bool
  ungrouped : EdgeRow -> List EdgeRow -> EdgeRow
  ungrouped_mem : forall row rows, ungrouped row rows ∈ row :: rows

/-- `func.min` or `func.max` -/
inductive Direction where
  | min
  | max
  deriving DecidableEq, Repr

def Direction.of : Direction -> List Nat -> Nat
  | .min, times => times.min?.getD 0
  | .max, times => times.max?.getD 0

inductive EdgeFailure where
  | programmingError
  | typeError
  deriving DecidableEq, Repr

/-- The last alert of a fingerprint, by its key. -/
def Tables.lastAlertOf (tables : Tables) (fingerprint : String) : Option LastAlertRow :=
  tables.lastAlerts.find? fun lastAlert => lastAlert.fingerprint == fingerprint

/-- The joined rows of an incident, with the links that were deleted. -/
def edgeRows (tables : Tables) (incidentId : Nat) : List EdgeRow :=
  tables.alerts.flatMap fun alert =>
    (tables.links.filter fun link =>
      link.fingerprint == alert.fingerprint && link.incident == incidentId).map fun link =>
        ⟨alert, tables.lastAlertOf alert.fingerprint, link⟩

/-- The groups of the query.  No time is zero, so that `HAVING` keeps all of them. -/
def edgeGroups (tables : Tables) (incidentId : Nat) : List (List EdgeRow) :=
  groupBy (fun row => (row.alert.fingerprint, row.enrichedStatus)) (edgeRows tables incidentId)

/-- `direction(Alert.timestamp)` of a group. -/
def edgeTime (direction : Direction) (group : List EdgeRow) : Nat :=
  direction.of (group.map fun row => row.alert.timestamp)

/-- `is_edge_incident_alert_resolved` -/
def isEdgeIncidentAlertResolved (database : Database) (tables : Tables) (incident : Incident)
    (direction : Direction) : Except EdgeFailure Bool :=
  if incident.alertsCount = 0 then .ok false
  else if database.takesUngrouped = false then .error .programmingError
  else
    match (edgeGroups tables incident.id).argmin (edgeTime direction) with
    | none => .error .typeError
    | some [] => .error .typeError
    | some (row :: rows) =>
        .ok (row.enrichedStatus == some resolvedStatus ||
          (row.enrichedStatus.isNone &&
            (database.ungrouped row rows).alert.status == some resolvedStatus))

/-- `is_last_incident_alert_resolved` -/
def isLastIncidentAlertResolved (database : Database) (tables : Tables) (incident : Incident) :
    Except EdgeFailure Bool :=
  isEdgeIncidentAlertResolved database tables incident .max

/-- `is_first_incident_alert_resolved` -/
def isFirstIncidentAlertResolved (database : Database) (tables : Tables) (incident : Incident) :
    Except EdgeFailure Bool :=
  isEdgeIncidentAlertResolved database tables incident .min

end Incidents
end KeepGateway
