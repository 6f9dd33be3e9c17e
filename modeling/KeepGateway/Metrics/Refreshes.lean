import KeepGateway.Lib.Except
import KeepGateway.Lib.Gauges
import KeepGateway.Lib.GroupedRows
import KeepGateway.Lib.Separated
import Mathlib.Data.Int.Order.Basic

/-!
# Refreshes of the gauges

`refresh_active_users_metric` and `refresh_incident_metrics` of one process: what they compute
from the database, and what they set.
-/

namespace KeepGateway
namespace Metrics

open Gauges
open Separated (occursIn)

/-!
## The database
-/

structure AlertAudit where
  tenantId : String
  timestamp : Int
  userId : String
  deriving DecidableEq, Repr

structure LastAlertToIncident where
  tenantId : String
  deletedAt : Option Int
  deriving DecidableEq, Repr

/-- A value of a JSON document.  Of a number, an array or an object only its truth and its `str`
are read. -/
inductive JsonValue where
  | null
  | text (s : String)
  | other (truth : Bool) (str : String)
  deriving DecidableEq, Repr

structure IncidentEnrichment where
  tenantId : String
  /-- None if the document is not an object. -/
  enrichments : Option (List (String × JsonValue))
  deriving DecidableEq, Repr

structure Database where
  alertAudits : List AlertAudit
  lastAlertToIncidents : List LastAlertToIncident
  incidentEnrichments : List IncidentEnrichment

inductive DbError where
  | queryFailed
  deriving DecidableEq, Repr

def exec {α : Type} (fails : Bool) (rows : List α) : Except DbError (List α) :=
  if fails then .error .queryFailed else .ok rows

/-!
## Active users
-/

/-- `timedelta(days=...)`, in microseconds. -/
def days (n : Int) : Int := n * 86400000000

/-- `ACTIVE_USER_WINDOWS` -/
def activeUserWindows : List (String × Int) := [("1d", days 1), ("7d", days 7), ("30d", days 30)]

/-- `SYSTEM_ACTORS` -/
def systemActors : List String := ["system", "keep", "Keep"]

/-- The rows that the query of a window is about. -/
def AlertAudit.isActive (cutoff : Int) (audit : AlertAudit) : Bool :=
  decide (cutoff ≤ audit.timestamp) && !systemActors.contains audit.userId

/-- The query of a window: the distinct users of each tenant. -/
def distinctUsers (audits : List AlertAudit) (cutoff : Int) : List (String × Nat) :=
  let rows := audits.filter (AlertAudit.isActive cutoff)
  (rows.map AlertAudit.tenantId).dedup.map fun tenantId =>
    (tenantId, ((rows.filter fun audit => audit.tenantId = tenantId).map
      AlertAudit.userId).dedup.length)

/-- Every tenant of a window with every window. -/
def emit (perWindow : List (String × List (String × Nat))) : List ((String × String) × Nat) :=
  let tenants := (perWindow.flatMap fun entry => entry.2.map Prod.fst).dedup
  tenants.flatMap fun tenantId => activeUserWindows.map fun window =>
    ((tenantId, window.1), (((perWindow.lookup window.1).getD []).lookup tenantId).getD 0)

/-- `compute_active_users`, where the query of each window may fail. -/
def computeActiveUsers (fails : String -> Bool) (audits : List AlertAudit) (now : Int) :
    Except DbError (List ((String × String) × Nat)) :=
  (activeUserWindows.mapM fun window =>
    (exec (fails window.1) (distinctUsers audits (now - window.2))).map fun counts =>
      (window.1, counts)).map emit

/-!
## Incidents
-/

/-- `NULL_FOR_DELETED_AT`, the first day of the year 1000, in microseconds since 1970. -/
def nullForDeletedAt : Int := -30610224000000000

/-- `_count_alerts_in_incidents` -/
def countAlertsInIncidents (fails : Bool) (links : List LastAlertToIncident) :
    Except DbError (List (String × Nat)) :=
  exec fails (Rows.countBy LastAlertToIncident.tenantId
    (links.filter fun link => link.deletedAt = some nullForDeletedAt))

inductive TicketProvider where
  | servicenow
  | jira
  | other
  deriving DecidableEq, Repr

def JsonValue.truthy : JsonValue -> Bool
  | null => false
  | text s => s ≠ ""
  | other truth _ => truth

/-- `str(value or "").lower()`.  The small letters of characters beyond ASCII are in none of the
texts below. -/
def lowered (value : JsonValue) : String :=
  match value with
  | .null => ""
  | .text s => s.map Char.toLower
  | .other truth str => if truth then str.map Char.toLower else ""

/-- `_ticket_provider` -/
def ticketProvider (enrichments : Option (List (String × JsonValue))) : Option TicketProvider :=
  match enrichments with
  | none => none
  | some fields =>
      let get := fun key => (fields.lookup key).getD .null
      let hasTicket := (get "ticket_url").truthy || (get "ticket_id").truthy ||
        (get "ticket_type").truthy
      if !hasTicket then none
      else
        let ttype := lowered (get "ticket_type")
        let turl := lowered (get "ticket_url")
        if occursIn "servicenow" ttype || occursIn "service-now" turl ||
            occursIn "service_now" ttype then some .servicenow
        else if occursIn "jira" ttype || occursIn "atlassian" turl then some .jira
        else some .other

def countTicket (counts : List ((String × TicketProvider) × Nat)) (row : IncidentEnrichment) :
    List ((String × TicketProvider) × Nat) :=
  match ticketProvider row.enrichments with
  | none => counts
  | some provider =>
      let key := (row.tenantId, provider)
      Dict.set key ((counts.lookup key).getD 0 + 1) counts

/-- `_count_incidents_with_ticket` -/
def countIncidentsWithTicket (fails : Bool) (enrichments : List IncidentEnrichment) :
    Except DbError (List ((String × TicketProvider) × Nat)) :=
  (exec fails enrichments).map fun rows => rows.foldl countTicket []

/-!
## The process
-/

structure Process where
  activeUsersGauge : Gauge (String × String)
  incidentAlertsAssociatedGauge : Gauge String
  incidentsWithTicketGauge : Gauge (String × TicketProvider)
  /-- `_seen_alert_labels` -/
  seenAlertLabels : List String
  /-- `_seen_ticket_labels` -/
  seenTicketLabels : List (String × TicketProvider)

/-- A process that has just started. -/
def Process.init : Process where
  activeUsersGauge := fun _ => none
  incidentAlertsAssociatedGauge := fun _ => none
  incidentsWithTicketGauge := fun _ => none
  seenAlertLabels := []
  seenTicketLabels := []

/-- `refresh_active_users_metric`; an exception leaves the process as it is. -/
def refreshActiveUsersMetric (fails : String -> Bool) (db : Database) (now : Int)
    (process : Process) : Except DbError Process :=
  (computeActiveUsers fails db.alertAudits now).map fun counts =>
    { process with activeUsersGauge := process.activeUsersGauge.setAll counts }

/-- What `refresh_incident_metrics` sets. -/
def Process.setIncidents (process : Process) (alertsByTenant : List (String × Nat))
    (ticketsByTenantProvider : List ((String × TicketProvider) × Nat)) : Process :=
  { process with
    incidentAlertsAssociatedGauge :=
      (process.incidentAlertsAssociatedGauge.reset
        (gone process.seenAlertLabels alertsByTenant)).setAll alertsByTenant
    seenAlertLabels := alertsByTenant.map Prod.fst
    incidentsWithTicketGauge :=
      (process.incidentsWithTicketGauge.reset
        (gone process.seenTicketLabels ticketsByTenantProvider)).setAll ticketsByTenantProvider
    seenTicketLabels := ticketsByTenantProvider.map Prod.fst }

/-- `refresh_incident_metrics`; both queries come before anything is set. -/
def refreshIncidentMetrics (alertsFail ticketsFail : Bool) (db : Database) (process : Process) :
    Except DbError Process := do
  let alertsByTenant <- countAlertsInIncidents alertsFail db.lastAlertToIncidents
  let ticketsByTenantProvider <- countIncidentsWithTicket ticketsFail db.incidentEnrichments
  return process.setIncidents alertsByTenant ticketsByTenantProvider

/-- A call of one of the two, on the database of its time. -/
inductive Call where
  | activeUsers (fails : String -> Bool) (db : Database) (now : Int)
  | incidents (alertsFail ticketsFail : Bool) (db : Database)

def Call.refresh : Call -> Process -> Except DbError Process
  | activeUsers fails db now => refreshActiveUsersMetric fails db now
  | incidents alertsFail ticketsFail db => refreshIncidentMetrics alertsFail ticketsFail db

/-- The loops log what a call raises. -/
def Process.after (process : Process) (call : Call) : Process :=
  match call.refresh process with
  | .ok process => process
  | .error _ => process

def Process.run (process : Process) (calls : List Call) : Process :=
  calls.foldl Process.after process

end Metrics
end KeepGateway
