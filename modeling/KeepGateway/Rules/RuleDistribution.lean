import KeepGateway.Lib.Calendar
import KeepGateway.Lib.Dict
import KeepGateway.Lib.DistinctRows
import KeepGateway.Lib.GroupedRows
import KeepGateway.Providers.Distribution

/-!
# The distribution of hits over rules

`get_rule_distribution` of `db.py`.
-/

namespace KeepGateway
namespace Rules
namespace Distribution

open Calendar (Instant)
open Providers (hourOfHalfDay)
open Rows

/-!
## The tables
-/

structure Rule where
  id : Nat
  tenantId : String
  name : String
  deriving DecidableEq, Repr

structure Incident where
  id : Nat
  ruleId : Option Nat
  ruleFingerprint : Option String
  deriving DecidableEq, Repr

structure LastAlertToIncident where
  tenantId : String
  fingerprint : String
  incidentId : Nat
  deletedAt : Instant
  timestamp : Instant
  deriving DecidableEq, Repr

def LastAlertToIncident.primaryKey (link : LastAlertToIncident) :
    String × String × Nat × Instant :=
  (link.tenantId, link.fingerprint, link.incidentId, link.deletedAt)

/-- The tables, by their primary keys. -/
structure Database where
  rules : List Rule
  incidents : List Incident
  links : List LastAlertToIncident
  ruleIds : (rules.map Rule.id).Nodup
  incidentIds : (incidents.map Incident.id).Nodup
  primaryKeys : (links.map LastAlertToIncident.primaryKey).Nodup

/-!
## The query
-/

inductive Dialect where
  | mysql
  | postgresql
  | sqlite
  | other
  deriving DecidableEq, Repr

/-- `timestamp_format`, where the dialect has one.  `HH` of PostgreSQL is an hour of half a day. -/
def timestampFormat (dialect : Dialect) (minute : Bool) : Option (Instant -> String) :=
  match dialect with
  | .mysql => some fun t => t.timeText minute t.hour
  | .postgresql => some fun t => t.timeText minute (hourOfHalfDay t.hour)
  | .sqlite => some fun t => t.timeText minute t.hour
  | .other => none

/-- `NULL_FOR_DELETED_AT`, the first day of the year 1000. -/
def nullForDeletedAt : Instant := ⟨364877 * Calendar.day, by decide⟩

/-- `seven_days_ago`, which is one day ago. -/
def sevenDaysAgo (now : Instant) : Nat := now.microseconds - Calendar.day

/-- The filter on the links. -/
def LastAlertToIncident.isActive (now : Instant) (link : LastAlertToIncident) : Bool :=
  link.deletedAt == nullForDeletedAt && decide (sevenDaysAgo now ≤ link.timestamp.microseconds)

abbrev Joined := (Rule × Incident) × LastAlertToIncident

/-- The rows that are grouped. -/
def selected (db : Database) (tenantId : String) (now : Instant) : List Joined :=
  let ruleIncidents := join (fun rule incident => incident.ruleId == some rule.id) db.rules
    db.incidents
  let joined := join (fun row link => row.2.id == link.incidentId) ruleIncidents db.links
  joined.filter fun row => row.2.isActive now && row.1.1.tenantId == tenantId

/-- The columns of `group_by`. -/
structure GroupKey where
  ruleId : Nat
  ruleName : String
  incidentId : Nat
  ruleFingerprint : Option String
  time : String
  deriving DecidableEq, Repr

def groupKey (format : Instant -> String) (row : Joined) : GroupKey where
  ruleId := row.1.1.id
  ruleName := row.1.1.name
  incidentId := row.1.2.id
  ruleFingerprint := row.1.2.ruleFingerprint
  time := format row.2.timestamp

/-- The rows of the query.  They are sorted by the time, and in any order where that is equal. -/
structure Results (format : Instant -> String) (db : Database) (tenantId : String)
    (now : Instant) where
  rows : List (GroupKey × Nat)
  perm : rows.Perm (countBy (groupKey format) (selected db tenantId now))

/-!
## The dictionary
-/

abbrev Times := List (String × Nat)

abbrev Fingerprints := List (Option String × Times)

abbrev RuleDistribution := List (Nat × Fingerprints)

/-- The body of the loop. -/
def addResult (distribution : RuleDistribution) (result : GroupKey × Nat) : RuleDistribution :=
  let fingerprints := Dict.getD distribution result.1.ruleId []
  let times := Dict.getD fingerprints result.1.ruleFingerprint []
  Dict.set result.1.ruleId
    (Dict.set result.1.ruleFingerprint (Dict.set result.1.time result.2 times) fingerprints)
    distribution

inductive ValueError where
  | unsupportedDialect
  deriving DecidableEq, Repr

/-- `get_rule_distribution`, where the database answers the query for any format. -/
def getRuleDistribution (dialect : Dialect) (minute : Bool) {db : Database} {tenantId : String}
    {now : Instant} (query : forall format, Results format db tenantId now) :
    Except ValueError RuleDistribution :=
  match timestampFormat dialect minute with
  | none => .error .unsupportedDialect
  | some format => .ok ((query format).rows.foldl addResult [])

end Distribution
end Rules
end KeepGateway
