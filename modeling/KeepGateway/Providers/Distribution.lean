import KeepGateway.Cel.SqlProviders
import KeepGateway.Lib.Dict
import KeepGateway.Lib.GroupedRows
import KeepGateway.Lib.Hours

/-!
# The distribution of alerts over providers

`get_provider_distribution` of `db.py` without a filter on the time.  The table is that of one
tenant.
-/

namespace KeepGateway
namespace Providers

open Cel (Dialect)
open Hours Rows

/-!
## The query
-/

structure Alert where
  providerId : Option String
  providerType : Option String
  timestamp : Int
  deriving DecidableEq, Repr

/-- The hour as `HH` of PostgreSQL writes it, from 01 to 12. -/
def hourOfHalfDay (hourOfDay : Nat) : Nat := (hourOfDay + 11) % 12 + 1

/-- The time that the text of `timestamp_format` is read as.  The text has the day and the
hour. -/
def timestampFormat (dialect : Dialect) (timestamp : Int) : Int :=
  match dialect with
  | .mysql => truncate timestamp
  | .sqlite => truncate timestamp
  | .postgresql =>
      timestamp / (24 * hour) * (24 * hour) + hourOfHalfDay (ofDay timestamp) * hour

/-- The columns of `group_by`. -/
structure GroupKey where
  providerId : Option String
  providerType : Option String
  time : Int
  deriving DecidableEq, Repr

def Alert.groupKey (dialect : Dialect) (alert : Alert) : GroupKey :=
  ⟨alert.providerId, alert.providerType, timestampFormat dialect alert.timestamp⟩

structure Row where
  key : GroupKey
  hits : Nat
  lastAlertTimestamp : Int

def twentyFourHoursAgo (now : Int) : Int := now - 24 * hour

/-- The alerts that the query selects. -/
def selected (alerts : List Alert) (now : Int) : List Alert :=
  alerts.filter fun alert => decide (twentyFourHoursAgo now ≤ alert.timestamp)

/-- The rows of the query, in the order in which the database sorts them. -/
structure Results (dialect : Dialect) (alerts : List Alert) (now : Int) where
  rows : List Row
  hits : (rows.map fun row => (row.key, row.hits)).Perm
    (countBy (Alert.groupKey dialect) (selected alerts now))
  last : forall row, row ∈ rows -> some row.lastAlertTimestamp =
    (((selected alerts now).filter fun alert => alert.groupKey dialect = row.key).map
      Alert.timestamp).max?

/-!
## The distribution
-/

structure ProviderDistribution where
  providerId : Option String
  providerType : Option String
  alertLast24Hours : List HourNumber
  lastAlertReceived : Int
  deriving DecidableEq, Repr

abbrev Distribution := List (String × ProviderDistribution)

/-- A column in an f-string. -/
def formatted : Option String -> String
  | none => "None"
  | some text => text

def providerKey (providerId providerType : Option String) : String :=
  formatted providerId ++ "_" ++ formatted providerType

/-- `int((time - twenty_four_hours_ago).total_seconds() // 3600)` -/
def bucketIndex (now time : Int) : Int := (time - twentyFourHoursAgo now) / hour

/-- The entry of a row, before its hits are counted. -/
def entryOf (distribution : Distribution) (row : Row) : ProviderDistribution :=
  match distribution.lookup (providerKey row.key.providerId row.key.providerType) with
  | none =>
      { providerId := row.key.providerId
        providerType := row.key.providerType
        alertLast24Hours := buckets (fun i => i) fun _ => 0
        lastAlertReceived := row.lastAlertTimestamp }
  | some entry =>
      { entry with lastAlertReceived := max entry.lastAlertReceived row.lastAlertTimestamp }

def addHits (now : Int) (row : Row) (numbers : List HourNumber) : List HourNumber :=
  let index := bucketIndex now row.key.time
  if 0 ≤ index ∧ index < 24 then
    numbers.modify index.toNat fun bucket => { bucket with number := bucket.number + row.hits }
  else numbers

/-- The body of the loop. -/
def addRow (now : Int) (distribution : Distribution) (row : Row) : Distribution :=
  let entry := entryOf distribution row
  Dict.set (providerKey row.key.providerId row.key.providerType)
    { entry with alertLast24Hours := addHits now row entry.alertLast24Hours } distribution

/-- `get_provider_distribution` -/
def getProviderDistribution {dialect : Dialect} {alerts : List Alert} {now : Int}
    (results : Results dialect alerts now) : Distribution :=
  results.rows.foldl (addRow now) []

end Providers
end KeepGateway
