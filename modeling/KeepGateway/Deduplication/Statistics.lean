import KeepGateway.Lib.Dict
import KeepGateway.Lib.GroupedRows
import KeepGateway.Lib.Hours

/-!
# Statistics of deduplication

`get_all_deduplication_stats` of `db.py`.  The table is that of one tenant.
-/

namespace KeepGateway
namespace Deduplication

open Hours Rows

/-!
## The table and its queries
-/

/-- An event.  What writes it cuts off the minutes of `date_hour`. -/
structure AlertDeduplicationEvent where
  deduplicationRuleId : String
  deduplicationType : String
  dateHour : Int
  providerId : Option String
  providerType : Option String
  onHour : dateHour % hour = 0

/-- The two times that are read, one for the cut-off and one for the hours. -/
structure Clock where
  asked : Int
  now : Int
  ordered : asked ≤ now

def Clock.twentyFourHoursAgo (clock : Clock) : Int := clock.asked - 24 * hour

def Clock.currentHour (clock : Clock) : Int := truncate clock.now

structure AllTimeKey where
  deduplicationRuleId : String
  providerId : Option String
  providerType : Option String
  deduplicationType : String
  deriving DecidableEq, Repr

structure HourlyKey where
  deduplicationRuleId : String
  providerId : Option String
  providerType : Option String
  dateHour : Int
  deriving DecidableEq, Repr

namespace AlertDeduplicationEvent

def allTimeKey (event : AlertDeduplicationEvent) : AllTimeKey :=
  ⟨event.deduplicationRuleId, event.providerId, event.providerType, event.deduplicationType⟩

def hourlyKey (event : AlertDeduplicationEvent) : HourlyKey :=
  ⟨event.deduplicationRuleId, event.providerId, event.providerType, event.dateHour⟩

end AlertDeduplicationEvent

/-- The events that the second query counts. -/
def lastDay (events : List AlertDeduplicationEvent) (clock : Clock) :
    List AlertDeduplicationEvent :=
  events.filter fun event => decide (clock.twentyFourHoursAgo ≤ event.dateHour)

/-- The rows of the two queries, in any order. -/
structure Results (events : List AlertDeduplicationEvent) (clock : Clock) where
  allTime : List (AllTimeKey × Nat)
  alertsLast24Hours : List (HourlyKey × Nat)
  allTime_perm : allTime.Perm (countBy AlertDeduplicationEvent.allTimeKey events)
  alertsLast24Hours_perm :
    alertsLast24Hours.Perm (countBy AlertDeduplicationEvent.hourlyKey (lastDay events clock))

/-!
## Statistics
-/

structure DeduplicationStats where
  fullDedupCount : Nat
  partialDedupCount : Nat
  noneDedupCount : Nat
  alertsLast24Hours : List HourNumber
  providerId : Option String
  providerType : String
  deriving DecidableEq, Repr

/-- The buckets, from the current hour back. -/
def noAlerts (currentHour : Int) : List HourNumber :=
  buckets (fun i => ofDay (currentHour - i * hour)) fun _ => 0

/-- `provider_type`, where no provider is `keep`. -/
def providerTypeOrKeep : Option String -> String
  | none => "keep"
  | some providerType => if providerType = "" then "keep" else providerType

def DeduplicationStats.init (currentHour : Int) (key : AllTimeKey) : DeduplicationStats where
  fullDedupCount := 0
  partialDedupCount := 0
  noneDedupCount := 0
  alertsLast24Hours := noAlerts currentHour
  providerId := key.providerId
  providerType := providerTypeOrKeep key.providerType

def DeduplicationStats.add (deduplicationType : String) (count : Nat)
    (stats : DeduplicationStats) : DeduplicationStats :=
  if deduplicationType = "full" then { stats with fullDedupCount := stats.fullDedupCount + count }
  else if deduplicationType = "partial" then
    { stats with partialDedupCount := stats.partialDedupCount + count }
  else if deduplicationType = "none" then
    { stats with noneDedupCount := stats.noneDedupCount + count }
  else stats

abbrev AllStats := List (String × DeduplicationStats)

/-- The body of the first loop. -/
def addAllTime (currentHour : Int) (stats : AllStats) (row : AllTimeKey × Nat) : AllStats :=
  let rule := row.1.deduplicationRuleId
  let entry := (stats.lookup rule).getD (.init currentHour row.1)
  Dict.set rule (entry.add row.1.deduplicationType row.2) stats

/-- `int((current_hour - date_hour).total_seconds() / 3600)` -/
def hoursAgo (currentHour dateHour : Int) : Int := (currentHour - dateHour).tdiv hour

/-- The number of a row is written into the bucket that its hour leads to. -/
def fill (currentHour : Int) (buckets : List HourNumber) (row : HourlyKey × Nat) :
    List HourNumber :=
  let ago := hoursAgo currentHour row.1.dateHour
  if 0 ≤ ago ∧ ago < 24 then
    buckets.modify (23 - ago).toNat fun bucket => { bucket with number := row.2 }
  else buckets

/-- The body of the second loop. -/
def addLast24Hours (currentHour : Int) (stats : AllStats) (row : HourlyKey × Nat) : AllStats :=
  let rule := row.1.deduplicationRuleId
  match stats.lookup rule with
  | none => stats
  | some entry =>
      Dict.set rule { entry with
        alertsLast24Hours := fill currentHour entry.alertsLast24Hours row } stats

/-- `get_all_deduplication_stats` -/
def getAllDeduplicationStats {events : List AlertDeduplicationEvent} {clock : Clock}
    (results : Results events clock) : AllStats :=
  results.alertsLast24Hours.foldl (addLast24Hours clock.currentHour)
    (results.allTime.foldl (addAllTime clock.currentHour) [])

end Deduplication
end KeepGateway
