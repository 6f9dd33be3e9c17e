import KeepGateway.Cel.SqlProviders
import KeepGateway.Lib.Dict

/-!
# Incident reports

`__calculate_durations` and `__calculate_recurring_incidents` of `incident_reports.py`.  Times are
in seconds.
-/

namespace KeepGateway
namespace Reports

/-- What the two calculations read of an incident. -/
structure IncidentDto where
  id : Nat
  userGeneratedName : Option String
  aiGeneratedName : Option String
  startTime : Option Int
  creationTime : Option Int
  endTime : Option Int
  sameIncidentInThePastId : Option Nat
  deriving DecidableEq, Repr

/-- `str()` of an id. -/
def strId (id : Nat) : String := String.ofList (Cel.uuidText id)

/-- `str()` of an id that may be missing. -/
def strOptional : Option Nat -> String
  | none => "None"
  | some id => strId id

/-!
## Durations
-/

structure IncidentDurations where
  shortestDurationSeconds : Option Int
  shortestDurationIncidentId : Option String
  longestDurationSeconds : Option Int
  longestDurationIncidentId : Option String
  deriving DecidableEq, Repr

/-- The end minus the start, or minus the creation where there is no start. -/
def IncidentDto.duration (incident : IncidentDto) : Option Int :=
  match incident.startTime <|> incident.creationTime, incident.endTime with
  | some startTime, some endTime => some (endTime - startTime)
  | _, _ => none

/-- A running duration with the id of its incident. -/
abbrev Running := Option (Int × Nat)

/-- One `if` of the loop; `not duration` holds of zero too. -/
def Running.add (replaces : Int -> Int -> Bool) (running : Running) (duration : Int) (id : Nat) :
    Running :=
  match running with
  | none => some (duration, id)
  | some (current, currentId) =>
      if current = 0 ∨ replaces duration current = true then some (duration, id)
      else some (current, currentId)

def addShortest : Running -> Int -> Nat -> Running := Running.add fun d current => d < current

def addLongest : Running -> Int -> Nat -> Running := Running.add fun d current => d > current

/-- The body of the loop. -/
def addDuration (running : Running × Running) (incident : IncidentDto) : Running × Running :=
  match incident.duration with
  | none => running
  | some duration =>
      (addShortest running.1 duration incident.id, addLongest running.2 duration incident.id)

/-- `__calculate_durations` -/
def calculateDurations (resolvedIncidents : List IncidentDto) : Option IncidentDurations :=
  if resolvedIncidents = [] then none
  else
    let (shortest, longest) := resolvedIncidents.foldl addDuration (none, none)
    some
      { shortestDurationSeconds := shortest.map Prod.fst
        shortestDurationIncidentId := some (strOptional (shortest.map Prod.snd))
        longestDurationSeconds := longest.map Prod.fst
        longestDurationIncidentId := some (strOptional (longest.map Prod.snd)) }

/-!
## Recurring incidents
-/

structure ReoccuringIncidentReportDto where
  incidentName : Option String
  incidentId : String
  occurrenceCount : Nat
  deriving DecidableEq, Repr

/-- `incidents_dict` -/
structure IncidentsDict where
  incidents : List IncidentDto
  distinct : (incidents.map IncidentDto.id).Nodup

def IncidentsDict.get (incidents : IncidentsDict) (id : Nat) : Option IncidentDto :=
  incidents.incidents.find? fun incident => incident.id == id

/-- The loop over the links, with the path so far; `fuel` bounds its iterations.  A path that ends
at an incident without a link is returned with that incident. -/
def followLinks (incidents : IncidentsDict) :
    Nat -> List Nat -> Option Nat -> Option (Option (Nat × List Nat))
  | _, _, none => some none
  | 0, _, some _ => none
  | fuel + 1, path, some current =>
      match incidents.get current with
      | none => some none
      | some pastIncident =>
          match pastIncident.sameIncidentInThePastId with
          | none => some (some (current, path ++ [current]))
          | some earlier => followLinks incidents fuel (path ++ [current]) (some earlier)

/-- `set.add` -/
def addId (ids : List Nat) (id : Nat) : List Nat := if id ∈ ids then ids else ids ++ [id]

/-- What a path adds to the sets of ids. -/
def addPath (recurringIncidents : List (Nat × List Nat)) (found : Option (Nat × List Nat)) :
    List (Nat × List Nat) :=
  match found with
  | none => recurringIncidents
  | some (rootIncidentId, path) =>
      let recurringIncidents := Dict.setDefault rootIncidentId [] recurringIncidents
      let ids := (recurringIncidents.lookup rootIncidentId).getD []
      Dict.set rootIncidentId (path.foldl addId ids) recurringIncidents

/-- The body of the loop over the incidents. -/
def addIncident (incidents : IncidentsDict) (fuel : Nat)
    (recurringIncidents : List (Nat × List Nat)) (incident : IncidentDto) :
    Option (List (Nat × List Nat)) :=
  (followLinks incidents fuel [incident.id] incident.sameIncidentInThePastId).map
    (addPath recurringIncidents)

/-- `incident.user_generated_name or incident.ai_generated_name` -/
def IncidentDto.name (incident : IncidentDto) : Option String :=
  match incident.userGeneratedName with
  | none => incident.aiGeneratedName
  | some "" => incident.aiGeneratedName
  | some name => some name

def reoccuring (incidents : IncidentsDict) (entry : Nat × List Nat) :
    ReoccuringIncidentReportDto where
  incidentName := (incidents.get entry.1).bind IncidentDto.name
  incidentId := strId entry.1
  occurrenceCount := entry.2.length

/-- `__calculate_recurring_incidents`, where `fuel` bounds the iterations of each inner loop. -/
def calculateRecurringIncidents (fuel : Nat) (incidents : IncidentsDict) :
    Option (List ReoccuringIncidentReportDto) :=
  (incidents.incidents.foldlM (addIncident incidents fuel) []).map fun recurringIncidents =>
    recurringIncidents.map (reoccuring incidents)

end Reports
end KeepGateway
