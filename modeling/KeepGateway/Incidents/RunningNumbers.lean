import KeepGateway.Lib.Run
import Mathlib.Data.Int.Order.Basic

/-!
# Running numbers

Calls of `create_incident_from_dict` of one tenant, each with a session of its own that is passed
in: the query for the largest number, the insert and the commit of any of them in any order.
-/

namespace KeepGateway
namespace Incidents
namespace Numbers

/-!
## Incidents and calls
-/

/-- An incident of the tenant, with the call that creates it where there is one. -/
structure Incident where
  creator : Option Nat
  runningNumber : Option Int
  committed : Bool
  deriving DecidableEq, Repr

inductive DbError where
  | integrityError
  | pendingRollbackError
  deriving DecidableEq, Repr

/-- Where a call stands.  From `ready`, its next flush begins. -/
inductive Phase where
  | notStarted
  | ready
  | numbered (runningNumber : Int)
  | inserted
  | returned
  | raised (error : DbError)
  deriving DecidableEq, Repr

/-- A call, with its session, the tries that are left, and the creators of the incidents that its
failed inserts met. -/
structure Call where
  phase : Phase
  isActive : Bool
  tries : Nat
  lostTo : List (Option Nat)
  deriving DecidableEq, Repr

structure State where
  incidents : List Incident
  calls : Nat -> Call

def State.set (s : State) (i : Nat) (call : Call) : State where
  incidents := s.incidents
  calls := fun j => if j = i then call else s.calls j

/-- The numbers of a tenant before the calls.  The index keeps them distinct. -/
structure Table where
  numbers : List (Option Int)
  distinct : (numbers.filterMap id).Nodup

def State.init (table : Table) : State where
  incidents := table.numbers.map fun number => ⟨none, number, true⟩
  calls := fun _ => ⟨.notStarted, true, 3, []⟩

/-!
## The number
-/

/-- `get_next_running_number`: a query sees what is committed. -/
def getNextRunningNumber (incidents : List Incident) : Int :=
  let result := ((incidents.filter Incident.committed).filterMap Incident.runningNumber).max?
  result.getD 0 + 1

/-- The incident that the unique index has under a number. -/
def holder (incidents : List Incident) (number : Int) : Option Incident :=
  incidents.find? fun incident => incident.runningNumber == some number

/-!
## Failures
-/

/-- The exceptions that `retry_on_db_error` is for. -/
def isRetried : DbError -> Bool
  | .integrityError => true
  | .pendingRollbackError => false

/-- The `except` of `retry_on_db_error`: the session that `existed_or_new_session` has attached to
the exception is rolled back unless it is active. -/
def rollBack (attached : Option Bool) (isActive : Bool) : Bool :=
  match attached with
  | some false => true
  | _ => isActive

/-- An exception in the body: it is retried as long as there are tries left. -/
def Call.fail (call : Call) (error : DbError) : Call :=
  if isRetried error then
    let isActive := rollBack (some call.isActive) call.isActive
    if call.tries ≤ 1 then { call with phase := .raised error, isActive := isActive }
    else { call with phase := .ready, isActive := isActive, tries := call.tries - 1 }
  else { call with phase := .raised error }

/-- The flush of a call fails at the index; its session is not active from then on. -/
def Call.lose (call : Call) (holder : Incident) : Call :=
  { call with isActive := false, lostTo := call.lostTo ++ [holder.creator] }.fail .integrityError

/-!
## Steps
-/

inductive Action where
  | start (i : Nat)
  | query (i : Nat)
  | insert (i : Nat)
  | commit (i : Nat)
  deriving DecidableEq, Repr

def commitOf (i : Nat) (incident : Incident) : Incident :=
  if incident.creator = some i then { incident with committed := true } else incident

/-- A step of a call.  An insert that meets an incident with its number fails; where the database
lets it wait, not before the other transaction has ended. -/
def step (waits : Bool) (s : State) : Action -> Option State
  | .start i =>
      match (s.calls i).phase with
      | .notStarted => some (s.set i { s.calls i with phase := .ready })
      | _ => none
  | .query i =>
      match (s.calls i).phase with
      | .ready =>
          if (s.calls i).isActive then
            some (s.set i { s.calls i with phase := .numbered (getNextRunningNumber s.incidents) })
          else some (s.set i ((s.calls i).fail .pendingRollbackError))
      | _ => none
  | .insert i =>
      match (s.calls i).phase with
      | .numbered number =>
          match holder s.incidents number with
          | none =>
              some (State.set ⟨s.incidents ++ [⟨some i, some number, false⟩], s.calls⟩ i
                { s.calls i with phase := .inserted })
          | some other =>
              if waits && !other.committed then none
              else some (s.set i ((s.calls i).lose other))
      | _ => none
  | .commit i =>
      match (s.calls i).phase with
      | .inserted =>
          some (State.set ⟨s.incidents.map (commitOf i), s.calls⟩ i
            { s.calls i with phase := .returned })
      | _ => none

end Numbers
end Incidents
end KeepGateway
