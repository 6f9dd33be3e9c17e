import KeepGateway.Incidents.Store
import KeepGateway.Lib.Except

/-!
# Merging incidents

`merge_incidents_to_id` with every way in which the database can fail it.  The
remove step commits in a session of its own; the status of a source waits in the
session of the merge until the add step, or the end, commits it, and is gone when
the session is rolled back before that.
-/

namespace KeepGateway
namespace Incidents

/-- What the remove step does: it may raise OperationalError before or after it
commits the unlinking. -/
inductive RemoveOutcome where
  | completes
  | raisesBeforeCommit
  | raisesAfterCommit
  deriving DecidableEq, Repr

/-- What the add step does with its three tries: whether the last one raises
OperationalError, whether one that raised had committed the links, and whether one rolled
the session back before anything was committed. -/
structure AddOutcome where
  raises : Bool
  stored : Bool
  rolledBack : Bool
  deriving DecidableEq, Repr

structure Outcome where
  remove : RemoveOutcome
  add : AddOutcome
  deriving DecidableEq, Repr

/-- The session of a merge, with the sources whose status it has not flushed. -/
structure Session where
  db : Db
  pending : List Nat

/-- What a merge is called with, and what its calls do to each source. -/
structure Merge where
  alerts : LastAlerts
  now : Nat
  destination : Nat
  mergedBy : Option String
  outcomes : Nat -> Outcome

def Incident.merge (destination : Nat) (mergedBy : Option String) (row : Incident) : Incident :=
  { row with status := .merged, mergedInto := some destination, mergedBy := mergedBy }

theorem Incident.merge_id (destination : Nat) (mergedBy : Option String) (row : Incident) :
    (row.merge destination mergedBy).id = row.id :=
  rfl

namespace Merge

def flush (m : Merge) (pending : List Nat) (db : Db) : Db :=
  pending.foldl
    (fun db id =>
      db.update id (Incident.merge m.destination m.mergedBy)
        (Incident.merge_id m.destination m.mergedBy))
    db

def commit (m : Merge) (s : Session) : Session where
  db := m.flush s.pending s.db
  pending := []

/-- An OperationalError of the remove step is caught. -/
def removeStep (m : Merge) (db : Db) (source : Nat) (fingerprints : List String) :
    Except Failure Db :=
  match (m.outcomes source).remove with
  | .raisesBeforeCommit => .ok db
  | .raisesAfterCommit => .ok (db.unlink m.now source fingerprints)
  | .completes =>
      (removeAlertsToIncidentByIncidentId m.alerts m.now db source fingerprints).map Prod.fst

/-- Returns whether the source counts as merged.  A try that follows one which committed
the links finds nothing new. -/
def addStep (m : Merge) (s : Session) (source : Nat) (fingerprints : List String) :
    Except Failure (Session × Bool) :=
  let o := (m.outcomes source).add
  let s := if o.rolledBack then { s with pending := [] } else s
  let new := s.db.newFingerprints m.destination fingerprints false
  let linked := m.commit { s with db := s.db.link m.destination new }
  if new = [] then .ok (s, !o.raises)
  else if o.stored then .ok (linked, !o.raises)
  else if o.raises then .ok (s, false)
  else do
    let db <- updateAfterAdd m.alerts linked.db m.destination new
    return ({ linked with db := db }, true)

/-- The body of the loop. -/
def mergeSource (m : Merge) (s : Session) (source : Nat) (fingerprints : List String) :
    Except Failure (Session × Bool) := do
  let db <- m.removeStep s.db source fingerprints
  m.addStep { db := db, pending := s.pending ++ [source] } source fingerprints

/-- The loop, with the merged and the failed sources. -/
def mergeSources (m : Merge) (fingerprints : Nat -> List String) (s : Session) :
    List Nat -> Except Failure (Session × List Nat × List Nat)
  | [] => .ok (s, [], [])
  | source :: rest => do
      let (s, merged) <- m.mergeSource s source (fingerprints source)
      let (s, mergedIds, failedIds) <- m.mergeSources fingerprints s rest
      return (s, if merged then source :: mergedIds else mergedIds,
        if merged then failedIds else source :: failedIds)

end Merge

/-- The incidents that the query for the sources finds. -/
def Db.sources (db : Db) (sourceIds : List Nat) : List Nat :=
  (db.incidents.map Incident.id).filter fun id => id ∈ sourceIds

def mergeIncidentsToId (m : Merge) (db : Db) (sourceIds : List Nat) :
    Except Failure (Db × List Nat × List Nat) :=
  match db.find m.destination with
  | none =>
      .error (.destinationIncidentNotFound
        ("Destination incident with id " ++ toString m.destination ++ " not found"))
  | some _ => do
      let (s, mergedIds, failedIds) <-
        m.mergeSources db.active { db := db, pending := [] } (db.sources sourceIds)
      return ((m.commit s).db, mergedIds, failedIds)

/-!
## What is lost
-/

def Db.status (db : Db) (id : Nat) : Option Status :=
  (db.find id).map Incident.status

/-- A merge loses no alert: what its destination and the merged sources had is linked to
the destination, and a failed source is as it was. -/
structure LosesNoAlert (destination : Nat) (before after : Db) (merged failed : List Nat) :
    Prop where
  linked : forall f, (f ∈ before.active destination ∨ exists s, s ∈ merged ∧ f ∈ before.active s) ->
    f ∈ after.active destination
  failedLinks : forall s, s ∈ failed -> forall f, f ∈ before.active s -> f ∈ after.active s
  failedStatus : forall s, s ∈ failed -> after.status s = before.status s
  destinationStatus : after.status destination = some .merged ->
    before.status destination = some .merged

namespace Merge

/-- The remove step of a source commits the unlinking. -/
def unlinks (m : Merge) (source : Nat) : Bool :=
  (m.outcomes source).remove != .raisesBeforeCommit

/-- The add step of a source commits the links it has to make. -/
def stores (m : Merge) (source : Nat) : Bool :=
  (m.outcomes source).add.stored || !(m.outcomes source).add.raises

/-- The links of the destination when the add step of a source begins. -/
def linkedBefore (m : Merge) (fingerprints : Nat -> List String) (linked : List String)
    (source : Nat) : List String :=
  if source = m.destination ∧ m.unlinks source then
    linked.filter fun f => f ∉ fingerprints source
  else linked

def linkedAfter (m : Merge) (fingerprints : Nat -> List String) (linked : List String)
    (source : Nat) : List String :=
  m.linkedBefore fingerprints linked source ++ if m.stores source then fingerprints source else []

/-- The add step of a source has links to make, and commits them. -/
def commits (m : Merge) (fingerprints : Nat -> List String) (linked : List String)
    (source : Nat) : Bool :=
  m.stores source &&
    (fingerprints source).any fun f => f ∉ m.linkedBefore fingerprints linked source

/-- Over the remaining sources the session is rolled back before it commits anything. -/
def rolledBackFirst (m : Merge) (fingerprints : Nat -> List String) :
    List String -> List Nat -> Bool
  | _, [] => false
  | linked, source :: rest =>
      (m.outcomes source).add.rolledBack ||
        !m.commits fingerprints linked source &&
          m.rolledBackFirst fingerprints (m.linkedAfter fingerprints linked source) rest

/-- The new status of a source is rolled back before the session commits it. -/
def statusDropped (m : Merge) (fingerprints : Nat -> List String) (id : Nat) :
    List String -> List Nat -> Bool
  | _, [] => false
  | linked, source :: rest =>
      if source = id then m.rolledBackFirst fingerprints linked (source :: rest)
      else m.statusDropped fingerprints id (m.linkedAfter fingerprints linked source) rest

end Merge

/-- The failures that cost no alert. -/
structure Harmless (m : Merge) (db : Db) (sources : List Nat) : Prop where
  /-- A source that cannot be added was not unlinked, or had no links. -/
  failedLinks : forall s, s ∈ sources -> s ≠ m.destination ->
    (m.outcomes s).add.raises = true -> m.unlinks s = true -> db.active s = []
  status : forall s, s ∈ sources -> (m.outcomes s).add.raises = true ∨ s = m.destination ->
    db.status s = some .merged ∨
      m.statusDropped db.active s (db.active m.destination) sources = true
  /-- What was unlinked from the destination is linked to it again by a later add step. -/
  relinked : m.destination ∈ sources -> m.unlinks m.destination = true ->
    forall f, f ∈ db.active m.destination ->
      exists s, s ∈ sources.dropWhile (fun s => s != m.destination) ∧ m.stores s = true ∧
        f ∈ db.active s

end Incidents
end KeepGateway
